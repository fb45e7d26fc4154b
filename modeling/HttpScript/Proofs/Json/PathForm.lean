/-
Module: HttpScript.Proofs.Json.PathForm
Purpose: Which texts are read as paths into JSON values.  A path is a dollar sign and a sequence of
  names and brackets; the dot in front of a name may be missing, and one more dot may follow a name.
  Where every name has its dot and no other dot stands, the path is well formed.
Main exports: IndexForm, BracketForm, bracketed?_eq_some_iff, NameForm, Spelled, steps_eq_some_iff,
  WellFormed, ofPath?_spelled, not_wellFormed_of_ofPath?
-/
import HttpScript.Json.Path
import HttpScript.Proofs.Text.Trim

namespace HttpScript.Json.Step

open Text

/-! ### Brackets -/

/-- Digits, perhaps with a plus sign in front, of a number that is not too large for an index. -/
inductive IndexForm : List Char → Nat → Prop where
  | mk {sign digits : List Char} {n : Nat} (sign_plus : sign = [] ∨ sign = ['+'])
      (digits_ne : digits ≠ []) (digits_digits : ∀ c ∈ digits, c.isDigit = true)
      (value : Nat.ofDigitChars 10 digits 0 = n) (le_max : n ≤ maxIndex) :
      IndexForm (sign ++ digits) n

/-- What stands between brackets, with blanks allowed around it: an index, or a name between two
quotes of one kind. -/
inductive BracketForm : List Char → Step → Prop where
  | index {before index after : List Char} {n : Nat} (before_blank : AllBlank before)
      (form : IndexForm index n) (after_blank : AllBlank after) :
      BracketForm (before ++ (index ++ after)) (.index n)
  | quoted {before name after : List Char} {quote : Char} (before_blank : AllBlank before)
      (quote_quote : quote = '\'' ∨ quote = '"') (after_blank : AllBlank after) :
      BracketForm (before ++ (quote :: (name ++ [quote]) ++ after)) (.field (String.ofList name))

variable {s inner name : List Char} {step : Step} {found : List Step} {n : Nat}

theorem unquote?_eq_some_iff {quote : Char} :
    unquote? quote s = some name ↔ s = quote :: (name ++ [quote]) := by
  rw [unquote?, Option.bind_eq_some_iff]
  simp only [dropLead?_eq_some_iff, dropTail?_eq_some_iff]
  constructor
  · rintro ⟨rest, rfl, rfl⟩
    rfl
  · rintro rfl
    exact ⟨_, rfl, rfl⟩

theorem index?_eq_some_iff : index? s = some n ↔ IndexForm s n := by
  have hdigits : ∀ digits : List Char,
      (if digits.isEmpty then none else (numeral? 10 digits).filter (· ≤ maxIndex)) = some n ↔
        digits ≠ [] ∧ (∀ c ∈ digits, c.isDigit = true) ∧ Nat.ofDigitChars 10 digits 0 = n ∧
          n ≤ maxIndex := by
    intro digits
    cases digits with
    | nil => simp
    | cons c digits => simp [Option.filter_eq_some_iff, numeral?_ten_eq_some_iff, and_assoc]
  constructor
  · intro h
    unfold index? at h
    split at h
    next rest =>
      obtain ⟨hne, hall, hvalue, hle⟩ := (hdigits rest).mp h
      exact .mk (.inr rfl) hne hall hvalue hle
    next =>
      obtain ⟨hne, hall, hvalue, hle⟩ := (hdigits s).mp h
      exact .mk (.inl rfl) hne hall hvalue hle
  · rintro ⟨hsign | hsign, hne, hall, hvalue, hle⟩
    · subst hsign
      have hrest := (hdigits _).mpr ⟨hne, hall, hvalue, hle⟩
      unfold index?
      split
      next rest heq =>
        rw [List.nil_append] at heq
        exact absurd (hall '+' (heq ▸ List.mem_cons_self)) (by decide)
      next => exact hrest
    · subst hsign
      exact (hdigits _).mpr ⟨hne, hall, hvalue, hle⟩

theorem IndexForm.not_isBlank (h : IndexForm s n) : ∀ c ∈ s, isBlank c = false := by
  cases h with
  | mk hsign _ hall =>
      rw [List.forall_mem_append]
      refine ⟨?_, fun c hc => not_isBlank_of_isDigit (hall c hc)⟩
      rcases hsign with rfl | rfl
      · exact List.forall_mem_nil _
      · exact not_isBlank_of_any_eq_false (by decide)

theorem IndexForm.head (h : IndexForm s n) : ∀ c ∈ s.head?, c = '+' ∨ c.isDigit = true := by
  intro c hc
  cases h with
  | mk hsign _ hall =>
      rcases hsign with rfl | rfl
      · exact .inr (hall c (List.mem_of_mem_head? hc))
      · exact .inl (Option.some.inj hc).symm

theorem index?_quote {quote : Char} (h : quote = '\'' ∨ quote = '"') (rest : List Char) :
    index? (quote :: rest) = none := by
  rw [Option.eq_none_iff_forall_ne_some]
  intro n hn
  rw [index?_eq_some_iff] at hn
  have hhead := hn.head quote rfl
  rcases h with rfl | rfl
  · exact absurd hhead (by decide)
  · exact absurd hhead (by decide)

theorem isTrimmed_quoted {quote : Char} (h : quote = '\'' ∨ quote = '"') (name : List Char) :
    IsTrimmed (quote :: (name ++ [quote])) := by
  have hquote : isBlank quote = false := by
    rcases h with rfl | rfl
    · decide
    · decide
  constructor
  · rintro c ⟨⟩
    exact hquote
  · intro c hc
    rw [← List.cons_append, List.getLast?_concat] at hc
    obtain rfl := Option.some.inj hc
    exact hquote

theorem BracketForm.of_bracketed? (h : bracketed? inner = some step) : BracketForm inner step := by
  obtain ⟨before, after, hsplit, hbefore, hafter⟩ := exists_eq_append_trim inner
  unfold bracketed? at h
  dsimp only at h
  rw [hsplit]
  split at h
  next n hn =>
    cases h
    rw [index?_eq_some_iff] at hn
    exact .index hbefore hn hafter
  next =>
    obtain ⟨name, hname, rfl⟩ := Option.map_eq_some_iff.mp h
    cases hsingle : unquote? '\'' (trim inner) with
    | some single =>
        rw [hsingle] at hname
        obtain rfl := Option.some.inj hname
        rw [unquote?_eq_some_iff.mp hsingle]
        exact .quoted hbefore (.inl rfl) hafter
    | none =>
        rw [hsingle] at hname
        rw [unquote?_eq_some_iff.mp hname]
        exact .quoted hbefore (.inr rfl) hafter

theorem BracketForm.bracketed?_eq (h : BracketForm inner step) : bracketed? inner = some step := by
  cases h with
  | index hbefore hindex hafter =>
      have htrimmed := isTrimmed_of_forall_not_blank hindex.not_isBlank
      rw [← index?_eq_some_iff] at hindex
      simp only [bracketed?, trim_append hbefore htrimmed hafter, hindex]
  | @quoted before name after quote hbefore hquote hafter =>
      have htrim := trim_append hbefore (isTrimmed_quoted hquote name) hafter
      simp only [bracketed?, htrim, index?_quote hquote]
      rcases hquote with rfl | rfl
      · rw [unquote?_eq_some_iff.mpr rfl]
        rfl
      · have hother : unquote? '\'' ('"' :: (name ++ ['"'])) = none := by
          rw [Option.eq_none_iff_forall_ne_some]
          intro other h
          exact absurd (List.head_eq_of_cons_eq (unquote?_eq_some_iff.mp h)) (by decide)
        rw [hother, unquote?_eq_some_iff.mpr rfl]
        rfl

theorem bracketed?_eq_some_iff : bracketed? inner = some step ↔ BracketForm inner step :=
  ⟨.of_bracketed?, BracketForm.bracketed?_eq⟩

/-! ### Reading on -/

theorem steps_nil (name : List Char) : steps name [] = some (named name) := by
  rw [steps]

/-- The characters of a name that stands without quotes. -/
def isNameChar (c : Char) : Bool :=
  c != '.' && c != '[' && c != ']'

/-- One or more characters of names. -/
structure NameForm (name : List Char) : Prop where
  ne_nil : name ≠ []
  chars : ∀ c ∈ name, isNameChar c = true

theorem nameForm_iff : NameForm name ↔ name ≠ [] ∧ name.all isNameChar = true := by
  rw [List.all_eq_true]
  exact ⟨fun h => ⟨h.ne_nil, h.chars⟩, fun h => ⟨h.1, h.2⟩⟩

instance (name : List Char) : Decidable (NameForm name) :=
  decidable_of_iff _ nameForm_iff.symm

variable {rest : List Char} {c : Char}

theorem eq_of_isNameChar_eq_false (h : isNameChar c = false) : c = '.' ∨ c = '[' ∨ c = ']' := by
  by_contra hmark
  obtain ⟨hdot, hopen, hclose⟩ := by simpa only [not_or] using hmark
  simp [isNameChar, hdot, hopen, hclose] at h

theorem named_of_ne_nil (h : name ≠ []) : named name = [.field (String.ofList name)] := by
  rw [named, if_neg (by simpa using h)]

theorem steps_dot (h : name ≠ []) (rest : List Char) :
    steps name ('.' :: rest) = (steps [] rest).map (.field (String.ofList name) :: ·) := by
  rw [steps, if_neg (by simp [h]), named_of_ne_nil h]
  rfl

/-- Where no name has to be ended, a dot has to be followed by one. -/
theorem steps_nil_dot (rest : List Char) :
    steps [] ('.' :: rest) =
      if rest = [] ∨ rest.head? = some '.' ∨ rest.head? = some '[' then none else steps [] rest := by
  rw [steps]
  simp [named]

theorem steps_close (name rest : List Char) : steps name (']' :: rest) = none := by
  rw [steps]

theorem steps_cons_of_isNameChar (name : List Char) (h : isNameChar c = true) (rest : List Char) :
    steps name (c :: rest) = steps (name ++ [c]) rest := by
  rw [steps]
  · rintro rfl
    exact absurd h (by decide)
  · rintro rfl
    exact absurd h (by decide)
  · rintro rfl
    exact absurd h (by decide)

/-- The characters of a name are gathered. -/
theorem steps_append {run : List Char} (h : ∀ c ∈ run, isNameChar c = true)
    (name rest : List Char) : steps name (run ++ rest) = steps (name ++ run) rest := by
  induction run generalizing name with
  | nil => rw [List.nil_append, List.append_nil]
  | cons c run ih =>
      obtain ⟨hc, hrun⟩ := List.forall_mem_cons.mp h
      rw [List.cons_append, steps_cons_of_isNameChar name hc, ih hrun, List.append_assoc,
        List.singleton_append]

/-- A bracket ends a name as well. -/
theorem steps_open (name rest : List Char) :
    steps name ('[' :: rest) = (steps [] ('[' :: rest)).map (named name ++ ·) := by
  rw [steps, steps]
  split
  next => rfl
  next after _ =>
    cases bracketed? (rest.takeWhile (· ≠ ']')) with
    | none => rfl
    | some step =>
        cases steps [] after with
        | none => rfl
        | some more => rfl

theorem forall_ne_close (h : ']' ∉ inner) : ∀ c ∈ inner, decide (c ≠ ']') = true := by
  intro c hc
  rw [decide_eq_true_eq]
  exact ne_of_mem_of_not_mem hc h

/-- The first closing bracket closes. -/
theorem steps_nil_open (h : ']' ∉ inner) (rest : List Char) :
    steps [] ('[' :: (inner ++ ']' :: rest)) =
      (bracketed? inner).bind fun step => (steps [] rest).map (step :: ·) := by
  have hrun := forall_ne_close h
  have hstop : ∀ c ∈ (']' :: rest).head?, decide (c ≠ ']') = false := by
    rintro c ⟨⟩
    decide
  rw [steps]
  split
  next hnone =>
    rw [dropWhile_append_of_stop hrun hstop] at hnone
    cases hnone
  next after hafter =>
    rw [dropWhile_append_of_stop hrun hstop] at hafter
    obtain ⟨-, rfl⟩ := List.cons.inj hafter
    rw [takeWhile_append_of_stop hrun hstop]
    cases bracketed? inner with
    | none => rfl
    | some step =>
        cases steps [] rest with
        | none => rfl
        | some more => rfl

theorem steps_nil_open_of_notMem (h : ']' ∉ rest) : steps [] ('[' :: rest) = none := by
  rw [steps]
  split
  next => rfl
  next after hafter =>
    rw [List.dropWhile_eq_nil_iff.mpr (forall_ne_close h)] at hafter
    cases hafter

/-! ### What is read as a path -/

/-- The texts that are read as steps.  The dot in front of a name may be missing, and a dot may follow
a name whatever comes then; where none follows, the name is ended by what comes. -/
inductive Spelled : List Char → List Step → Prop where
  | done : Spelled [] []
  | bracket {inner rest : List Char} {step : Step} {more : List Step} (inner_open : ']' ∉ inner)
      (form : BracketForm inner step) (spelled : Spelled rest more) :
      Spelled ('[' :: (inner ++ ']' :: rest)) (step :: more)
  | name {lead name trail rest : List Char} {more : List Step} (lead_dot : lead = [] ∨ lead = ['.'])
      (form : NameForm name) (trail_dot : trail = [] ∨ trail = ['.'])
      (ended : trail = [] → ∀ c ∈ rest.head?, isNameChar c = false) (spelled : Spelled rest more) :
      Spelled (lead ++ (name ++ (trail ++ rest))) (.field (String.ofList name) :: more)

/-- A dot in front of a name is passed over. -/
theorem NameForm.steps_dot_append (h : NameForm name) (rest : List Char) :
    steps [] ('.' :: (name ++ rest)) = steps [] (name ++ rest) := by
  obtain ⟨c, name, rfl⟩ := List.exists_cons_of_ne_nil h.ne_nil
  have hc := h.chars c List.mem_cons_self
  rw [steps_nil_dot, if_neg]
  rintro (hnil | hdot | hopen)
  · cases hnil
  · obtain rfl := Option.some.inj hdot
    exact absurd hc (by decide)
  · obtain rfl := Option.some.inj hopen
    exact absurd hc (by decide)

/-- What can be read behind the end of a name is read there, and the name is put in front. -/
theorem NameForm.steps_eq_some (h : NameForm name)
    (hended : ∀ c ∈ rest.head?, isNameChar c = false) (hrest : steps [] rest = some found) :
    steps name rest = some (.field (String.ofList name) :: found) := by
  cases rest with
  | nil =>
      rw [steps_nil] at hrest
      obtain rfl := Option.some.inj hrest
      rw [steps_nil, named_of_ne_nil h.ne_nil]
      rfl
  | cons c rest =>
      rcases eq_of_isNameChar_eq_false (hended c rfl) with rfl | rfl | rfl
      · rw [steps_nil_dot] at hrest
        split at hrest
        · cases hrest
        · rw [steps_dot h.ne_nil, hrest]
          rfl
      · rw [steps_open, hrest, named_of_ne_nil h.ne_nil]
        rfl
      · rw [steps_close] at hrest
        cases hrest

theorem Spelled.steps_eq (h : Spelled s found) : steps [] s = some found := by
  induction h with
  | done => rw [steps_nil]; rfl
  | bracket hinner hform _ ih =>
      rw [steps_nil_open hinner, bracketed?_eq_some_iff.mpr hform, ih]
      rfl
  | @name lead name trail rest more hlead hname htrail hended _ ih =>
      have hread : steps [] (name ++ (trail ++ rest)) =
          some (.field (String.ofList name) :: more) := by
        rw [steps_append hname.chars, List.nil_append]
        rcases htrail with rfl | rfl
        · exact hname.steps_eq_some (hended rfl) ih
        · rw [List.singleton_append, steps_dot hname.ne_nil, ih]
          rfl
      rcases hlead with rfl | rfl
      · exact hread
      · rw [List.singleton_append, hname.steps_dot_append, hread]

/-- With a dot in front, what begins with a name is still read. -/
theorem Spelled.dot (h : Spelled s found) (hhead : ∃ c ∈ s.head?, isNameChar c = true) :
    Spelled ('.' :: s) found := by
  obtain ⟨c, hc, hchar⟩ := hhead
  cases h with
  | done => cases hc
  | bracket =>
      obtain rfl := Option.some.inj hc
      exact absurd hchar (by decide)
  | name hlead hname htrail hended hmore =>
      rcases hlead with rfl | rfl
      · exact .name (.inr rfl) hname htrail hended hmore
      · obtain rfl := Option.some.inj hc
        exact absurd hchar (by decide)

/-- Behind the end of a name, and behind the dot there if there is one, reading starts afresh. -/
theorem NameForm.exists_of_steps (h : NameForm name)
    (hended : ∀ c ∈ rest.head?, isNameChar c = false) (hfound : steps name rest = some found) :
    ∃ trail behind more, rest = trail ++ behind ∧ (trail = [] ∨ trail = ['.']) ∧
      (trail = [] → ∀ c ∈ behind.head?, isNameChar c = false) ∧
      steps [] behind = some more ∧ found = .field (String.ofList name) :: more := by
  cases rest with
  | nil =>
      rw [steps_nil, named_of_ne_nil h.ne_nil] at hfound
      obtain rfl := Option.some.inj hfound
      exact ⟨[], [], [], rfl, .inl rfl, fun _ => hended, steps_nil [], rfl⟩
  | cons c rest =>
      rcases eq_of_isNameChar_eq_false (hended c rfl) with rfl | rfl | rfl
      · rw [steps_dot h.ne_nil] at hfound
        obtain ⟨more, hmore, rfl⟩ := Option.map_eq_some_iff.mp hfound
        exact ⟨['.'], rest, more, rfl, .inr rfl, by simp, hmore, rfl⟩
      · rw [steps_open, named_of_ne_nil h.ne_nil] at hfound
        obtain ⟨more, hmore, rfl⟩ := Option.map_eq_some_iff.mp hfound
        exact ⟨[], _, more, rfl, .inl rfl, fun _ => hended, hmore, rfl⟩
      · rw [steps_close] at hfound
        cases hfound

/-- A text that begins with a character of a name begins with a name, which ends somewhere. -/
theorem exists_name (h : ∃ c ∈ s.head?, isNameChar c = true) :
    ∃ name rest, s = name ++ rest ∧ NameForm name ∧ ∀ c ∈ rest.head?, isNameChar c = false := by
  obtain ⟨c, hc, hchar⟩ := h
  obtain ⟨rest, rfl⟩ := List.head?_eq_some_iff.mp hc
  refine ⟨(c :: rest).takeWhile isNameChar, (c :: rest).dropWhile isNameChar,
    List.takeWhile_append_dropWhile.symm, ⟨?_, fun d hd => List.mem_takeWhile_imp hd⟩,
    head?_dropWhile_eq_false⟩
  simp [hchar]

/-- Where a dot has to be followed by a name, it is. -/
theorem exists_isNameChar_of_steps_dot (h : steps [] ('.' :: rest) = some found) :
    (∃ c ∈ rest.head?, isNameChar c = true) ∧ steps [] rest = some found := by
  rw [steps_nil_dot] at h
  split at h
  · cases h
  next hnext =>
    refine ⟨?_, h⟩
    obtain ⟨hne, hdot, hopen⟩ := by simpa only [not_or] using hnext
    obtain ⟨c, rest, rfl⟩ := List.exists_cons_of_ne_nil hne
    refine ⟨c, rfl, ?_⟩
    by_contra hchar
    rcases eq_of_isNameChar_eq_false (by simpa using hchar) with rfl | rfl | rfl
    · exact hdot rfl
    · exact hopen rfl
    · rw [steps_close] at h
      cases h

/-- What is read from an opening bracket is a bracket that closes, and what is read behind it. -/
theorem exists_bracket_of_steps (h : steps [] ('[' :: rest) = some found) :
    ∃ inner after step more, rest = inner ++ ']' :: after ∧ ']' ∉ inner ∧
      BracketForm inner step ∧ steps [] after = some more ∧ found = step :: more := by
  by_cases hclose : ']' ∈ rest
  · obtain ⟨inner, after, rfl, hinner⟩ := List.eq_append_cons_of_mem hclose
    rw [steps_nil_open hinner] at h
    obtain ⟨step, hstep, hmap⟩ := Option.bind_eq_some_iff.mp h
    obtain ⟨more, hmore, rfl⟩ := Option.map_eq_some_iff.mp hmap
    exact ⟨inner, after, step, more, rfl, hinner, bracketed?_eq_some_iff.mp hstep, hmore, rfl⟩
  · rw [steps_nil_open_of_notMem hclose] at h
    cases h

/-- By induction on the length: behind a name, a bracket or a dot less of the text is left. -/
theorem Spelled.of_steps (h : steps [] s = some found) : Spelled s found := by
  induction hlength : s.length using Nat.strong_induction_on generalizing s found with
  | _ n ih =>
      obtain _ | ⟨c, rest⟩ := s
      · rw [steps_nil] at h
        obtain rfl := Option.some.inj h
        exact .done
      cases hchar : isNameChar c with
      | true =>
          obtain ⟨name, ended, hsplit, hname, hended⟩ := exists_name (s := c :: rest) ⟨c, rfl, hchar⟩
          rw [hsplit, steps_append hname.chars, List.nil_append] at h
          obtain ⟨trail, behind, more, rfl, htrail, hstop, hmore, rfl⟩ :=
            hname.exists_of_steps hended h
          have hshorter : behind.length < n := by
            have hpos := List.length_pos_of_ne_nil hname.ne_nil
            rw [← hlength, hsplit, List.length_append, List.length_append]
            omega
          rw [hsplit]
          exact .name (.inl rfl) hname htrail hstop (ih _ hshorter hmore rfl)
      | false =>
          rcases eq_of_isNameChar_eq_false hchar with rfl | rfl | rfl
          · obtain ⟨hhead, hrest⟩ := exists_isNameChar_of_steps_dot h
            exact (ih rest.length (hlength ▸ Nat.lt_succ_self _) hrest rfl).dot hhead
          · obtain ⟨inner, after, step, more, rfl, hinner, hform, hmore, rfl⟩ :=
              exists_bracket_of_steps h
            have hshorter : after.length < n := by
              rw [← hlength]
              simp
              omega
            exact .bracket hinner hform (ih _ hshorter hmore rfl)
          · rw [steps_close] at h
            cases h

theorem steps_eq_some_iff : steps [] s = some found ↔ Spelled s found :=
  ⟨.of_steps, Spelled.steps_eq⟩

theorem ofPath?_eq_some_iff {path : List Char} :
    ofPath? path = some found ↔ ∃ rest, trim path = '$' :: rest ∧ Spelled rest found := by
  unfold ofPath?
  split
  next rest hroot =>
    rw [steps_eq_some_iff, hroot]
    constructor
    · intro h
      exact ⟨rest, rfl, h⟩
    · rintro ⟨_, ⟨⟩, h⟩
      exact h
  next hroot =>
    constructor
    · intro h
      cases h
    · rintro ⟨rest, hrest, -⟩
      exact absurd hrest (hroot rest)

/-! ### Well-formed paths -/

/-- The texts in which every step is a dot and a name, or a bracket. -/
inductive WellFormed : List Char → List Step → Prop where
  | done : WellFormed [] []
  | name {name rest : List Char} {more : List Step} (form : NameForm name)
      (wellFormed : WellFormed rest more) :
      WellFormed ('.' :: (name ++ rest)) (.field (String.ofList name) :: more)
  | bracket {inner rest : List Char} {step : Step} {more : List Step} (inner_open : ']' ∉ inner)
      (form : BracketForm inner step) (wellFormed : WellFormed rest more) :
      WellFormed ('[' :: (inner ++ ']' :: rest)) (step :: more)

/-- The step behind a name ends it. -/
theorem WellFormed.head (h : WellFormed s found) : ∀ c ∈ s.head?, isNameChar c = false := by
  intro c hc
  cases h with
  | done => cases hc
  | name =>
      obtain rfl := Option.some.inj hc
      decide
  | bracket =>
      obtain rfl := Option.some.inj hc
      decide

theorem WellFormed.spelled (h : WellFormed s found) : Spelled s found := by
  induction h with
  | done => exact .done
  | @name name rest more hname hrest ih =>
      have hdot : Spelled (['.'] ++ (name ++ ([] ++ rest))) (.field (String.ofList name) :: more) :=
        .name (.inr rfl) hname (.inl rfl) (fun _ => hrest.head) ih
      exact hdot
  | bracket hinner hform _ ih => exact .bracket hinner hform ih

/-- Behind a dot there is a name, and behind the name the text is well formed again. -/
theorem WellFormed.behind_dot (h : WellFormed ('.' :: s) found) :
    s.takeWhile isNameChar ≠ [] ∧ ∃ more, WellFormed (s.dropWhile isNameChar) more := by
  generalize htext : '.' :: s = text at h
  cases h with
  | done => cases htext
  | name hname hrest =>
      obtain ⟨-, rfl⟩ := List.cons.inj htext
      rw [takeWhile_append_of_stop hname.chars hrest.head,
        dropWhile_append_of_stop hname.chars hrest.head]
      exact ⟨hname.ne_nil, _, hrest⟩
  | bracket => cases htext

/-- A text is read as a path if it is one dollar sign and a spelling of steps, without regard to the
blanks around it, and as the steps that are spelled.  Well-formed paths are among these texts. -/
theorem ofPath?_spelled (path : List Char) :
    (∀ found, ofPath? path = some found ↔
      ∃ rest, trim path = '$' :: rest ∧ Spelled rest found) ∧
    (ofPath? path = none ↔ ¬∃ rest found, trim path = '$' :: rest ∧ Spelled rest found) ∧
    ∀ rest found, trim path = '$' :: rest → WellFormed rest found → ofPath? path = some found := by
  refine ⟨fun found => ofPath?_eq_some_iff, ?_, ?_⟩
  · rw [Option.eq_none_iff_forall_ne_some]
    constructor
    · rintro hnone ⟨rest, found, hroot, h⟩
      exact hnone found (ofPath?_eq_some_iff.mpr ⟨rest, hroot, h⟩)
    · intro hnone found hfound
      obtain ⟨rest, hroot, h⟩ := ofPath?_eq_some_iff.mp hfound
      exact hnone ⟨rest, found, hroot, h⟩
  · intro rest found hroot h
    exact ofPath?_eq_some_iff.mpr ⟨rest, hroot, h.spelled⟩

theorem ofPath?_spelled_blanks :
    trim " $.user[ 0 ]".toList = '$' :: ".user[ 0 ]".toList ∧
      ofPath? " $.user[ 0 ]".toList = some [.field "user", .index 0] := by
  have hroot : trim " $.user[ 0 ]".toList = '$' :: ".user[ 0 ]".toList := by decide
  have huser : NameForm "user".toList := by decide
  have hindex : BracketForm " 0 ".toList (.index 0) := bracketed?_eq_some_iff.mp (by decide)
  obtain ⟨-, -, hread⟩ := ofPath?_spelled " $.user[ 0 ]".toList
  exact ⟨hroot, hread _ _ hroot (.name huser (.bracket (by decide) hindex .done))⟩

/-- Behind a name one more dot is read, so that what is read as a path need not be well formed. -/
theorem not_wellFormed_of_ofPath? :
    ¬∀ path found, ofPath? path = some found →
      ∃ rest, trim path = '$' :: rest ∧ WellFormed rest found := by
  intro h
  have hread : ofPath? "$.user..id".toList = some [.field "user", .field "id"] := by decide +kernel
  obtain ⟨rest, hroot, hformed⟩ := h _ _ hread
  obtain rfl : ".user..id".toList = rest := List.tail_eq_of_cons_eq hroot
  obtain ⟨-, more, hbehind⟩ := WellFormed.behind_dot (s := "user..id".toList) hformed
  obtain ⟨hname, -⟩ := WellFormed.behind_dot (s := ".id".toList) hbehind
  exact hname rfl

end HttpScript.Json.Step
