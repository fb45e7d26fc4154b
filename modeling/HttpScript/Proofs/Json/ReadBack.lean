/-
Module: HttpScript.Proofs.Json.ReadBack
Purpose: The text of a JSON value is read back as this value, if all its numbers are integers of 64
  bits and not too many brackets are open at once.  Strings may hold any characters.
Main exports: Parser.string_escape, Parser.number_toDigits, Value.Exact, Value.Exact.value_text,
  Value.Exact.parse_text, Value.exact_ofMembers
-/
import HttpScript.Json.Parser
import HttpScript.Json.Printer
import HttpScript.Proofs.Text.Trim

namespace HttpScript.Json

open Text

namespace Parser

/-! ### Strings -/

theorem hexEscape_append (digits : List Char) {n : Nat} (hlength : digits.length = 4)
    (h : hexEscape digits = .ok (n, [])) (rest : List Char) :
    hexEscape (digits ++ rest) = .ok (n, rest) := by
  unfold hexEscape at h ⊢
  rw [List.take_of_length_le (by omega), List.drop_eq_nil_of_le (by omega)] at h
  rw [List.take_left' hlength, List.drop_left' hlength]
  split at h
  next =>
    split at h
    next =>
      obtain ⟨rfl, -⟩ := Prod.mk.inj (Except.ok.inj h)
      rfl
    next => cases h
  next => cases h

/-- A control character is written in two hexadecimal digits behind two zeros. -/
theorem hexEscape_control {n : Nat} (h : n < 0x20) (rest : List Char) :
    hexEscape ('0' :: '0' :: Nat.digitChar (n / 16) :: Nat.digitChar (n % 16) :: rest) =
      .ok (n, rest) := by
  have hdigits : ∀ n < 0x20,
      (hexEscape ['0', '0', Nat.digitChar (n / 16), Nat.digitChar (n % 16)]).toOption =
        some (n, []) := by
    decide
  apply hexEscape_append ['0', '0', Nat.digitChar (n / 16), Nat.digitChar (n % 16)] rfl
  cases hread : hexEscape ['0', '0', Nat.digitChar (n / 16), Nat.digitChar (n % 16)] with
  | error e =>
      have hnone := hdigits n h
      rw [hread] at hnone
      cases hnone
  | ok r =>
      have hsome := hdigits n h
      rw [hread] at hsome
      exact congrArg Except.ok (Option.some.inj hsome)

theorem unicodeEscape_control {c : Char} (h : c.toNat < 0x20) (rest : List Char) :
    unicodeEscape ('0' :: '0' :: Nat.digitChar (c.toNat / 16) :: Nat.digitChar (c.toNat % 16) ::
      rest) = .ok (c, rest) := by
  unfold unicodeEscape
  simp only [hexEscape_control h, bind, Except.bind]
  rw [if_neg (by omega), if_neg (by omega), Char.ofNat_toNat]

variable {c : Char} {escaped rest : List Char}

theorem stringBody_escaped (h : escapeSequence escaped = .ok (c, rest)) (fuel : Nat) :
    stringBody (fuel + 1) ('\\' :: escaped) =
      (stringBody fuel rest).map (fun r => (c :: r.1, r.2)) := by
  rw [stringBody, if_neg (by decide), if_pos rfl]
  cases hbody : stringBody fuel rest with
  | error e =>
      simp only [h, bind, Except.bind, hbody]
      rfl
  | ok r =>
      simp only [h, bind, Except.bind, hbody]
      rfl

theorem stringBody_plain (hquote : c ≠ '"') (hslash : c ≠ '\\') (hcontrol : ¬c.toNat < 0x20)
    (fuel : Nat) :
    stringBody (fuel + 1) (c :: rest) =
      (stringBody fuel rest).map (fun r => (c :: r.1, r.2)) := by
  rw [stringBody, if_neg hquote, if_neg hslash, if_neg hcontrol]
  cases stringBody fuel rest with
  | error e => rfl
  | ok r => rfl

/-- A character is written as an escape that is read as this character, or as it is. -/
theorem escapeChar_eq (c : Char) :
    (∃ escaped, escapeChar c = '\\' :: escaped ∧
      ∀ rest, escapeSequence (escaped ++ rest) = .ok (c, rest)) ∨
    (escapeChar c = [c] ∧ c ≠ '"' ∧ c ≠ '\\' ∧ ¬c.toNat < 0x20) := by
  by_cases hquote : c = '"'
  · subst hquote
    exact .inl ⟨['"'], rfl, fun _ => rfl⟩
  by_cases hslash : c = '\\'
  · subst hslash
    exact .inl ⟨['\\'], rfl, fun _ => rfl⟩
  by_cases hback : c = '\x08'
  · subst hback
    exact .inl ⟨['b'], rfl, fun _ => rfl⟩
  by_cases htab : c = '\t'
  · subst htab
    exact .inl ⟨['t'], rfl, fun _ => rfl⟩
  by_cases hline : c = '\n'
  · subst hline
    exact .inl ⟨['n'], rfl, fun _ => rfl⟩
  by_cases hpage : c = '\x0c'
  · subst hpage
    exact .inl ⟨['f'], rfl, fun _ => rfl⟩
  by_cases hreturn : c = '\r'
  · subst hreturn
    exact .inl ⟨['r'], rfl, fun _ => rfl⟩
  have hchar : escapeChar c = if c.toNat < 0x20 then
      ['\\', 'u', '0', '0', Nat.digitChar (c.toNat / 16), Nat.digitChar (c.toNat % 16)]
      else [c] := by
    rw [escapeChar, if_neg hquote, if_neg hslash, if_neg hback, if_neg htab, if_neg hline,
      if_neg hpage, if_neg hreturn]
  by_cases hcontrol : c.toNat < 0x20
  · rw [if_pos hcontrol] at hchar
    exact .inl ⟨_, hchar, unicodeEscape_control hcontrol⟩
  · rw [if_neg hcontrol] at hchar
    exact .inr ⟨hchar, hquote, hslash, hcontrol⟩

/-- A character is read in one round, however it is written. -/
theorem stringBody_escapeChar (c : Char) (fuel : Nat) (rest : List Char) :
    stringBody (fuel + 1) (escapeChar c ++ rest) =
      (stringBody fuel rest).map (fun r => (c :: r.1, r.2)) := by
  rcases escapeChar_eq c with ⟨escaped, heq, hread⟩ | ⟨heq, hquote, hslash, hcontrol⟩
  · rw [heq]
    exact stringBody_escaped (hread rest) fuel
  · rw [heq]
    exact stringBody_plain hquote hslash hcontrol fuel

theorem stringBody_escape {s : List Char} {fuel : Nat} (h : s.length < fuel) (rest : List Char) :
    stringBody fuel (s.flatMap escapeChar ++ '"' :: rest) = .ok (s, rest) := by
  induction s generalizing fuel with
  | nil =>
      obtain ⟨fuel, rfl⟩ := Nat.exists_eq_add_one_of_ne_zero (Nat.ne_of_gt h)
      rfl
  | cons c s ih =>
      obtain ⟨fuel, rfl⟩ := Nat.exists_eq_add_one_of_ne_zero (Nat.ne_zero_of_lt h)
      rw [List.flatMap_cons, List.append_assoc, stringBody_escapeChar,
        ih (Nat.lt_of_succ_lt_succ h)]
      rfl

theorem length_le_flatMap {α β : Type} {f : α → List β} (h : ∀ a, f a ≠ []) (l : List α) :
    l.length ≤ (l.flatMap f).length := by
  induction l with
  | nil => exact Nat.zero_le _
  | cons a l ih =>
      have hpos := List.length_pos_iff.mpr (h a)
      rw [List.flatMap_cons, List.length_append, List.length_cons]
      omega

theorem escapeChar_ne_nil (c : Char) : escapeChar c ≠ [] := by
  rcases escapeChar_eq c with ⟨escaped, heq, -⟩ | ⟨heq, -⟩
  · rw [heq]
    exact List.cons_ne_nil _ _
  · rw [heq]
    exact List.cons_ne_nil _ _

/-- A written string is read back. -/
theorem string_escape (s : String) (rest : List Char) :
    string (s.toList.flatMap escapeChar ++ '"' :: rest) = .ok (s, rest) := by
  have hlength := length_le_flatMap escapeChar_ne_nil s.toList
  have hfuel : s.toList.length < (s.toList.flatMap escapeChar ++ '"' :: rest).length + 1 := by
    rw [List.length_append]
    omega
  rw [string, stringBody_escape hfuel]
  exact congrArg (fun s => Except.ok (s, rest)) String.ofList_toList

/-! ### Whole numbers -/

/-- What follows a number does not go on with it. -/
def EndsNumber (rest : List Char) : Prop :=
  ∀ c ∈ rest.head?, c.isDigit = false ∧ c ≠ '.' ∧ c ≠ 'e' ∧ c ≠ 'E'

theorem endsNumber_nil : EndsNumber [] := by
  rintro c ⟨⟩

theorem endsNumber_cons (h : c.isDigit = false ∧ c ≠ '.' ∧ c ≠ 'e' ∧ c ≠ 'E') :
    EndsNumber (c :: rest) := by
  rintro d ⟨⟩
  exact h

theorem accumulate_eq {digits : List Char} {n : Nat} (hdigits : ∀ c ∈ digits, c.isDigit = true)
    (hmax : Nat.ofDigitChars 10 digits n ≤ maxInteger) :
    accumulate n digits = (Nat.ofDigitChars 10 digits n, []) := by
  induction digits generalizing n with
  | nil => rfl
  | cons c digits ih =>
      obtain ⟨hc, hrest⟩ := List.forall_mem_cons.mp hdigits
      have hvalue : (digitValue? 10 c).getD 0 = c.toNat - '0'.toNat := by
        rw [digitValue?_ten, if_pos hc, Option.getD_some]
      rw [Nat.ofDigitChars_cons, Nat.mul_comm] at hmax ⊢
      have hnext : n * 10 + (c.toNat - '0'.toNat) ≤ maxInteger := by
        rw [Nat.ofDigitChars_eq_ofDigitChars_zero] at hmax
        have hpos : 0 < 10 ^ digits.length := Nat.pow_pos (by decide)
        have hle := Nat.le_mul_of_pos_left (n * 10 + (c.toNat - '0'.toNat)) hpos
        omega
      rw [accumulate]
      simp only [hvalue, if_pos hnext]
      exact ih hrest hmax

/-- Only zero is written with a zero in front. -/
theorem head?_toDigits {n : Nat} (h : 0 < n) : (Nat.toDigits 10 n).head? ≠ some '0' := by
  induction n using Nat.strongRecOn with
  | ind n ih =>
      by_cases hlt : n < 10
      · rw [Nat.toDigits_of_lt_base hlt]
        have hdigit : ∀ n < 10, 0 < n → Nat.digitChar n ≠ '0' := by decide
        intro heq
        exact hdigit n hlt h (Option.some.inj heq)
      · rw [Nat.toDigits_of_base_le (by decide) (by omega),
          List.head?_append_of_ne_nil _ Nat.toDigits_ne_nil]
        exact ih (n / 10) (by omega) (by omega)

theorem afterInteger_eq (h : EndsNumber rest) (negative : Bool) (n : Nat) :
    afterInteger negative n 0 rest = .ok (wholeNumber negative n, rest) := by
  unfold afterInteger
  split
  next => exact absurd rfl (h '.' rfl).2.1
  next => exact absurd rfl (h 'e' rfl).2.2.1
  next => exact absurd rfl (h 'E' rfl).2.2.2
  next => rfl

theorem number_toDigits {n : Nat} (hmax : n ≤ maxInteger) (h : EndsNumber rest)
    (negative : Bool) :
    number negative (Nat.toDigits 10 n ++ rest) = .ok (wholeNumber negative n, rest) := by
  have hdigits : ∀ c ∈ Nat.toDigits 10 n, c.isDigit = true :=
    fun _ hc => Nat.isDigit_of_mem_toDigits (by decide) (by decide) hc
  have hstop : ∀ c ∈ rest.head?, c.isDigit = false := fun c hc => (h c hc).1
  obtain ⟨c, more, hcons⟩ := List.exists_cons_of_ne_nil (Nat.toDigits_ne_nil (n := n) (b := 10))
  by_cases hzero : n = 0
  · subst hzero
    cases rest with
    | nil => rfl
    | cons d rest =>
        change (if d.isDigit = true then _ else afterInteger negative 0 0 (d :: rest)) = _
        rw [hstop d rfl, if_neg Bool.false_ne_true]
        exact afterInteger_eq h negative 0
  · have hnotZero : c ≠ '0' := by
      rintro rfl
      apply head?_toDigits (Nat.pos_of_ne_zero hzero)
      rw [hcons]
      rfl
    have hc : c.isDigit = true := hdigits c (hcons ▸ List.mem_cons_self)
    have hread : accumulate 0 (Nat.toDigits 10 n) = (n, []) := by
      rw [accumulate_eq hdigits (by rwa [Nat.ofDigitChars_ten_toDigits]),
        Nat.ofDigitChars_ten_toDigits]
    have htake := takeWhile_append_of_stop hdigits hstop
    have hdrop := dropWhile_append_of_stop hdigits hstop
    rw [hcons, List.cons_append] at htake hdrop ⊢
    unfold number
    simp only [if_neg hnotZero, if_pos hc, htake, hdrop]
    rw [← hcons, hread]
    exact afterInteger_eq h negative n

/-! ### Arrays and objects -/

/-- A text that begins like a value, with no blank in front of it. -/
def BeginsValue (s : List Char) : Prop :=
  ∃ c rest, s = c :: rest ∧ isSpace c = false ∧ c ≠ ']'

variable {element : List Char → Except Fault (Taken Value)} {s : List Char} {v : Value}
  {m : String × Value}

theorem skipSpace_cons (h : isSpace c = false) (rest : List Char) :
    skipSpace (c :: rest) = c :: rest := by
  rw [skipSpace, List.dropWhile_cons_of_neg (by rw [h]; decide)]

theorem items_close (element : List Char → Except Fault (Taken Value)) (fuel : Nat)
    (rest : List Char) : items element (fuel + 1) (']' :: rest) = .ok ([], rest) := rfl

theorem items_comma (hs : BeginsValue s) (h : element s = .ok (v, rest)) (fuel : Nat) :
    items element (fuel + 1) (',' :: s) =
      (items element fuel rest).map (fun r => (v :: r.1, r.2)) := by
  obtain ⟨c, more, rfl, hspace, hclose⟩ := hs
  rw [items, skipSpace_cons (by decide)]
  simp only [skipSpace_cons hspace]
  split
  next heq => cases heq
  next heq => exact absurd (List.cons.inj heq).1 hclose
  next =>
    cases hmore : items element fuel rest with
    | error e =>
        simp only [h, bind, Except.bind, hmore]
        rfl
    | ok r =>
        simp only [h, bind, Except.bind, hmore]
        rfl

theorem members_close (element : List Char → Except Fault (Taken Value)) (fuel : Nat)
    (rest : List Char) : members element (fuel + 1) ('\x7d' :: rest) = .ok ([], rest) := rfl

theorem members_comma (hs : s.head? = some '"') (h : member element s = .ok (m, rest))
    (fuel : Nat) :
    members element (fuel + 1) (',' :: s) =
      (members element fuel rest).map (fun r => (m :: r.1, r.2)) := by
  obtain ⟨more, rfl⟩ := List.head?_eq_some_iff.mp hs
  rw [members, skipSpace_cons (by decide)]
  simp only [skipSpace_cons (show isSpace '"' = false by decide), h, bind, Except.bind]
  cases members element fuel rest with
  | error e => rfl
  | ok r => rfl

/-- A member is read from its name on. -/
theorem member_escape (name : String) (h : element s = .ok (v, rest)) :
    member element ('"' :: (name.toList.flatMap escapeChar ++ '"' :: ':' :: s)) =
      .ok ((name, v), rest) := by
  rw [member, List.drop_succ_cons, List.drop_zero, string_escape]
  simp only [bind, Except.bind, skipSpace_cons (show isSpace ':' = false by decide), h]

end Parser

/-! ### Values -/

open HttpScript.Json.Parser

/-- A value whose numbers are integers of 64 bits, with at most `depth` brackets open around
anything in it. -/
inductive Value.Exact : Nat → Value → Prop where
  | null {depth : Nat} : Exact depth .null
  | bool {depth : Nat} (b : Bool) : Exact depth (.bool b)
  | integer {depth : Nat} {i : Int} (low : Int64.minValue.toInt ≤ i) (high : i ≤ maxInteger) :
      Exact depth (.number (.integer i))
  | string {depth : Nat} (s : String) : Exact depth (.string s)
  | array {depth : Nat} {items : List Value} (exact_items : ∀ v ∈ items, Exact depth v) :
      Exact (depth + 1) (.array items)
  | object {depth : Nat} (members : Dict Value)
      (exact_members : ∀ m ∈ members.entries, Exact depth m.2) :
      Exact (depth + 1) (.object members.entries)

def itemText (v : Value) : List Char :=
  v.text.toList

/-- A member as it is written. -/
def memberText (m : String × Value) : List Char :=
  '"' :: (m.1.toList.flatMap escapeChar ++ '"' :: ':' :: m.2.text.toList)

/-- What is written behind the first item or member. -/
def behindCommas {α : Type} (text : α → List Char) (l : List α) : List Char :=
  l.flatMap (fun a => ',' :: text a)

theorem toList_escape (s : String) :
    (escape s).toList = '"' :: (s.toList.flatMap escapeChar ++ ['"']) :=
  String.toList_ofList

theorem toList_itemsText (v : Value) (items : List Value) :
    (Value.itemsText (v :: items)).toList = itemText v ++ behindCommas itemText items := by
  induction items generalizing v with
  | nil => simp [Value.itemsText, behindCommas, itemText]
  | cons w items ih => simp [Value.itemsText, ih, behindCommas, itemText]

theorem toList_membersText (m : String × Value) (members : List (String × Value)) :
    (Value.membersText (m :: members)).toList =
      memberText m ++ behindCommas memberText members := by
  induction members generalizing m with
  | nil => simp [Value.membersText, behindCommas, memberText, toList_escape]
  | cons m' members ih => simp [Value.membersText, ih, behindCommas, memberText, toList_escape]

theorem toList_toString_natCast (n : Nat) : (toString (n : Int)).toList = Nat.toDigits 10 n :=
  String.toList_ofList

theorem toList_toString_negSucc (n : Nat) :
    (toString (Int.negSucc n)).toList = '-' :: Nat.toDigits 10 (n + 1) := by
  change ("-" ++ String.ofList (Nat.toDigits 10 (n + 1))).toList = _
  rw [String.toList_append]
  exact congrArg ('-' :: ·) String.toList_ofList

theorem exists_toDigits_eq (n : Nat) :
    ∃ c more, Nat.toDigits 10 n = c :: more ∧ c.isDigit = true := by
  obtain ⟨c, more, hcons⟩ := List.exists_cons_of_ne_nil (Nat.toDigits_ne_nil (n := n) (b := 10))
  have hmem : c ∈ Nat.toDigits 10 n := hcons ▸ List.mem_cons_self
  exact ⟨c, more, hcons, Nat.isDigit_of_mem_toDigits (by decide) (by decide) hmem⟩

theorem not_isSpace_of_isDigit {c : Char} (h : c.isDigit = true) : isSpace c = false := by
  cases hspace : isSpace c with
  | false => rfl
  | true =>
      simp only [isSpace, Bool.or_eq_true, beq_iff_eq] at hspace
      rcases hspace with ((rfl | rfl) | rfl) | rfl
      all_goals cases h

variable {depth : Nat} {v : Value} {rest : List Char}

theorem Value.Exact.beginsValue (h : v.Exact depth) (rest : List Char) :
    BeginsValue (itemText v ++ rest) := by
  unfold itemText
  cases h with
  | null => exact ⟨'n', _, rfl, by decide, by decide⟩
  | bool b =>
      cases b with
      | true => exact ⟨'t', _, rfl, by decide, by decide⟩
      | false => exact ⟨'f', _, rfl, by decide, by decide⟩
  | @integer _ i =>
      rw [Value.text, Number.text]
      cases i with
      | ofNat n =>
          obtain ⟨c, more, hcons, hdigit⟩ := exists_toDigits_eq n
          rw [Int.ofNat_eq_natCast, toList_toString_natCast, hcons]
          refine ⟨c, _, rfl, not_isSpace_of_isDigit hdigit, ?_⟩
          rintro rfl
          cases hdigit
      | negSucc n =>
          rw [toList_toString_negSucc]
          exact ⟨'-', _, rfl, by decide, by decide⟩
  | string s =>
      rw [Value.text, toList_escape]
      exact ⟨'"', _, rfl, by decide, by decide⟩
  | array =>
      rw [Value.text, String.append_assoc, String.toList_append]
      exact ⟨'[', _, rfl, by decide, by decide⟩
  | object =>
      rw [Value.text, String.append_assoc, String.toList_append]
      exact ⟨'\x7b', _, rfl, by decide, by decide⟩

section BehindCommas

variable {α : Type} {text : α → List Char}

theorem behindCommas_cons (a : α) (l : List α) (rest : List Char) :
    behindCommas text (a :: l) ++ rest = ',' :: (text a ++ (behindCommas text l ++ rest)) := by
  rw [behindCommas, List.flatMap_cons, List.append_assoc]
  rfl

/-- Neither a comma nor a bracket that closes goes on with a number. -/
theorem endsNumber_behindCommas (l : List α) (h : EndsNumber rest) :
    EndsNumber (behindCommas text l ++ rest) := by
  cases l with
  | nil => exact h
  | cons a l => exact endsNumber_cons (by decide)

theorem length_lt_behindCommas (text : α → List Char) (l : List α) (rest : List Char) :
    l.length < (behindCommas text l ++ rest).length + 1 := by
  have hle := length_le_flatMap (f := fun a => ',' :: text a) (fun a => List.cons_ne_nil _ _) l
  rw [List.length_append, behindCommas]
  omega

end BehindCommas

/-- A value of which the text is read up to its end, if this does not go on with a number. -/
def IsRead (depth : Nat) (v : Value) : Prop :=
  ∀ {rest}, EndsNumber rest → Parser.value depth (itemText v ++ rest) = .ok (v, rest)

theorem member_memberText {m : String × Value} (h : IsRead depth m.2) (hrest : EndsNumber rest) :
    Parser.member (Parser.value depth) (memberText m ++ rest) = .ok (m, rest) := by
  rw [memberText, List.cons_append, List.append_assoc]
  exact member_escape m.1 (h hrest)

theorem items_eq {items : List Value} {fuel : Nat} (hfuel : items.length < fuel)
    (hexact : ∀ v ∈ items, v.Exact depth) (hread : ∀ v ∈ items, IsRead depth v)
    (rest : List Char) :
    Parser.items (Parser.value depth) fuel (behindCommas itemText items ++ ']' :: rest) =
      .ok (items, rest) := by
  induction items generalizing fuel with
  | nil =>
      obtain ⟨fuel, rfl⟩ := Nat.exists_eq_add_one_of_ne_zero (Nat.ne_of_gt hfuel)
      exact items_close _ fuel rest
  | cons v items ih =>
      obtain ⟨fuel, rfl⟩ := Nat.exists_eq_add_one_of_ne_zero (Nat.ne_zero_of_lt hfuel)
      obtain ⟨hv, hitems⟩ := List.forall_mem_cons.mp hexact
      obtain ⟨hreadv, hreaditems⟩ := List.forall_mem_cons.mp hread
      have hends : EndsNumber (behindCommas itemText items ++ ']' :: rest) :=
        endsNumber_behindCommas items (endsNumber_cons (by decide))
      rw [behindCommas_cons, items_comma (hv.beginsValue _) (hreadv hends),
        ih (Nat.lt_of_succ_lt_succ hfuel) hitems hreaditems]
      rfl

theorem members_eq {members : List (String × Value)} {fuel : Nat} (hfuel : members.length < fuel)
    (hread : ∀ m ∈ members, IsRead depth m.2) (rest : List Char) :
    Parser.members (Parser.value depth) fuel (behindCommas memberText members ++ '\x7d' :: rest) =
      .ok (members, rest) := by
  induction members generalizing fuel with
  | nil =>
      obtain ⟨fuel, rfl⟩ := Nat.exists_eq_add_one_of_ne_zero (Nat.ne_of_gt hfuel)
      exact members_close _ fuel rest
  | cons m members ih =>
      obtain ⟨fuel, rfl⟩ := Nat.exists_eq_add_one_of_ne_zero (Nat.ne_zero_of_lt hfuel)
      obtain ⟨hreadm, hreadmembers⟩ := List.forall_mem_cons.mp hread
      have hends : EndsNumber (behindCommas memberText members ++ '\x7d' :: rest) :=
        endsNumber_behindCommas members (endsNumber_cons (by decide))
      rw [behindCommas_cons, members_comma rfl (member_memberText hreadm hends),
        ih (Nat.lt_of_succ_lt_succ hfuel) hreadmembers]
      rfl

theorem array_eq {items : List Value} (hexact : ∀ v ∈ items, v.Exact depth)
    (hread : ∀ v ∈ items, IsRead depth v) :
    Parser.array (Parser.value depth) ((Value.itemsText items).toList ++ ']' :: rest) =
      .ok (items, rest) := by
  cases items with
  | nil => rfl
  | cons v items =>
      obtain ⟨hv, hitems⟩ := List.forall_mem_cons.mp hexact
      obtain ⟨hreadv, hreaditems⟩ := List.forall_mem_cons.mp hread
      have hends : EndsNumber (behindCommas itemText items ++ ']' :: rest) :=
        endsNumber_behindCommas items (endsNumber_cons (by decide))
      have hfirst := hreadv hends
      have hmore := items_eq (length_lt_behindCommas itemText items (']' :: rest)) hitems
        hreaditems rest
      rw [toList_itemsText, List.append_assoc]
      obtain ⟨c, more, heq, hspace, hclose⟩ :=
        hv.beginsValue (behindCommas itemText items ++ ']' :: rest)
      rw [heq] at hfirst ⊢
      rw [Parser.array, skipSpace_cons hspace]
      split
      next hnil => cases hnil
      next hbracket => exact absurd (List.cons.inj hbracket).1 hclose
      next => simp only [hfirst, bind, Except.bind, hmore]

theorem object_eq {members : List (String × Value)} (hread : ∀ m ∈ members, IsRead depth m.2) :
    Parser.object (Parser.value depth) ((Value.membersText members).toList ++ '\x7d' :: rest) =
      .ok (members, rest) := by
  cases members with
  | nil => rfl
  | cons m members =>
      obtain ⟨hreadm, hreadmembers⟩ := List.forall_mem_cons.mp hread
      have hends : EndsNumber (behindCommas memberText members ++ '\x7d' :: rest) :=
        endsNumber_behindCommas members (endsNumber_cons (by decide))
      have hfirst := member_memberText hreadm hends
      have hmore := members_eq (length_lt_behindCommas memberText members ('\x7d' :: rest))
        hreadmembers rest
      rw [toList_membersText, List.append_assoc]
      rw [memberText, List.cons_append] at hfirst ⊢
      rw [Parser.object, skipSpace_cons (by decide)]
      simp only [hfirst, bind, Except.bind, hmore]

-- One equation for each first character, so that only a digit takes the parser apart.
theorem value_n (depth : Nat) (s : List Char) :
    Parser.value depth ('n' :: s) = ident .null ['u', 'l', 'l'] s := by
  cases depth with
  | zero => rfl
  | succ depth => rfl

theorem value_t (depth : Nat) (s : List Char) :
    Parser.value depth ('t' :: s) = ident (.bool true) ['r', 'u', 'e'] s := by
  cases depth with
  | zero => rfl
  | succ depth => rfl

theorem value_f (depth : Nat) (s : List Char) :
    Parser.value depth ('f' :: s) = ident (.bool false) ['a', 'l', 's', 'e'] s := by
  cases depth with
  | zero => rfl
  | succ depth => rfl

theorem value_minus (depth : Nat) (s : List Char) :
    Parser.value depth ('-' :: s) = (number true s).map (fun r => (.number r.1, r.2)) := by
  cases depth with
  | zero => rfl
  | succ depth => rfl

theorem value_quote (depth : Nat) (s : List Char) :
    Parser.value depth ('"' :: s) = (string s).map (fun r => (.string r.1, r.2)) := by
  cases depth with
  | zero => rfl
  | succ depth => rfl

theorem value_array (depth : Nat) (s : List Char) :
    Parser.value (depth + 1) ('[' :: s) =
      (Parser.array (Parser.value depth) s).map (fun r => (.array r.1, r.2)) := rfl

theorem value_object (depth : Nat) (s : List Char) :
    Parser.value (depth + 1) ('\x7b' :: s) =
      (Parser.object (Parser.value depth) s).map (fun r => (.ofMembers r.1, r.2)) := rfl

/-- A digit begins a number. -/
theorem value_of_isDigit {c : Char} (h : c.isDigit = true) (depth : Nat) (rest : List Char) :
    Parser.value depth (c :: rest) =
      (number false (c :: rest)).map (fun r => (.number r.1, r.2)) := by
  rw [Parser.value, skipSpace_cons (not_isSpace_of_isDigit h)]
  split
  next heq => cases heq
  iterate 7
    -- Nothing else begins with a digit.
    next heq =>
      obtain ⟨rfl, -⟩ := List.cons.inj heq
      cases h
  next heq =>
    obtain ⟨rfl, rfl⟩ := List.cons.inj heq
    rw [if_pos h]

theorem value_toString {i : Int} (low : Int64.minValue.toInt ≤ i) (high : i ≤ maxInteger)
    (h : EndsNumber rest) (depth : Nat) :
    Parser.value depth ((toString i).toList ++ rest) = .ok (.number (.integer i), rest) := by
  cases i with
  | ofNat n =>
      have hnumber := number_toDigits (Int.ofNat_le.mp high) h false
      obtain ⟨c, more, hcons, hdigit⟩ := exists_toDigits_eq n
      rw [Int.ofNat_eq_natCast, toList_toString_natCast, hcons, List.cons_append]
      rw [hcons, List.cons_append] at hnumber
      rw [value_of_isDigit hdigit, hnumber]
      rfl
  | negSucc n =>
      have hlow : -(n + 1 : Int) ≥ -9223372036854775808 := by
        rw [Int.negSucc_eq] at low
        exact low
      have hmax : n + 1 ≤ maxInteger := by
        have hvalue : maxInteger = 18446744073709551615 := rfl
        omega
      have hwhole : wholeNumber true (n + 1) = .integer (Int.negSucc n) := by
        have hmin : Int64.minValue.toInt = -9223372036854775808 := rfl
        rw [wholeNumber, if_pos rfl, if_neg (by rw [hmin]; omega)]
        rfl
      rw [toList_toString_negSucc, List.cons_append, value_minus, number_toDigits hmax h, hwhole]
      rfl

/-- The text of a value is read up to its end. -/
theorem Value.Exact.value_text (h : v.Exact depth) (hrest : EndsNumber rest) :
    Parser.value depth (v.text.toList ++ rest) = .ok (v, rest) := by
  induction h generalizing rest with
  | null => exact value_n _ ('u' :: 'l' :: 'l' :: rest)
  | bool b =>
      cases b with
      | true => exact value_t _ ('r' :: 'u' :: 'e' :: rest)
      | false => exact value_f _ ('a' :: 'l' :: 's' :: 'e' :: rest)
  | @integer depth i hlow hhigh => exact value_toString hlow hhigh hrest depth
  | string s =>
      rw [Value.text, toList_escape, List.cons_append, List.append_assoc, List.singleton_append,
        value_quote, string_escape]
      rfl
  | @array depth items hitems ih =>
      have htext : (Value.array items).text.toList ++ rest =
          '[' :: ((Value.itemsText items).toList ++ ']' :: rest) := by
        simp [Value.text]
      rw [htext, value_array, array_eq hitems ih]
      rfl
  | @object depth members hmembers ih =>
      have htext : (Value.object members.entries).text.toList ++ rest =
          '\x7b' :: ((Value.membersText members.entries).toList ++ '\x7d' :: rest) := by
        simp [Value.text]
      rw [htext, value_object, object_eq ih]
      exact congrArg (fun d : Dict Value => Except.ok (Value.object d.entries, rest))
        members.ofList_entries

/-- The text of a value is read back as the value. -/
theorem Value.Exact.parse_text (h : v.Exact maxDepth) : parse v.text.toList = .ok v := by
  have hvalue := h.value_text endsNumber_nil
  rw [List.append_nil] at hvalue
  rw [parse, hvalue]
  rfl

/-! ### Values as they are made -/

theorem Value.exact_nat {n : Nat} (h : n < UInt64.size) : (Value.nat n).Exact depth :=
  .integer (Int.le_trans (by decide) (Int.natCast_nonneg n))
    (Int.ofNat_le.mpr (Nat.le_pred_of_lt h))

theorem Value.exact_optional (s : Option String) : (Value.optional s).Exact depth := by
  cases s with
  | none => exact .null
  | some s => exact .string s

theorem Value.exact_ofDict (d : Dict String) : (Value.ofDict d).Exact (depth + 1) := by
  have hsorted : Entries.Sorted (d.entries.map (fun e => (e.1, Value.string e.2))) :=
    List.pairwise_map.mpr d.sorted
  apply Exact.object ⟨_, hsorted⟩
  intro m hm
  obtain ⟨e, -, rfl⟩ := List.mem_map.mp hm
  exact .string e.2

theorem Value.exact_ofMembers {members : List (String × Value)}
    (h : ∀ m ∈ members, m.2.Exact depth) : (Value.ofMembers members).Exact (depth + 1) := by
  apply Exact.object
  intro m hm
  exact h m (Dict.mem_of_mem_entries_ofList hm)

end HttpScript.Json
