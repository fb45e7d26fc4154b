/-
Module: HttpScript.Proofs.Script.RequestLine
Purpose: Which lines are request lines, and what is found wrong with the others.  Both are questions
  about the words of a line.  A line of two or more words that begins with a method but has not the
  form of a request line is refused with its target, whatever that is.
Main exports: MethodForm, RequestLineForm, requestLine_accepts, RequestLineFault, requestLine_refuses,
  not_requestLine_blames_cause
-/
import HttpScript.Proofs.Http.IgnoringCase
import HttpScript.Proofs.Script.RequestLinePattern

namespace HttpScript.Script

open Http Text

variable {word target : List Char} {more ws : List (List Char)} {n : Nat}

/-! ### Forms -/

/-- Letters that are the name of a method in some case. -/
structure MethodForm (word : List Char) (m : Method) : Prop where
  letters : ∀ c ∈ word, c.isAlpha = true
  named : sameIgnoringCase (String.ofList word) m.name = true

/-- The words of a request line and what they say. -/
inductive RequestLineForm : List (List Char) → RequestLine → Prop where
  | target {url : List Char} (lead : ∃ lead ∈ targetLeads, lead <+: url) :
      RequestLineForm [url] ⟨.get, String.ofList url, none⟩
  | methodTarget {word url : List Char} {m : Method} (method : MethodForm word m)
      (lead : ∃ lead ∈ targetLeads, lead <+: url) :
      RequestLineForm [word, url] ⟨m, String.ofList url, none⟩
  | methodTargetVersion {word url version : List Char} {m : Method} (method : MethodForm word m)
      (lead : ∃ lead ∈ targetLeads, lead <+: url) (form : VersionForm version) :
      RequestLineForm [word, url, version] ⟨m, String.ofList url, some (String.ofList version)⟩

theorem MethodForm.parse?_eq {m : Method} (h : MethodForm word m) : Method.parse? word = some m :=
  Method.parse?_of_sameIgnoringCase h.named

theorem MethodForm.of_parse? {m : Method} (hletters : ∀ c ∈ word, c.isAlpha = true)
    (h : Method.parse? word = some m) : MethodForm word m :=
  ⟨hletters, (Method.parse?_eq_some_iff_of_ascii fun c hc =>
    Method.toNat_lt_of_isAlpha (hletters c hc)).mp h⟩

/-- A target has a character that is part of no method's name. -/
theorem parse?_eq_none_of_isTarget (h : isTarget target = true) : Method.parse? target = none := by
  have hleads : targetLeads.all (fun lead => lead.any (fun c => c == ':' || c == '\x7b')) = true := by
    decide
  obtain ⟨lead, hlead, rest, rfl⟩ := isTarget_eq_true_iff.mp h
  obtain ⟨c, hc, hmark⟩ := List.any_eq_true.mp (List.all_eq_true.mp hleads lead hlead)
  rw [Option.eq_none_iff_forall_ne_some]
  intro m hm
  have hname : c ∈ m.name.toList := by
    rw [← Method.parse?_eq_some_iff.mp hm, List.mem_flatMap]
    refine ⟨c, List.mem_append_left _ hc, ?_⟩
    rcases (by simpa using hmark : c = ':' ∨ c = '\x7b') with rfl | rfl
    · decide
    · decide
  have hnone : m.name.toList.any (fun c => c == ':' || c == '\x7b') = false := by
    cases m <;> decide
  exact Bool.false_ne_true (hnone.symm.trans (List.any_eq_true.mpr ⟨c, hname, hmark⟩))

/-- Two or three words have the form of a request line, method and target aside. -/
theorem shape?_eq_some_iff {version : Option (List Char)} :
    shape? ws = some (word, target, version) ↔
      (∀ c ∈ word, c.isAlpha = true) ∧ ws = word :: target :: version.toList ∧
        ∀ v ∈ version, VersionForm v := by
  constructor
  · intro h
    unfold shape? at h
    split at h
    · split at h
      next hletters =>
        cases h
        exact ⟨List.all_eq_true.mp hletters, rfl, fun v hv => nomatch hv⟩
      next => cases h
    · split at h
      next hboth =>
        cases h
        obtain ⟨hletters, hversion⟩ := Bool.and_eq_true_iff.mp hboth
        refine ⟨List.all_eq_true.mp hletters, rfl, ?_⟩
        intro v hv
        obtain rfl := Option.some.inj hv
        exact .of_isVersion hversion
      next => cases h
    · cases h
  · rintro ⟨hletters, rfl, hversion⟩
    rw [← List.all_eq_true] at hletters
    cases version with
    | none => simp [shape?, hletters]
    | some v => simp [shape?, hletters, (hversion v rfl).isVersion_eq]

section Target

variable {α : Type} {f : String → α}

theorem map_checkTarget_eq_ok_iff {a : α} :
    (checkTarget target n).map f = .ok a ↔ isTarget target = true ∧ a = f (String.ofList target) := by
  unfold checkTarget
  cases isTarget target with
  | false => simp [Except.map]
  | true => simp [Except.map, eq_comm]

theorem map_checkTarget_eq_error_iff {e : RequestError} :
    (checkTarget target n).map f = .error e ↔
      isTarget target = false ∧ e = .invalidUrl (String.ofList target) n := by
  unfold checkTarget
  cases isTarget target with
  | false => simp [Except.map, eq_comm]
  | true => simp [Except.map]

end Target

/-! ### Request lines -/

theorem RequestLineForm.of_requestLine {text : List Char} {l : RequestLine}
    (h : requestLine text n = .ok l) : RequestLineForm (words text) l := by
  unfold requestLine at h
  dsimp only at h
  split at h
  next method target version hshape =>
    obtain ⟨hletters, hws, hversion⟩ := shape?_eq_some_iff.mp hshape
    rw [hws]
    split at h
    · cases h
    next m hm =>
      obtain ⟨htarget, rfl⟩ := map_checkTarget_eq_ok_iff.mp h
      have hmethod := MethodForm.of_parse? hletters hm
      have hlead := isTarget_eq_true_iff.mp htarget
      cases version with
      | none => exact .methodTarget hmethod hlead
      | some v => exact .methodTargetVersion hmethod hlead (hversion v rfl)
  next =>
    split at h
    · cases h
    next single hws =>
      rw [hws]
      split at h
      · cases h
      next =>
        obtain ⟨htarget, rfl⟩ := map_checkTarget_eq_ok_iff.mp h
        exact .target (isTarget_eq_true_iff.mp htarget)
    next =>
      split at h
      · cases h
      · cases h

theorem RequestLineForm.requestLine_eq {text : List Char} {l : RequestLine}
    (h : RequestLineForm (words text) l) : requestLine text n = .ok l := by
  unfold requestLine
  generalize words text = ws at h
  cases h with
  | target hlead =>
      have htarget := isTarget_eq_true_iff.mpr hlead
      simp only [shape?, parse?_eq_none_of_isTarget htarget, Option.isSome_none, Bool.false_eq_true,
        if_false]
      exact map_checkTarget_eq_ok_iff.mpr ⟨htarget, rfl⟩
  | @methodTarget word url m hmethod hlead =>
      have hshape : shape? [word, url] = some (word, url, none) := by
        refine shape?_eq_some_iff.mpr ⟨hmethod.letters, rfl, ?_⟩
        rintro v ⟨⟩
      simp only [hshape, hmethod.parse?_eq]
      exact map_checkTarget_eq_ok_iff.mpr ⟨isTarget_eq_true_iff.mpr hlead, rfl⟩
  | @methodTargetVersion word url version m hmethod hlead hversion =>
      have hshape : shape? [word, url, version] = some (word, url, some version) := by
        refine shape?_eq_some_iff.mpr ⟨hmethod.letters, rfl, ?_⟩
        rintro v ⟨⟩
        exact hversion
      simp only [hshape, hmethod.parse?_eq]
      exact map_checkTarget_eq_ok_iff.mpr ⟨isTarget_eq_true_iff.mpr hlead, rfl⟩

/-- Request lines are the lines whose words have the form of one, and say what the form says.  The
words are told apart as the pattern of request lines does it. -/
theorem requestLine_accepts (text : List Char) (n : Nat) :
    (∀ l, requestLine text n = .ok l ↔ RequestLineForm (words text) l) ∧
    lineMatches (trim text) = (shape? (words text)).toList := by
  refine ⟨fun l => ⟨.of_requestLine, RequestLineForm.requestLine_eq⟩, ?_⟩
  rw [lineMatches_eq (isTrimmed_trim text), words_trim]

/-! ### Other lines -/

/-- In upper case the word is the name of a method.  A few letters beyond ASCII are ASCII letters in
upper case. -/
def NamesMethod (word : List Char) : Prop :=
  ∃ m : Method, word.flatMap Method.upper = m.name.toList

theorem namesMethod_iff : NamesMethod word ↔ (Method.parse? word).isSome = true := by
  rw [Option.isSome_iff_exists]
  exact exists_congr fun m => Method.parse?_eq_some_iff.symm

theorem not_namesMethod_iff : ¬NamesMethod word ↔ Method.parse? word = none := by
  rw [namesMethod_iff, Option.not_isSome_iff_eq_none]

theorem NamesMethod.of_sameIgnoringCase {m : Method}
    (h : sameIgnoringCase (String.ofList word) m.name = true) : NamesMethod word :=
  ⟨m, Method.parse?_eq_some_iff.mp (Method.parse?_of_sameIgnoringCase h)⟩

/-- What is said of the words of a line that is no request line. -/
inductive RequestLineFault (n : Nat) : List (List Char) → RequestError → Prop where
  | noWords : RequestLineFault n [] (.missingUrl n)
  | methodAlone {word : List Char} (method : NamesMethod word) :
      RequestLineFault n [word] (.missingUrl n)
  | targetAlone {word : List Char} (method : ¬NamesMethod word)
      (lead : ¬∃ lead ∈ targetLeads, lead <+: word) :
      RequestLineFault n [word] (.invalidUrl (String.ofList word) n)
  | method {word target : List Char} {more : List (List Char)} (method : ¬NamesMethod word) :
      RequestLineFault n (word :: target :: more) (.invalidMethod (String.ofList word) n)
  /-- Whatever else is wrong behind a method, the target is blamed. -/
  | line {word target : List Char} {more : List (List Char)} (method : NamesMethod word)
      (refused : ∀ l, ¬RequestLineForm (word :: target :: more) l) :
      RequestLineFault n (word :: target :: more) (.invalidUrl (String.ofList target) n)

theorem RequestLineFault.of_requestLine {text : List Char} {e : RequestError}
    (h : requestLine text n = .error e) : RequestLineFault n (words text) e := by
  have hrefused : ∀ l, ¬RequestLineForm (words text) l := by
    intro l hl
    rw [hl.requestLine_eq] at h
    cases h
  unfold requestLine at h
  generalize words text = ws at h hrefused
  dsimp only at h
  split at h
  next method target version hshape =>
    obtain ⟨-, hws, -⟩ := shape?_eq_some_iff.mp hshape
    subst hws
    split at h
    next hnone =>
      cases h
      exact .method (not_namesMethod_iff.mpr hnone)
    next m hm =>
      obtain ⟨-, rfl⟩ := map_checkTarget_eq_error_iff.mp h
      exact .line (namesMethod_iff.mpr (Option.isSome_iff_exists.mpr ⟨m, hm⟩)) hrefused
  next =>
    split at h
    · cases h
      exact .noWords
    next single =>
      split at h
      next hmethod =>
        cases h
        exact .methodAlone (namesMethod_iff.mpr hmethod)
      next hmethod =>
        obtain ⟨htarget, rfl⟩ := map_checkTarget_eq_error_iff.mp h
        refine .targetAlone (fun hnames => hmethod (namesMethod_iff.mp hnames)) ?_
        rw [← isTarget_eq_true_iff, htarget]
        exact Bool.false_ne_true
    next =>
      split at h
      next hmethod =>
        cases h
        exact .method (not_namesMethod_iff.mpr (Option.isNone_iff_eq_none.mp hmethod))
      next hmethod =>
        cases h
        rw [Option.isNone_iff_eq_none, ← not_namesMethod_iff, not_not] at hmethod
        exact .line hmethod hrefused

/-- One line is refused for one reason only. -/
theorem RequestLineFault.unique {e e' : RequestError} (h : RequestLineFault n ws e)
    (h' : RequestLineFault n ws e') : e = e' := by
  cases h with
  | noWords =>
      cases h'
      rfl
  | methodAlone hmethod =>
      cases h' with
      | methodAlone => rfl
      | targetAlone hnone => exact absurd hmethod hnone
  | targetAlone hnone =>
      cases h' with
      | methodAlone hmethod => exact absurd hmethod hnone
      | targetAlone => rfl
  | method hnone =>
      cases h' with
      | method => rfl
      | line hmethod => exact absurd hmethod hnone
  | line hmethod =>
      cases h' with
      | method hnone => exact absurd hmethod hnone
      | line => rfl

theorem RequestLineFault.not_form {e : RequestError} {l : RequestLine}
    (h : RequestLineFault n ws e) : ¬RequestLineForm ws l := by
  intro hform
  cases h with
  | noWords => cases hform
  | methodAlone hmethod =>
      cases hform with
      | target hlead =>
          have hnone := parse?_eq_none_of_isTarget (isTarget_eq_true_iff.mpr hlead)
          exact not_namesMethod_iff.mpr hnone hmethod
  | targetAlone _ hlead =>
      cases hform with
      | target hlead' => exact hlead hlead'
  | method hnone =>
      cases hform with
      | methodTarget hmethod => exact hnone (.of_sameIgnoringCase hmethod.named)
      | methodTargetVersion hmethod => exact hnone (.of_sameIgnoringCase hmethod.named)
  | line _ hrefused => exact hrefused l hform

/-- Each line that is no request line is refused for the reason that its words have. -/
theorem requestLine_eq_error_iff {text : List Char} {e : RequestError} :
    requestLine text n = .error e ↔ RequestLineFault n (words text) e := by
  constructor
  · exact .of_requestLine
  · intro h
    cases hline : requestLine text n with
    | ok l => exact absurd (RequestLineForm.of_requestLine hline) h.not_form
    | error e' => rw [(RequestLineFault.of_requestLine hline).unique h]

/-- A line that begins with a method and a target is refused for what stands around the target. -/
theorem RequestLineFault.around {url : String} {line : Nat}
    (h : RequestLineFault n ws (.invalidUrl url line))
    (hlead : ∃ lead ∈ targetLeads, lead <+: url.toList) :
    ∃ word more, ws = word :: url.toList :: more ∧ NamesMethod word ∧
      ¬((∀ c ∈ word, c.isAlpha = true) ∧
        ∃ version : Option (List Char), more = version.toList ∧ ∀ v ∈ version, VersionForm v) := by
  cases h with
  | targetAlone _ hnone =>
      rw [String.toList_ofList] at hlead
      exact absurd hlead hnone
  | @line word target more hmethod hrefused =>
      rw [String.toList_ofList] at hlead ⊢
      refine ⟨word, more, rfl, hmethod, ?_⟩
      rintro ⟨hletters, version, rfl, hversion⟩
      obtain ⟨m, hm⟩ := hmethod
      have hform := MethodForm.of_parse? hletters (Method.parse?_eq_some_iff.mpr hm)
      cases version with
      | none => exact hrefused _ (.methodTarget hform hlead)
      | some v => exact hrefused _ (.methodTargetVersion hform hlead (hversion v rfl))

theorem RequestLineFault.url_mem {url : String} {line : Nat}
    (h : RequestLineFault n ws (.invalidUrl url line)) : url.toList ∈ ws := by
  cases h with
  | targetAlone => simp
  | line => simp

theorem RequestLineFault.method_eq {method : String} {line : Nat}
    (h : RequestLineFault n ws (.invalidMethod method line)) :
    ws.head? = some method.toList ∧ ∀ m : Method, sameIgnoringCase method m.name = false := by
  cases h with
  | @method word target more hnone =>
      refine ⟨by simp, fun m => ?_⟩
      by_contra hsame
      exact hnone (.of_sameIgnoringCase (by simpa using hsame))

/-- Why a line is no request line is a matter of its words.  A target that is blamed is a word of the
line, and where it begins as a target has to, the line begins with a method, and what is wrong is that
the method is not written in ASCII letters or that something else than a version follows the target.
A method that is blamed is the first word and no method in any case, and every line of two or more
words is refused with the first one if that is an ASCII word and no method in any case. -/
theorem requestLine_refuses (text : List Char) (n : Nat) :
    (∀ e, requestLine text n = .error e ↔ RequestLineFault n (words text) e) ∧
    (∀ url line, requestLine text n = .error (.invalidUrl url line) →
      url.toList ∈ words text ∧
      ((∃ lead ∈ targetLeads, lead <+: url.toList) →
        ∃ word more, words text = word :: url.toList :: more ∧ NamesMethod word ∧
          ¬((∀ c ∈ word, c.isAlpha = true) ∧ ∃ version : Option (List Char),
            more = version.toList ∧ ∀ v ∈ version, VersionForm v))) ∧
    (∀ method line, requestLine text n = .error (.invalidMethod method line) →
      (words text).head? = some method.toList ∧
      ∀ m : Method, sameIgnoringCase method m.name = false) ∧
    ∀ word target more, words text = word :: target :: more → (∀ c ∈ word, c.toNat < 128) →
      (∀ m : Method, sameIgnoringCase (String.ofList word) m.name = false) →
      requestLine text n = .error (.invalidMethod (String.ofList word) n) := by
  refine ⟨fun e => requestLine_eq_error_iff, ?_, ?_, ?_⟩
  · intro url line h
    have hfault := RequestLineFault.of_requestLine h
    exact ⟨hfault.url_mem, hfault.around⟩
  · intro method line h
    exact (RequestLineFault.of_requestLine h).method_eq
  · intro word target more hwords hascii hnone
    rw [requestLine_eq_error_iff, hwords]
    apply RequestLineFault.method
    rintro ⟨m, hm⟩
    have hsame := (Method.parse?_eq_some_iff_of_ascii hascii).mp (Method.parse?_eq_some_iff.mpr hm)
    exact Bool.false_ne_true ((hnone m).symm.trans hsame)

theorem requestLine_refuses_post :
    (∃ word more, words "poſt https://a.example".toList =
        word :: "https://a.example".toList :: more ∧ NamesMethod word ∧
      ¬((∀ c ∈ word, c.isAlpha = true) ∧ ∃ version : Option (List Char),
        more = version.toList ∧ ∀ v ∈ version, VersionForm v)) ∧
    "example.com".toList ∈ words "PUT example.com HTTP/1.1".toList ∧
    (words "FETCH https://a.example".toList).head? = some "FETCH".toList ∧
    requestLine "GET: https://a.example".toList 3 = .error (.invalidMethod "GET:" 3) := by
  obtain ⟨-, hpost, -, -⟩ := requestLine_refuses "poſt https://a.example".toList 1
  obtain ⟨-, hput, -, -⟩ := requestLine_refuses "PUT example.com HTTP/1.1".toList 1
  obtain ⟨-, -, hfetch, -⟩ := requestLine_refuses "FETCH https://a.example".toList 1
  obtain ⟨-, -, -, hget⟩ := requestLine_refuses "GET: https://a.example".toList 3
  refine ⟨?_, ?_, ?_, ?_⟩
  · refine (hpost "https://a.example" 1 (by decide)).2 ⟨"https://".toList, ?_, ?_⟩
    · decide
    · exact ⟨"a.example".toList, by decide⟩
  · exact (hput "example.com" 1 (by decide)).1
  · exact (hfetch "FETCH" 1 (by decide)).1
  · refine hget "GET:".toList "https://a.example".toList [] (by decide) ?_ ?_
    · rw [← List.forall_mem_map (P := fun k => k < 128)]
      decide
    · intro m
      cases m <;> decide

/-- A word behind the target, and a method written with a letter beyond ASCII, are blamed on the
target. -/
theorem not_requestLine_blames_cause :
    (¬∀ (text : List Char) (n : Nat) (url : String) (line : Nat),
      requestLine text n = .error (.invalidUrl url line) →
      url.toList ∈ words text ∧ ∀ lead ∈ targetLeads, ¬lead <+: url.toList) ∧
    ¬∀ (text : List Char) (n : Nat) (word target : List Char) (more : List (List Char)),
      words text = word :: target :: more →
      (∀ m : Method, sameIgnoringCase (String.ofList word) m.name = false) →
      ∃ method line, requestLine text n = .error (.invalidMethod method line) := by
  constructor
  · intro h
    obtain ⟨-, hnone⟩ := h "GET https://a.example extra".toList 1 "https://a.example" 1
      (by decide)
    exact hnone "https://".toList (by decide) ⟨"a.example".toList, by decide⟩
  · intro h
    obtain ⟨method, line, herror⟩ := h "poſt https://a.example".toList 1 "poſt".toList
      "https://a.example".toList [] (by decide) (by intro m; cases m <;> decide)
    have hblamed : requestLine "poſt https://a.example".toList 1 =
        .error (.invalidUrl "https://a.example" 1) := by decide
    rw [hblamed] at herror
    cases herror

end HttpScript.Script
