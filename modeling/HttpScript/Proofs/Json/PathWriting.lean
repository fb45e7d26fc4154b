/-
Module: HttpScript.Proofs.Json.PathWriting
Purpose: Paths into JSON values as they are written and as they are followed.  An index is written
  in brackets, and a name in brackets and quotes of either kind or behind a dot.  What is written is
  read back, and the steps that were written are followed one by one.
Main exports: WrittenStep, WrittenStep.Writable, pathText, ofPath?_pathText, Leads,
  follow?_eq_some_iff
-/
import HttpScript.Proofs.Json.PathForm

namespace HttpScript.Json

open Text Step

/-! ### Writing -/

inductive Quote where
  | single
  | double
deriving Repr, DecidableEq

def Quote.char : Quote → Char
  | .single => '\''
  | .double => '"'

/-- A step and one way to write it. -/
inductive WrittenStep where
  | index (n : Nat)
  | quoted (quote : Quote) (name : String)
  | dotted (name : String)
deriving Repr, DecidableEq

namespace WrittenStep

def step : WrittenStep → Step
  | index n => .index n
  | quoted _ name => .field name
  | dotted name => .field name

def text : WrittenStep → List Char
  | index n => '[' :: (Nat.toDigits 10 n ++ [']'])
  | quoted quote name => '[' :: (quote.char :: (name.toList ++ [quote.char]) ++ [']'])
  | dotted name => '.' :: name.toList

/-- A name in quotes is read up to the first closing bracket, and one without them up to the next
step.  Without quotes, a blank at the end would be trimmed off a path. -/
def Writable : WrittenStep → Prop
  | index n => n ≤ maxIndex
  | quoted _ name => ']' ∉ name.toList
  | dotted name => NameForm name.toList ∧ ∀ c ∈ name.toList.getLast?, isBlank c = false

instance : (w : WrittenStep) → Decidable w.Writable
  | index n => inferInstanceAs (Decidable (n ≤ maxIndex))
  | quoted _ name => inferInstanceAs (Decidable (']' ∉ name.toList))
  | dotted name =>
    decidable_of_iff (NameForm name.toList ∧ name.toList.getLast?.all (fun c => !isBlank c) = true)
      (by simp [Writable, Option.all_eq_true])

end WrittenStep

/-- A path from the root. -/
def pathText (written : List WrittenStep) : List Char :=
  '$' :: written.flatMap WrittenStep.text

variable {w : WrittenStep} {written : List WrittenStep}

theorem Quote.char_eq (quote : Quote) : quote.char = '\'' ∨ quote.char = '"' := by
  cases quote with
  | single => exact .inl rfl
  | double => exact .inr rfl

theorem Quote.ne_char {c : Char} (h : c ≠ '\'' ∧ c ≠ '"') (quote : Quote) : c ≠ quote.char := by
  cases quote with
  | single => exact h.1
  | double => exact h.2

theorem indexForm_toDigits {n : Nat} (h : n ≤ maxIndex) : IndexForm (Nat.toDigits 10 n) n := by
  have hdigits : ∀ c ∈ Nat.toDigits 10 n, c.isDigit = true :=
    fun _ hc => Nat.isDigit_of_mem_toDigits (by decide) (by decide) hc
  have hform : IndexForm ([] ++ Nat.toDigits 10 n) n :=
    .mk (.inl rfl) Nat.toDigits_ne_nil hdigits Nat.ofDigitChars_ten_toDigits h
  rwa [List.nil_append] at hform

theorem notMem_toDigits {c : Char} (h : c.isDigit = false) (n : Nat) : c ∉ Nat.toDigits 10 n := by
  intro hmem
  have hdigit := Nat.isDigit_of_mem_toDigits (by decide) (by decide) hmem
  exact Bool.false_ne_true (h.symm.trans hdigit)

namespace WrittenStep

theorem Writable.wellFormed (h : w.Writable) {rest : List Char} {more : List Step}
    (hrest : WellFormed rest more) : WellFormed (w.text ++ rest) (w.step :: more) := by
  have hnone : AllBlank [] := List.forall_mem_nil _
  cases w with
  | index n =>
      have hform : BracketForm ([] ++ (Nat.toDigits 10 n ++ [])) (.index n) :=
        .index hnone (indexForm_toDigits h) hnone
      rw [List.nil_append, List.append_nil] at hform
      rw [text, List.cons_append, List.append_assoc]
      exact .bracket (notMem_toDigits (by decide) n) hform hrest
  | quoted quote name =>
      have hform : BracketForm ([] ++ (quote.char :: (name.toList ++ [quote.char]) ++ []))
          (.field (String.ofList name.toList)) :=
        .quoted hnone quote.char_eq hnone
      rw [List.nil_append, List.append_nil, String.ofList_toList] at hform
      have hopen : ']' ∉ quote.char :: (name.toList ++ [quote.char]) := by
        have hname : ']' ∉ name.toList := h
        have hquote : ']' ≠ quote.char := quote.ne_char (by decide)
        simp [hquote, hname]
      rw [text, List.cons_append, List.append_assoc]
      exact .bracket hopen hform hrest
  | dotted name =>
      have hname := WellFormed.name h.1 hrest
      rwa [String.ofList_toList] at hname

theorem Writable.getLast?_text (h : w.Writable) : ∀ c ∈ w.text.getLast?, isBlank c = false := by
  intro c hc
  cases w with
  | index n =>
      rw [text, ← List.cons_append, List.getLast?_concat] at hc
      obtain rfl := Option.some.inj hc
      decide
  | quoted quote name =>
      rw [text, ← List.cons_append, List.getLast?_concat] at hc
      obtain rfl := Option.some.inj hc
      decide
  | dotted name =>
      obtain ⟨first, others, hname⟩ := List.exists_cons_of_ne_nil h.1.ne_nil
      apply h.2
      rwa [text, hname, List.getLast?_cons_cons, ← hname] at hc

/-- A line feed in a step stands in the name of a field. -/
theorem lineFeed_notMem_text (h : ∀ name, w.step = .field name → '\n' ∉ name.toList) :
    '\n' ∉ w.text := by
  cases w with
  | index n =>
      have hdigits : '\n' ∉ Nat.toDigits 10 n := notMem_toDigits (by decide) n
      simp [text, hdigits]
  | quoted quote name =>
      have hquote : '\n' ≠ quote.char := quote.ne_char (by decide)
      simp [text, hquote, h name rfl]
  | dotted name => simp [text, h name rfl]

end WrittenStep

theorem wellFormed_flatMap_text (h : ∀ w ∈ written, w.Writable) :
    WellFormed (written.flatMap WrittenStep.text) (written.map WrittenStep.step) := by
  induction written with
  | nil => exact .done
  | cons w written ih =>
      obtain ⟨hw, hwritten⟩ := List.forall_mem_cons.mp h
      rw [List.flatMap_cons, List.map_cons]
      exact hw.wellFormed (ih hwritten)

theorem isBlank_getLast?_append {s t : List Char} (hs : ∀ c ∈ s.getLast?, isBlank c = false)
    (ht : ∀ c ∈ t.getLast?, isBlank c = false) : ∀ c ∈ (s ++ t).getLast?, isBlank c = false := by
  intro c hc
  rw [List.getLast?_append, Option.mem_def, Option.or_eq_some_iff] at hc
  rcases hc with hc | ⟨-, hc⟩
  · exact ht c hc
  · exact hs c hc

theorem isTrimmed_pathText (h : ∀ w ∈ written, w.Writable) : IsTrimmed (pathText written) := by
  have hsteps : ∀ c ∈ (written.flatMap WrittenStep.text).getLast?, isBlank c = false := by
    induction written with
    | nil => rintro c ⟨⟩
    | cons w written ih =>
        obtain ⟨hw, hwritten⟩ := List.forall_mem_cons.mp h
        rw [List.flatMap_cons]
        exact isBlank_getLast?_append hw.getLast?_text (ih hwritten)
  constructor
  · rintro c ⟨⟩
    decide
  · apply isBlank_getLast?_append (s := ['$']) ?_ hsteps
    rintro c ⟨⟩
    decide

theorem lineFeed_notMem_pathText
    (h : ∀ name, .field name ∈ written.map WrittenStep.step → '\n' ∉ name.toList) :
    '\n' ∉ pathText written := by
  rw [pathText, List.mem_cons, List.mem_flatMap]
  rintro (hroot | ⟨w, hw, hfeed⟩)
  · exact absurd hroot (by decide)
  · apply WrittenStep.lineFeed_notMem_text ?_ hfeed
    intro name hname
    exact h name (List.mem_map.mpr ⟨w, hw, hname⟩)

/-- What is written is read back. -/
theorem ofPath?_pathText (h : ∀ w ∈ written, w.Writable) :
    ofPath? (pathText written) = some (written.map WrittenStep.step) :=
  ofPath?_eq_some_iff.mpr
    ⟨_, trim_of_isTrimmed (isTrimmed_pathText h), (wellFormed_flatMap_text h).spelled⟩

/-! ### Following -/

/-- From a value, some steps lead to a value inside it. -/
inductive Leads : List Step → Value → Value → Prop where
  | here (v : Value) : Leads [] v v
  | member {name : String} {steps : List Step} {members : List (String × Value)} {inner v : Value}
      (found : Entries.get? name members = some inner) (onward : Leads steps inner v) :
      Leads (.field name :: steps) (.object members) v
  | item {n : Nat} {steps : List Step} {items : List Value} {inner v : Value}
      (found : items[n]? = some inner) (onward : Leads steps inner v) :
      Leads (.index n :: steps) (.array items) v

theorem follow?_cons (v : Value) (step : Step) (steps : List Step) :
    v.follow? (step :: steps) = (step.take? v).bind (·.follow? steps) :=
  List.foldlM_cons

theorem Leads.follow?_eq {steps : List Step} {v inside : Value} (h : Leads steps v inside) :
    v.follow? steps = some inside := by
  induction h with
  | here v => rfl
  | member hfound _ ih => rw [follow?_cons, Step.take?, Value.member?, hfound, Option.bind_some, ih]
  | item hfound _ ih => rw [follow?_cons, Step.take?, Value.item?, hfound, Option.bind_some, ih]

theorem Leads.of_follow? {steps : List Step} {v inside : Value}
    (h : v.follow? steps = some inside) : Leads steps v inside := by
  induction steps generalizing v with
  | nil =>
      obtain rfl := Option.some.inj h
      exact .here v
  | cons step steps ih =>
      rw [follow?_cons] at h
      obtain ⟨inner, htake, honward⟩ := Option.bind_eq_some_iff.mp h
      cases step with
      | field name =>
          cases v with
          | object members => exact .member htake (ih honward)
          | null | bool | number | string | array => cases htake
      | index n =>
          cases v with
          | array items => exact .item htake (ih honward)
          | null | bool | number | string | object => cases htake

theorem follow?_eq_some_iff {steps : List Step} {v inside : Value} :
    v.follow? steps = some inside ↔ Leads steps v inside :=
  ⟨.of_follow?, Leads.follow?_eq⟩

end HttpScript.Json
