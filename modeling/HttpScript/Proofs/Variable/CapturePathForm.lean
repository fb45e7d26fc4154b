/-
Module: HttpScript.Proofs.Variable.CapturePathForm
Purpose: How the paths into an exchange are written.  A path is read as the form that it spells, and
  what spells no form is no path; no path spells two forms.
Main exports: PathForm.Spelled, PathForm.parse?_eq_some_iff, PathForm.parse?_eq_none_iff,
  PathForm.Spelled.form_of_side
-/
import HttpScript.Variable.CapturePath

namespace HttpScript.Variable.PathForm

open Text

variable {side other : Side} {part otherPart : Part} {path rest selector : List Char}
  {form : PathForm}

/-- What is written for each form of a path: nothing, a side, a side and a part, and what is selected
behind one more dot.  A part with nothing selected is written with and without that dot. -/
inductive Spelled : List Char → PathForm → Prop where
  | empty : Spelled [] .empty
  | side (side : Side) : Spelled (sideName side) (.side side)
  | part (side : Side) (part : Part) :
      Spelled (sideName side ++ '.' :: partName part) (.part side part [])
  | selector (side : Side) (part : Part) {selector : List Char}
      (selector_line : '\n' ∉ selector) :
      Spelled (sideName side ++ '.' :: (partName part ++ '.' :: selector))
        (.part side part selector)

/-! ### What is read is spelled -/

theorem Spelled.of_partOf? (h : partOf? side rest part = some form) :
    Spelled (sideName side ++ '.' :: rest) form := by
  unfold partOf? at h
  split at h
  next hpart =>
    obtain rfl := dropLead?_eq_some_iff.mp hpart
    obtain rfl := Option.some.inj h
    rw [List.append_nil]
    exact .part side part
  next selector hpart =>
    obtain rfl := dropLead?_eq_some_iff.mp hpart
    split at h
    · cases h
    next hline =>
      obtain rfl := Option.some.inj h
      exact .selector side part (by simpa using hline)
  next => cases h

theorem Spelled.of_sideOf? (h : sideOf? path side = some form) : Spelled path form := by
  unfold sideOf? at h
  split at h
  next hside =>
    obtain rfl := dropLead?_eq_some_iff.mp hside
    obtain rfl := Option.some.inj h
    rw [List.append_nil]
    exact .side side
  next rest hside =>
    obtain rfl := dropLead?_eq_some_iff.mp hside
    obtain ⟨part, -, hpart⟩ := List.exists_of_findSome?_eq_some h
    exact .of_partOf? hpart
  next => cases h

theorem Spelled.of_parse? (h : parse? path = some form) : Spelled path form := by
  unfold parse? at h
  split at h
  next hempty =>
    obtain rfl := List.isEmpty_iff.mp hempty
    obtain rfl := Option.some.inj h
    exact .empty
  next =>
    obtain ⟨side, -, hside⟩ := List.exists_of_findSome?_eq_some h
    exact .of_sideOf? hside

/-! ### What is spelled is read -/

/-- The two sides differ before either name ends. -/
theorem dropLead?_sideName (h : side ≠ other) (rest : List Char) :
    dropLead? (sideName other) (sideName side ++ rest) = none := by
  cases side with
  | request =>
      cases other with
      | request => exact absurd rfl h
      | response => rfl
  | response =>
      cases other with
      | request => rfl
      | response => exact absurd rfl h

theorem dropLead?_partName (h : part ≠ otherPart) (rest : List Char) :
    dropLead? (partName otherPart) (partName part ++ rest) = none := by
  cases part with
  | headers =>
      cases otherPart with
      | headers => exact absurd rfl h
      | body => rfl
  | body =>
      cases otherPart with
      | headers => rfl
      | body => exact absurd rfl h

theorem side_unique (h : sideName other <+: sideName side ++ rest) : other = side := by
  obtain ⟨after, hafter⟩ := h
  apply Decidable.byContradiction
  intro hne
  have hnone := dropLead?_sideName (Ne.symm hne) rest
  rw [dropLead?_eq_some_iff.mpr hafter.symm] at hnone
  cases hnone

/-- Where all others find nothing, what is found is what one of them finds. -/
theorem findSome?_eq_of_forall_ne {α β : Type} {f : α → Option β} {l : List α} {a : α} (ha : a ∈ l)
    (hnone : ∀ b ∈ l, b ≠ a → f b = none) : l.findSome? f = f a := by
  cases hfound : l.findSome? f with
  | none => exact (List.findSome?_eq_none_iff.mp hfound a ha).symm
  | some found =>
      obtain ⟨b, hb, hfb⟩ := List.exists_of_findSome?_eq_some hfound
      by_cases hba : b = a
      · rw [← hba, hfb]
      · rw [hnone b hb hba] at hfb
        cases hfb

/-- Behind a side only one part is worth looking for. -/
theorem sideOf?_partName (side : Side) (part : Part) (rest : List Char) :
    sideOf? (sideName side ++ '.' :: (partName part ++ rest)) side =
      partOf? side (partName part ++ rest) part := by
  have hmem : part ∈ [Part.body, Part.headers] := by
    cases part with
    | headers => decide
    | body => decide
  rw [sideOf?, dropLead?_eq_some_iff.mpr rfl]
  apply findSome?_eq_of_forall_ne hmem
  intro otherPart _ hne
  rw [partOf?, dropLead?_partName (Ne.symm hne)]

/-- Only one side is worth looking for. -/
theorem parse?_sideName (side : Side) (rest : List Char) :
    parse? (sideName side ++ rest) = sideOf? (sideName side ++ rest) side := by
  have hne : (sideName side ++ rest).isEmpty = false := by
    cases side with
    | request => rfl
    | response => rfl
  have hmem : side ∈ [Side.request, Side.response] := by
    cases side with
    | request => decide
    | response => decide
  rw [parse?, hne]
  apply findSome?_eq_of_forall_ne hmem
  intro other _ hother
  rw [sideOf?, dropLead?_sideName (Ne.symm hother)]

theorem Spelled.parse?_eq (h : Spelled path form) : parse? path = some form := by
  cases h with
  | empty => rfl
  | side side =>
      have hparse := parse?_sideName side []
      rwa [sideOf?, dropLead?_eq_some_iff.mpr rfl, List.append_nil] at hparse
  | part side part =>
      have hpart := sideOf?_partName side part []
      rw [parse?_sideName]
      rwa [partOf?, dropLead?_eq_some_iff.mpr rfl, List.append_nil] at hpart
  | @selector side part selector hline =>
      rw [parse?_sideName, sideOf?_partName, partOf?, dropLead?_eq_some_iff.mpr rfl]
      exact if_neg (by simpa using hline)

/-- Paths are read as the forms that they spell. -/
theorem parse?_eq_some_iff : parse? path = some form ↔ Spelled path form :=
  ⟨.of_parse?, Spelled.parse?_eq⟩

theorem parse?_eq_none_iff : parse? path = none ↔ ¬∃ form, Spelled path form := by
  rw [Option.eq_none_iff_forall_ne_some, not_exists]
  exact forall_congr' fun form => not_congr parse?_eq_some_iff

/-- The form of a path that begins with a side has that side. -/
theorem Spelled.form_of_side (h : Spelled path form) (hside : sideName side <+: path) :
    form = .side side ∨ ∃ part selector, form = .part side part selector := by
  cases h with
  | empty =>
      have hnil := List.prefix_nil.mp hside
      cases side with
      | request => cases hnil
      | response => cases hnil
  | side other =>
      rw [← List.append_nil (sideName other)] at hside
      exact .inl (congrArg PathForm.side (side_unique hside).symm)
  | part other part =>
      obtain rfl := side_unique hside
      exact .inr ⟨part, [], rfl⟩
  | selector other part =>
      obtain rfl := side_unique hside
      exact .inr ⟨part, _, rfl⟩

end HttpScript.Variable.PathForm
