/-
Module: HttpScript.Proofs.Settings.InForce
Purpose: The settings in force, after they were loaded, updated and reset in any order.  They always
  pass the check.  Settings that are refused when they are loaded change nothing, and a change in
  place that is refused leaves the defaults.
Main exports: Settings.validate_eq_ok_iff, Settings.Change, Settings.inForce,
  Settings.validate_inForce, Settings.inForce_after_changes
-/
import HttpScript.Settings

namespace HttpScript.Settings

open Json

variable {s : Settings}

/-! ### The check -/

theorem validate_eq_ok_iff : s.validate = .ok () ↔
    0 < s.maxIncludeDepth ∧
      ∀ name ∈ s.environmentVariables.keys, Variable.isName name.toList = true := by
  unfold validate
  split
  next hzero => simp [hzero]
  next hpos =>
    split
    next name hfound =>
      have hname := List.find?_some hfound
      have hmem := List.mem_of_find?_eq_some hfound
      simp only [reduceCtorEq, false_iff, not_and]
      intro _ hall
      rw [hall name hmem] at hname
      cases hname
    next hnone =>
      simpa [Nat.pos_iff_ne_zero, hpos] using hnone

/-- What the check asks of the names in an environment. -/
theorem validate_eq_ok_iff_alphanum : s.validate = .ok () ↔
    1 ≤ s.maxIncludeDepth ∧ ∀ name ∈ s.environmentVariables.keys,
      name ≠ "" ∧ ∀ c ∈ name.toList, c.isAlphanum = true ∨ c = '_' := by
  simp only [validate_eq_ok_iff, Variable.isName_eq_true_iff, Variable.isNameChar, Bool.or_eq_true,
    beq_iff_eq, ne_eq, String.toList_eq_nil_iff, Nat.one_le_iff_ne_zero, Nat.pos_iff_ne_zero]

theorem validate_default : default.validate = .ok () := rfl

/-! ### Changes -/

/-- What can be done to the settings in force. -/
inductive Change where
  | load (editor : Option Value)
  | update (change : Settings → Settings)
  | reset

def apply (current : Settings) : Change → Settings
  | .load editor => current.afterLoad editor
  | .update change => current.update change
  | .reset => default

/-- The settings in force after some changes, which began with the defaults. -/
def inForce (changes : List Change) : Settings :=
  changes.foldl apply default

theorem inForce_append (changes : List Change) (change : Change) :
    inForce (changes ++ [change]) = (inForce changes).apply change := by
  rw [inForce, List.foldl_append]
  rfl

theorem afterLoad_of_error {editor : Option Value} {e : SettingsError} (h : load editor = .error e)
    (current : Settings) : current.afterLoad editor = current := by
  rw [afterLoad, h]

theorem afterLoad_of_ok {editor : Option Value} {loaded : Settings} (h : load editor = .ok loaded)
    (current : Settings) : current.afterLoad editor = loaded := by
  rw [afterLoad, h]

theorem update_of_ok {change : Settings → Settings} (h : (change s).validate = .ok ()) :
    s.update change = change s := by
  rw [update, h]

theorem update_of_error {change : Settings → Settings} {e : SettingsError}
    (h : (change s).validate = .error e) : s.update change = default := by
  rw [update, h]

/-- No change brings settings into force that do not pass the check. -/
theorem validate_apply (h : s.validate = .ok ()) (change : Change) :
    (s.apply change).validate = .ok () := by
  cases change with
  | load editor =>
      rw [apply]
      cases hload : load editor with
      | error e => rwa [afterLoad_of_error hload]
      | ok loaded =>
          rw [afterLoad_of_ok hload]
          exact validate_of_load hload
  | update change =>
      rw [apply]
      cases hvalid : (change s).validate with
      | error e => rw [update_of_error hvalid, validate_default]
      | ok u => rw [update_of_ok hvalid, hvalid]
  | reset => exact validate_default

theorem validate_foldl_apply (h : s.validate = .ok ()) (changes : List Change) :
    (changes.foldl apply s).validate = .ok () := by
  induction changes generalizing s with
  | nil => exact h
  | cons change changes ih => exact ih (validate_apply h change)

theorem validate_inForce (changes : List Change) : (inForce changes).validate = .ok () :=
  validate_foldl_apply validate_default changes

/-- After any changes the settings in force pass the check: the depth is at least one, and every
name in the environment is a run of letters and digits of ASCII and underscores.  Loading puts the
settings that it returns into force, and none if it fails.  A change in place that does not pass the
check leaves the defaults. -/
theorem inForce_after_changes (changes : List Change) :
    let s := inForce changes
    (s.validate = .ok () ∧ 1 ≤ s.maxIncludeDepth ∧ ∀ name ∈ s.environmentVariables.keys,
      name ≠ "" ∧ ∀ c ∈ name.toList, c.isAlphanum = true ∨ c = '_') ∧
    (∀ editor e, load editor = .error e → inForce (changes ++ [.load editor]) = s) ∧
    (∀ editor loaded, load editor = .ok loaded →
      inForce (changes ++ [.load editor]) = loaded) ∧
    (∀ change, (change s).validate = .ok () →
      inForce (changes ++ [.update change]) = change s) ∧
    (∀ change, (change s).validate ≠ .ok () →
      inForce (changes ++ [.update change]) = default) ∧
    inForce (changes ++ [.reset]) = default := by
  intro s
  have hvalid := validate_inForce changes
  simp only [inForce_append, apply]
  refine ⟨⟨hvalid, validate_eq_ok_iff_alphanum.mp hvalid⟩, ?_, ?_, ?_, ?_, trivial⟩
  · intro editor e hload
    exact afterLoad_of_error hload s
  · intro editor loaded hload
    exact afterLoad_of_ok hload s
  · intro change hchange
    exact update_of_ok hchange
  · intro change hchange
    cases hresult : (change s).validate with
    | error e => exact update_of_error hresult
    | ok u => exact absurd hresult hchange

/-- An editor's settings that set the depth only. -/
def depthSetting (n : Nat) : Option Value :=
  some (.ofMembers [("rest-client", .ofMembers [("maxIncludeDepth", .nat n)])])

def withoutLenses (s : Settings) : Settings :=
  { s with codeLensEnabled := false }

/-- Adds a name that no reference could spell. -/
def withDashedName (s : Settings) : Settings :=
  { s.withoutLenses with environmentVariables := s.environmentVariables.insert "base-url" "x" }

/-- A depth of zero is not loaded and leaves the depth that was loaded before.  A refused change in
place leaves neither what it set nor what was loaded. -/
theorem inForce_after_changes_refused :
    let s := inForce [.load (depthSetting 4)]
    s = { default with maxIncludeDepth := 4 } ∧
    (load (depthSetting 0) = .error .zeroDepth ∧
      inForce [.load (depthSetting 4), .load (depthSetting 0)] = s) ∧
    (load (depthSetting 9) = .ok { default with maxIncludeDepth := 9 } ∧
      inForce [.load (depthSetting 4), .load (depthSetting 9)] =
        { default with maxIncludeDepth := 9 }) ∧
    (s.withoutLenses.validate = .ok () ∧
      inForce [.load (depthSetting 4), .update withoutLenses] = s.withoutLenses) ∧
    s.withDashedName.validate = .error (.invalidName "base-url") ∧
      inForce [.load (depthSetting 4), .update withDashedName] = default := by
  intro s
  obtain ⟨-, hrefused, hloaded, hupdated, hreset, -⟩ :=
    inForce_after_changes [.load (depthSetting 4)]
  have hzero : load (depthSetting 0) = .error .zeroDepth := rfl
  have hnine : load (depthSetting 9) = .ok { default with maxIncludeDepth := 9 } := rfl
  have hdashed : s.withDashedName.validate = .error (.invalidName "base-url") := rfl
  refine ⟨rfl, ⟨hzero, hrefused _ _ hzero⟩, ⟨hnine, hloaded _ _ hnine⟩,
    ⟨rfl, hupdated withoutLenses rfl⟩, hdashed, hreset withDashedName ?_⟩
  intro hvalid
  cases hdashed.symm.trans hvalid

end HttpScript.Settings
