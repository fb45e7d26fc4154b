/-
Module: HttpScript.Proofs.Variable.Grouping
Purpose: Grouping references by name loses none and repeats none.  Names come in the order of their
  first reference, and references of one name in the order in which they were found.
Main exports: perm_flatMap_filter_of_forall_mem, firstNames, named, groups_ofList, mem_groups_ofList,
  get?_ofList_eq_some_iff, References.ungrouped, perm_ungrouped_ofList, pairwise_ungrouped_ofList
-/
import HttpScript.Variable.Reference
import Mathlib.Data.List.Basic
import Mathlib.Data.List.Induction
import Mathlib.Data.List.Pairwise

namespace HttpScript.Variable

/-! ### First occurrences -/

section FirstOccurrences

variable {α : Type} [BEq α] [LawfulBEq α]

/-- An element at the end is new if it did not stand in the list. -/
theorem eraseDups_append_singleton (l : List α) (a : α) :
    (l ++ [a]).eraseDups = if a ∈ l then l.eraseDups else l.eraseDups ++ [a] := by
  rw [List.eraseDups_append]
  by_cases h : a ∈ l
  · simp [List.removeAll, h]
  · simp [List.removeAll, h, List.eraseDups_cons]

/-- What is left of a list without repetitions is ordered by first occurrence. -/
theorem pairwise_idxOf_eraseDups (l : List α) :
    l.eraseDups.Pairwise (fun a b => l.idxOf a < l.idxOf b) := by
  induction l using List.reverseRecOn with
  | nil => simp
  | append_singleton l a ih =>
      have hold : l.eraseDups.Pairwise (fun b c => (l ++ [a]).idxOf b < (l ++ [a]).idxOf c) := by
        apply ih.imp_of_mem
        intro b c hb hc hlt
        rw [List.idxOf_append_of_mem (List.mem_eraseDups.mp hb),
          List.idxOf_append_of_mem (List.mem_eraseDups.mp hc)]
        exact hlt
      rw [eraseDups_append_singleton]
      by_cases ha : a ∈ l
      · rw [if_pos ha]
        exact hold
      · rw [if_neg ha, List.pairwise_append]
        refine ⟨hold, List.pairwise_singleton _ _, ?_⟩
        intro b hb c hc
        obtain rfl := List.mem_singleton.mp hc
        have hb' := List.mem_eraseDups.mp hb
        rw [List.idxOf_append_of_mem hb', List.idxOf_append_of_notMem ha]
        exact Nat.lt_add_right _ (List.idxOf_lt_length_of_mem hb')

theorem nodup_eraseDups (l : List α) : l.eraseDups.Nodup := by
  apply (pairwise_idxOf_eraseDups l).imp
  intro a b hlt heq
  rw [heq] at hlt
  exact Nat.lt_irrefl _ hlt

end FirstOccurrences

/-! ### Elements by a key -/

open scoped List in
/-- Going through a list once for each of some keys meets every element with such a key once. -/
theorem perm_flatMap_filter {α κ : Type} [DecidableEq κ] (key : α → κ) (l : List α)
    {keys : List κ} (hkeys : keys.Nodup) :
    (keys.flatMap (fun k => l.filter (fun a => key a = k))).Perm
      (l.filter (fun a => key a ∈ keys)) := by
  induction keys with
  | nil => simp
  | cons k keys ih =>
      obtain ⟨hnot, hkeys⟩ := List.nodup_cons.mp hkeys
      have hfirst : (l.filter (fun a => key a ∈ k :: keys)).filter (fun a => key a = k)
          = l.filter (fun a => key a = k) := by
        rw [List.filter_filter]
        apply List.filter_congr
        intro a _
        by_cases heq : key a = k
        · simp [heq]
        · simp [heq]
      have hothers : (l.filter (fun a => key a ∈ k :: keys)).filter
          (fun a => !decide (key a = k)) = l.filter (fun a => key a ∈ keys) := by
        rw [List.filter_filter]
        apply List.filter_congr
        intro a _
        by_cases heq : key a = k
        · simp [heq, hnot]
        · simp [heq]
      calc (k :: keys).flatMap (fun k => l.filter (fun a => key a = k))
          = l.filter (fun a => key a = k)
              ++ keys.flatMap (fun k => l.filter (fun a => key a = k)) := List.flatMap_cons
        _ ~ l.filter (fun a => key a = k) ++ l.filter (fun a => key a ∈ keys) :=
            (ih hkeys).append_left _
        _ ~ l.filter (fun a => key a ∈ k :: keys) := by
            rw [← hfirst, ← hothers]
            exact List.filter_append_perm _ _

/-- Going through a list once for each key loses no element and repeats none. -/
theorem perm_flatMap_filter_of_forall_mem {α κ : Type} [DecidableEq κ] (key : α → κ) (l : List α)
    {keys : List κ} (hkeys : keys.Nodup) (hall : ∀ a ∈ l, key a ∈ keys) :
    (keys.flatMap (fun k => l.filter (fun a => key a = k))).Perm l := by
  have hperm := perm_flatMap_filter key l hkeys
  rw [List.filter_eq_self.mpr (fun a ha => decide_eq_true (hall a ha))] at hperm
  exact hperm

/-! ### Groups -/

/-- The names of some references, each once, in the order of their first reference. -/
def firstNames (rs : List Reference) : List String :=
  (rs.map (·.name)).eraseDups

/-- The references to a name. -/
def named (rs : List Reference) (name : String) : List Reference :=
  rs.filter (fun r => r.name = name)

section Groups

variable {rs : List Reference} {r : Reference} {name : String}

@[simp] theorem mem_firstNames : name ∈ firstNames rs ↔ ∃ r ∈ rs, r.name = name := by
  rw [firstNames, List.mem_eraseDups, List.mem_map]

@[simp] theorem mem_named : r ∈ named rs name ↔ r ∈ rs ∧ r.name = name := by
  simp [named]

theorem nodup_firstNames (rs : List Reference) : (firstNames rs).Nodup :=
  nodup_eraseDups _

theorem firstNames_append_singleton (rs : List Reference) (r : Reference) :
    firstNames (rs ++ [r])
      = if r.name ∈ firstNames rs then firstNames rs else firstNames rs ++ [r.name] := by
  unfold firstNames
  rw [List.map_append, List.map_cons, List.map_nil, eraseDups_append_singleton]
  simp only [List.mem_eraseDups]

theorem named_append_singleton (rs : List Reference) (r : Reference) (name : String) :
    named (rs ++ [r]) name = if r.name = name then named rs name ++ [r] else named rs name := by
  unfold named
  by_cases h : r.name = name
  · simp [h]
  · simp [h]

theorem named_eq_nil (h : name ∉ firstNames rs) : named rs name = [] := by
  rw [named, List.filter_eq_nil_iff]
  intro r hr
  simpa using fun heq => h (mem_firstNames.mpr ⟨r, hr, heq⟩)

/-- Each name has the group of all references to it. -/
theorem groups_ofList (rs : List Reference) :
    (References.ofList rs).groups = (firstNames rs).map (fun name => (name, named rs name)) := by
  induction rs using List.reverseRecOn with
  | nil => rfl
  | append_singleton rs r ih =>
      have hpush : References.ofList (rs ++ [r]) = (References.ofList rs).push r := by
        simp [References.ofList]
      have hknown : (References.ofList rs).groups.any (·.1 == r.name)
          = decide (r.name ∈ firstNames rs) := by
        rw [ih, Bool.eq_iff_iff]
        simp
      rw [hpush, References.push, hknown, firstNames_append_singleton]
      by_cases h : r.name ∈ firstNames rs
      · -- The group of the name grows, the others stay.
        rw [if_pos (decide_eq_true h), if_pos h]
        simp only [ih, List.map_map]
        apply List.map_congr_left
        intro name _
        rw [named_append_singleton]
        by_cases heq : r.name = name
        · simp [heq]
        · simp [heq, Ne.symm heq]
      · -- All groups stay, and one is added for the name.
        rw [if_neg (by simpa using h), if_neg h, List.map_append, List.map_singleton,
          named_append_singleton, if_pos rfl, named_eq_nil h, List.nil_append, ih]
        apply congrArg (· ++ [(r.name, [r])])
        apply List.map_congr_left
        intro name hname
        have hne : r.name ≠ name := by
          rintro rfl
          exact h hname
        rw [named_append_singleton, if_neg hne]

theorem mem_groups_ofList {group : String × List Reference} :
    group ∈ (References.ofList rs).groups ↔
      group.1 ∈ firstNames rs ∧ group.2 = named rs group.1 := by
  rw [groups_ofList, List.mem_map]
  constructor
  · rintro ⟨name, hname, rfl⟩
    exact ⟨hname, rfl⟩
  · rintro ⟨hname, heq⟩
    exact ⟨group.1, hname, Prod.ext rfl heq.symm⟩

/-- Asking for a name gives its group. -/
theorem get?_ofList (rs : List Reference) (name : String) :
    (References.ofList rs).get? name =
      if name ∈ firstNames rs then some (named rs name) else none := by
  rw [References.get?, groups_ofList]
  induction firstNames rs with
  | nil => rfl
  | cons first names ih =>
      by_cases h : name = first
      · simp [h]
      · have hne : (name == first) = false := beq_false_of_ne h
        simp [List.lookup_cons, hne, h, ih]

theorem get?_ofList_eq_some_iff {group : List Reference} :
    (References.ofList rs).get? name = some group ↔
      (name, group) ∈ (References.ofList rs).groups := by
  rw [get?_ofList, mem_groups_ofList]
  by_cases h : name ∈ firstNames rs
  · rw [if_pos h, Option.some_inj]
    exact ⟨fun heq => ⟨h, heq.symm⟩, fun hgroup => hgroup.2.symm⟩
  · rw [if_neg h]
    exact ⟨fun heq => (nomatch heq), fun hgroup => (h hgroup.1).elim⟩

end Groups

/-! ### The references of all groups -/

/-- The references, group after group. -/
def References.ungrouped (rs : References) : List Reference :=
  rs.groups.flatMap (·.2)

/-- References of a group have its name. -/
theorem name_of_mem_groups {rs : List Reference} {group : String × List Reference}
    (hgroup : group ∈ (References.ofList rs).groups) {r : Reference} (hr : r ∈ group.2) :
    r.name = group.1 := by
  rw [(mem_groups_ofList.mp hgroup).2] at hr
  exact (mem_named.mp hr).2

theorem ungrouped_ofList (rs : List Reference) :
    (References.ofList rs).ungrouped = (firstNames rs).flatMap (named rs) := by
  rw [References.ungrouped, groups_ofList, List.flatMap_map]

/-- No reference is lost, and none is repeated. -/
theorem perm_ungrouped_ofList (rs : List Reference) : (References.ofList rs).ungrouped.Perm rs := by
  rw [ungrouped_ofList]
  apply perm_flatMap_filter_of_forall_mem (·.name) rs (nodup_firstNames rs)
  intro r hr
  exact mem_firstNames.mpr ⟨r, hr, rfl⟩

/-- References come by the first reference to their name, and under one name in the order in which
they were found. -/
theorem pairwise_ungrouped_ofList {rs : List Reference} {R : Reference → Reference → Prop}
    (h : rs.Pairwise R) :
    let rank := fun (r : Reference) => (rs.map (·.name)).idxOf r.name
    (References.ofList rs).ungrouped.Pairwise
      (fun r r' => rank r < rank r' ∨ (r.name = r'.name ∧ R r r')) := by
  intro rank
  rw [ungrouped_ofList, List.pairwise_flatMap]
  constructor
  · intro name _
    apply List.Pairwise.imp_of_mem ?_ (h.filter _)
    intro r r' hr hr' hbefore
    exact .inr ⟨(mem_named.mp hr).2.trans (mem_named.mp hr').2.symm, hbefore⟩
  · apply (pairwise_idxOf_eraseDups (rs.map (·.name))).imp
    intro name name' hlt r hr r' hr'
    refine .inl ?_
    simp only [rank]
    rw [(mem_named.mp hr).2, (mem_named.mp hr').2]
    exact hlt

end HttpScript.Variable
