/-
Module: HttpScript.Dict
Purpose: Finite maps from names to values, kept sorted by name.  Two maps with the same bindings are
  equal, so a map read back from its serialized form can be compared with the one that was written,
  and no answer depends on the order of insertion.
Main exports: Dict, Dict.get?, Dict.insert, Dict.erase, Dict.ofList, Dict.keys,
  Dict.ext_get?, Dict.get?_union, Dict.ofList_entries, Dict.entries_ofList_perm,
  Dict.keys_eq_of_contains_eq
-/

namespace HttpScript

universe u

namespace Entries

variable {α : Type u}

/-- Binds a name in a list sorted by name, in place of an earlier binding of it. -/
def insert (name : String) (value : α) : List (String × α) → List (String × α)
  | [] => [(name, value)]
  | (k, v) :: rest =>
    if name < k then (name, value) :: (k, v) :: rest
    else if name = k then (name, value) :: rest
    else (k, v) :: insert name value rest

/-- The first value bound to a name. -/
def get? (name : String) : List (String × α) → Option α
  | [] => none
  | (k, v) :: rest => if name = k then some v else get? name rest

theorem insert_cons (name : String) (value : α) (e : String × α) (rest : List (String × α)) :
    insert name value (e :: rest) =
      if name < e.1 then (name, value) :: e :: rest
      else if name = e.1 then (name, value) :: rest
      else e :: insert name value rest := rfl

theorem get?_nil (name : String) : get? name ([] : List (String × α)) = none := rfl

theorem get?_cons (name : String) (e : String × α) (rest : List (String × α)) :
    get? name (e :: rest) = if name = e.1 then some e.2 else get? name rest := rfl

/-- Sorted by name, each name once. -/
def Sorted (entries : List (String × α)) : Prop :=
  entries.Pairwise (fun a b => a.1 < b.1)

theorem lt_of_not_lt_of_ne {a b : String} (h : ¬a < b) (hne : a ≠ b) : b < a := by
  apply Decidable.byContradiction
  intro h'
  exact hne (String.le_antisymm (String.not_lt.mp h') (String.not_lt.mp h))

theorem mem_insert {name : String} {value : α} {entries : List (String × α)} {e : String × α}
    (h : e ∈ insert name value entries) : e = (name, value) ∨ e ∈ entries := by
  induction entries with
  | nil => exact .inl (List.mem_singleton.mp h)
  | cons head rest ih =>
    rw [insert_cons] at h
    split at h
    · simpa using h
    · split at h
      · rcases List.mem_cons.mp h with h | h
        · exact .inl h
        · exact .inr (List.mem_cons_of_mem _ h)
      · rcases List.mem_cons.mp h with h | h
        · exact .inr (by simp [h])
        · exact (ih h).imp id (List.mem_cons_of_mem _)

theorem Sorted.insert {name : String} {value : α} {entries : List (String × α)}
    (h : Sorted entries) : Sorted (insert name value entries) := by
  induction entries with
  | nil => exact List.pairwise_singleton _ _
  | cons head rest ih =>
    obtain ⟨hk, hrest⟩ := List.pairwise_cons.mp h
    rw [insert_cons]
    split
    · next hlt =>
      refine List.pairwise_cons.mpr ⟨fun e he => ?_, h⟩
      rcases List.mem_cons.mp he with rfl | he
      · exact hlt
      · exact String.lt_trans hlt (hk e he)
    · next hlt =>
      split
      · next heq => exact List.pairwise_cons.mpr ⟨fun e he => heq ▸ hk e he, hrest⟩
      · next hne =>
        refine List.pairwise_cons.mpr ⟨fun e he => ?_, ih hrest⟩
        rcases mem_insert he with rfl | he
        · exact lt_of_not_lt_of_ne hlt hne
        · exact hk e he

theorem get?_insert (name key : String) (value : α) (entries : List (String × α)) :
    get? key (insert name value entries) = if key = name then some value else get? key entries := by
  induction entries with
  | nil => rfl
  | cons head rest ih =>
    rw [insert_cons]
    split
    · exact get?_cons key (name, value) (head :: rest)
    · split
      · next heq =>
        subst heq
        simp only [get?_cons]
        split <;> rfl
      · next hne =>
        simp only [get?_cons, ih]
        by_cases hk : key = head.1
        · subst hk; simp [Ne.symm hne]
        · simp [hk]

/-- In a sorted list the first value bound to a name is the only one. -/
theorem get?_eq_some_iff {name : String} {value : α} {entries : List (String × α)}
    (h : Sorted entries) : get? name entries = some value ↔ (name, value) ∈ entries := by
  induction entries with
  | nil => simp [get?_nil]
  | cons head rest ih =>
    obtain ⟨k, v⟩ := head
    obtain ⟨hk, hrest⟩ := List.pairwise_cons.mp h
    by_cases hname : name = k
    · subst hname
      have hnot : (name, value) ∉ rest := fun hmem => String.lt_irrefl name (hk _ hmem)
      simp [get?_cons, hnot, eq_comm]
    · simp [get?_cons, hname, ih hrest]

theorem get?_filter (keep : String → Bool) (key : String) (entries : List (String × α)) :
    get? key (entries.filter (fun e => keep e.1)) =
      if keep key then get? key entries else none := by
  induction entries with
  | nil => simp [get?_nil]
  | cons head rest ih =>
    obtain ⟨k, v⟩ := head
    by_cases hkey : key = k
    · subst hkey
      cases hkeep : keep key with
      | false => simpa [hkeep] using ih
      | true => simp [get?_cons, hkeep]
    · cases hkeep : keep k with
      | false => simpa [get?_cons, hkey, hkeep] using ih
      | true => simpa [get?_cons, hkey, hkeep] using ih

theorem insert_perm {name : String} {value : α} {entries : List (String × α)}
    (h : get? name entries = none) :
    (insert name value entries).Perm ((name, value) :: entries) := by
  induction entries with
  | nil => exact .refl _
  | cons head rest ih =>
    rw [get?_cons] at h
    rw [insert_cons]
    split at h
    · cases h
    next hne =>
      split
      · exact .refl _
      · exact ((ih h).cons head).trans (.swap _ _ _)

end Entries

/-- A finite map from names to values. -/
structure Dict (α : Type u) where
  entries : List (String × α)
  sorted : Entries.Sorted entries
deriving DecidableEq

namespace Dict

variable {α : Type u}

def empty : Dict α :=
  ⟨[], List.Pairwise.nil⟩

instance : EmptyCollection (Dict α) := ⟨empty⟩
instance : Inhabited (Dict α) := ⟨empty⟩

instance [Repr α] : Repr (Dict α) := ⟨fun d n => reprPrec d.entries n⟩

def insert (d : Dict α) (name : String) (value : α) : Dict α :=
  ⟨Entries.insert name value d.entries, d.sorted.insert⟩

def erase (d : Dict α) (name : String) : Dict α :=
  ⟨d.entries.filter (fun e => e.1 ≠ name), d.sorted.filter _⟩

def get? (d : Dict α) (name : String) : Option α :=
  Entries.get? name d.entries

def contains (d : Dict α) (name : String) : Bool :=
  (d.get? name).isSome

def keys (d : Dict α) : List String :=
  d.entries.map (·.1)

def size (d : Dict α) : Nat :=
  d.entries.length

/-- The map of a list of bindings, a later binding replacing an earlier one of the same name. -/
def ofList (bindings : List (String × α)) : Dict α :=
  bindings.foldl (fun d b => d.insert b.1 b.2) empty

/-- The bindings of `d`, each replaced or joined by those of `more`. -/
def union (d more : Dict α) : Dict α :=
  more.entries.foldl (fun d b => d.insert b.1 b.2) d

@[simp] theorem get?_empty (key : String) : (empty : Dict α).get? key = none := rfl

@[simp] theorem get?_insert (d : Dict α) (name key : String) (value : α) :
    (d.insert name value).get? key = if key = name then some value else d.get? key :=
  Entries.get?_insert name key value d.entries

@[simp] theorem get?_erase (d : Dict α) (name key : String) :
    (d.erase name).get? key = if key = name then none else d.get? key := by
  rw [get?, erase, Entries.get?_filter (fun k => k ≠ name)]
  by_cases hkey : key = name
  · simp [hkey]
  · simp [hkey, get?]

theorem mem_entries_iff {d : Dict α} {e : String × α} :
    e ∈ d.entries ↔ d.get? e.1 = some e.2 :=
  (Entries.get?_eq_some_iff d.sorted).symm

theorem nodup_keys (d : Dict α) : d.keys.Nodup := by
  refine List.pairwise_map.mpr (d.sorted.imp ?_)
  intro a b hlt heq
  exact String.lt_irrefl b.1 (heq ▸ hlt)

theorem nodup_entries (d : Dict α) : d.entries.Nodup := by
  refine d.sorted.imp ?_
  intro a b hlt heq
  exact String.lt_irrefl b.1 (heq ▸ hlt)

theorem mem_keys {d : Dict α} {name : String} : name ∈ d.keys ↔ d.contains name = true := by
  rw [keys, List.mem_map, contains, Option.isSome_iff_exists]
  constructor
  · rintro ⟨e, he, rfl⟩
    exact ⟨e.2, mem_entries_iff.mp he⟩
  · rintro ⟨value, hvalue⟩
    exact ⟨(name, value), mem_entries_iff.mpr hvalue, rfl⟩

/-- A map is determined by what its names are bound to. -/
theorem ext_get? {d e : Dict α} (h : ∀ name, d.get? name = e.get? name) : d = e := by
  have hperm : d.entries.Perm e.entries := by
    apply (List.perm_ext_iff_of_nodup d.nodup_entries e.nodup_entries).mpr
    intro entry
    rw [mem_entries_iff, mem_entries_iff, h entry.1]
  have hentries : d.entries = e.entries := by
    apply hperm.eq_of_pairwise ?_ d.sorted e.sorted
    intro a b _ _ hab hba
    exact absurd (String.lt_trans hab hba) (String.lt_irrefl a.1)
  obtain ⟨entries, sorted⟩ := d
  obtain rfl := hentries
  rfl

theorem get?_foldl_insert (d : Dict α) {bindings : List (String × α)}
    (h : Entries.Sorted bindings) (key : String) :
    (bindings.foldl (fun d b => d.insert b.1 b.2) d).get? key =
      (Entries.get? key bindings).or (d.get? key) := by
  induction bindings generalizing d with
  | nil => rfl
  | cons b bindings ih =>
    obtain ⟨hb, hrest⟩ := List.pairwise_cons.mp h
    rw [List.foldl_cons, ih (d.insert b.1 b.2) hrest, get?_insert, Entries.get?_cons]
    split
    next heq =>
      -- No other binding of this name follows.
      have hnone : Entries.get? key bindings = none := by
        rw [Option.eq_none_iff_forall_ne_some]
        intro value hvalue
        have hlt := hb _ ((Entries.get?_eq_some_iff hrest).mp hvalue)
        exact String.lt_irrefl key (heq ▸ hlt)
      rw [hnone, Option.none_or, Option.some_or]
    next => rfl

@[simp] theorem get?_union (d more : Dict α) (key : String) :
    (d.union more).get? key = (more.get? key).or (d.get? key) :=
  get?_foldl_insert d more.sorted key

/-- A map is the map of its bindings. -/
@[simp] theorem ofList_entries (d : Dict α) : ofList d.entries = d := by
  apply ext_get?
  intro key
  rw [ofList, get?_foldl_insert empty d.sorted key, get?_empty, Option.or_none]
  rfl

/-- A map has only bindings it was given. -/
theorem mem_of_mem_entries_ofList {bindings : List (String × α)} {e : String × α}
    (h : e ∈ (ofList bindings).entries) : e ∈ bindings := by
  have hall : ∀ d : Dict α, e ∈ (bindings.foldl (fun d b => d.insert b.1 b.2) d).entries →
      e ∈ bindings ∨ e ∈ d.entries := by
    clear h
    induction bindings with
    | nil => exact fun d he => .inr he
    | cons b bindings ih =>
      intro d he
      rcases ih _ he with he | he
      · exact .inl (List.mem_cons_of_mem b he)
      · rcases Entries.mem_insert he with rfl | he
        · exact .inl List.mem_cons_self
        · exact .inr he
  exact (hall empty h).resolve_right List.not_mem_nil

/-- New names come to the bindings that are there. -/
theorem entries_foldl_insert_perm {d : Dict α} {bindings : List (String × α)}
    (hnodup : (bindings.map (·.1)).Nodup) (hnew : ∀ b ∈ bindings, d.get? b.1 = none) :
    (bindings.foldl (fun d b => d.insert b.1 b.2) d).entries.Perm (bindings ++ d.entries) := by
  induction bindings generalizing d with
  | nil => exact .refl _
  | cons b bindings ih =>
    obtain ⟨hfirst, hrest⟩ := List.nodup_cons.mp hnodup
    obtain ⟨hb, hbindings⟩ := List.forall_mem_cons.mp hnew
    have hnew' : ∀ b' ∈ bindings, (d.insert b.1 b.2).get? b'.1 = none := by
      intro b' hb'
      rw [get?_insert, if_neg, hbindings b' hb']
      intro heq
      exact hfirst (List.mem_map.mpr ⟨b', hb', heq⟩)
    have hinsert : (d.insert b.1 b.2).entries.Perm (b :: d.entries) := Entries.insert_perm hb
    exact ((ih hrest hnew').trans (hinsert.append_left bindings)).trans List.perm_middle

/-- A map of bindings with distinct names has these bindings. -/
theorem entries_ofList_perm {bindings : List (String × α)} (h : (bindings.map (·.1)).Nodup) :
    (ofList bindings).entries.Perm bindings := by
  have hperm := entries_foldl_insert_perm (d := empty) h (fun _ _ => rfl)
  rwa [show (empty : Dict α).entries = [] from rfl, List.append_nil] at hperm

/-- The names of a map do not depend on how they were inserted. -/
theorem keys_eq_of_contains_eq {d e : Dict α}
    (h : ∀ name, d.contains name = e.contains name) : d.keys = e.keys := by
  have hperm : d.keys.Perm e.keys := by
    apply (List.perm_ext_iff_of_nodup d.nodup_keys e.nodup_keys).mpr
    intro name
    rw [mem_keys, mem_keys, h name]
  apply hperm.eq_of_pairwise ?_ (List.pairwise_map.mpr d.sorted) (List.pairwise_map.mpr e.sorted)
  intro a b _ _ hab hba
  exact absurd (String.lt_trans hab hba) (String.lt_irrefl a)

end Dict

end HttpScript
