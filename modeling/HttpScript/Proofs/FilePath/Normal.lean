/-
Module: HttpScript.Proofs.FilePath.Normal
Purpose: Normal paths, in which no step is left to take.  Walking along any components leaves names
  behind at most one step up, and walking along these again changes nothing; so a path is normal after
  it has been normalized once.  Resolving is to write the target behind the directory of the document
  and to normalize the result.  Hence a resolved path is normal, and from every directory it leads to
  itself.
Main exports: IsCollapsed, collapse_eq_self_iff, normalize, normalize_normalize, join, parent?,
  same_iff_eq_of_normal, resolve_eq_normalize, normalize_resolve, resolve_ofString_eq
-/
import HttpScript.Proofs.FilePath.Lexical

namespace HttpScript.FilePath

/-! ### What walking leaves -/

/-- Components among which no step is left to take: names behind at most one step up. -/
def IsCollapsed (cs : List Component) : Prop :=
  ∃ (ups : Nat) (names : List (List UInt8)), cs = kept ups ++ names.map Component.name

theorem isCollapsed_collapse (cs : List Component) : IsCollapsed (collapse cs) :=
  ⟨_, _, collapse_eq cs⟩

/-- Names are put on top of what has been walked, one after another. -/
theorem foldl_walk_names (names : List (List UInt8)) (stack : List Component) :
    (names.map Component.name).foldl walk stack = (names.map Component.name).reverse ++ stack := by
  induction names generalizing stack with
  | nil => rfl
  | cons name rest ih =>
      rw [List.map_cons, List.foldl_cons, List.reverse_cons, List.append_assoc]
      exact ih (.name name :: stack)

/-- A step up in front stays: there is nothing below it to take back. -/
theorem foldl_walk_kept (ups : Nat) : (kept ups).foldl walk [] = kept ups := by
  unfold kept
  split
  · rfl
  · rfl

theorem IsCollapsed.collapse_eq {cs : List Component} (h : IsCollapsed cs) : collapse cs = cs := by
  obtain ⟨ups, names, rfl⟩ := h
  rw [collapse, List.foldl_append, foldl_walk_kept, foldl_walk_names, List.reverse_append,
    List.reverse_reverse, reverse_kept]

theorem collapse_eq_self_iff {cs : List Component} : collapse cs = cs ↔ IsCollapsed cs := by
  constructor
  · intro h
    rw [← h]
    exact isCollapsed_collapse cs
  · exact IsCollapsed.collapse_eq

theorem collapse_collapse (cs : List Component) : collapse (collapse cs) = collapse cs :=
  collapse_eq_self_iff.mpr (isCollapsed_collapse cs)

/-! ### Normal paths -/

/-- The path that is left when every step of a path has been taken. -/
def normalize (p : FilePath) : FilePath :=
  ofComponents p.isAbsolute (collapse p.components)

theorem place_normalize (p : FilePath) :
    p.normalize.place = (p.isAbsolute, collapse p.components) :=
  place_ofComponents _ (isStep_collapse (fun _ hc => isStep_of_mem_components hc))

/-- Only the place of a path counts for its normal form. -/
theorem normalize_congr {p q : FilePath} (h : p.place = q.place) : p.normalize = q.normalize := by
  rw [normalize, normalize, isAbsolute_eq_of_place_eq h, components_eq_of_place_eq h]

/-- A normal path is not changed, not even in its spelling. -/
theorem normalize_normalize (p : FilePath) : p.normalize.normalize = p.normalize := by
  obtain ⟨habsolute, hcomponents⟩ := Prod.mk.inj (place_normalize p)
  rw [normalize, habsolute, hcomponents, collapse_collapse]
  rfl

/-- Normal paths have one spelling for each place. -/
theorem same_iff_eq_of_normal {p q : FilePath} (hp : p.normalize = p) (hq : q.normalize = q) :
    p.same q = true ↔ p = q := by
  rw [same_iff]
  constructor
  · intro hplace
    rw [← hp, normalize_congr hplace, hq]
  · exact congrArg place

/-! ### Paths behind directories -/

/-- The path to `target` from the directory `base`.  A slash is put between the two only where there
is none. -/
def join (base target : FilePath) : FilePath :=
  if target.isAbsolute then target
  else if base.bytes = [] ∨ base.bytes.getLast? = some slash then ⟨base.bytes ++ target.bytes⟩
  else ⟨base.bytes ++ slash :: target.bytes⟩

/-- The directory that a path lies in. -/
def parent? (p : FilePath) : Option FilePath :=
  match p.components with
  | [] => none
  | components => some (ofComponents p.isAbsolute components.dropLast)

theorem join_of_isAbsolute (base : FilePath) {target : FilePath} (h : target.isAbsolute = true) :
    base.join target = target :=
  if_pos h

/-- A slash inside a path divides its parts. -/
theorem parts_append_slash_cons (before after : List UInt8) :
    (⟨before ++ slash :: after⟩ : FilePath).parts =
      (⟨before⟩ : FilePath).parts ++ (⟨after⟩ : FilePath).parts := by
  simp only [parts, List.splitOn_append_cons_self before after, List.filter_append]

theorem parts_join (base : FilePath) {target : FilePath} (h : target.isAbsolute = false) :
    (base.join target).parts = base.parts ++ target.parts := by
  have hrelative : ¬target.isAbsolute = true := by simp [h]
  unfold join
  rw [if_neg hrelative]
  split
  · next hends =>
      rcases hends with hnil | hslash
      · obtain ⟨bytes⟩ := base
        obtain rfl : bytes = [] := hnil
        rfl
      · obtain ⟨before, hbytes⟩ := List.getLast?_eq_some_iff.mp hslash
        obtain ⟨bytes⟩ := base
        obtain rfl : bytes = before ++ [slash] := hbytes
        rw [parts_append_slash, List.append_assoc]
        exact parts_append_slash_cons before target.bytes
  · exact parts_append_slash_cons base.bytes target.bytes

theorem isAbsolute_join (base : FilePath) {target : FilePath} (h : target.isAbsolute = false) :
    (base.join target).isAbsolute = base.isAbsolute := by
  have hrelative : ¬target.isAbsolute = true := by simp [h]
  unfold join
  rw [if_neg hrelative]
  obtain ⟨bytes⟩ := base
  cases bytes with
  | nil => simpa [isAbsolute] using h
  | cons first rest =>
      split
      · rfl
      · rfl

/-! ### Resolving is normalizing -/

/-- No step is taken for a single dot. -/
theorem foldl_walk_filter (cs stack : List Component) :
    (cs.filter (· ≠ .current)).foldl walk stack = cs.foldl walk stack := by
  induction cs generalizing stack with
  | nil => rfl
  | cons c rest ih =>
      cases c with
      | current => exact ih stack
      | parent => exact ih (walk stack .parent)
      | name bytes => exact ih (walk stack (.name bytes))

/-- The parts of a path are walked like its components, which are fewer by single dots. -/
theorem foldl_walk_components (p : FilePath) (stack : List Component) :
    p.components.foldl walk stack = (p.parts.map component).foldl walk stack := by
  unfold components
  cases p.parts.map component with
  | nil => rfl
  | cons first rest =>
      simp only
      split
      · next hcurrent =>
          rw [hcurrent.1]
          exact foldl_walk_filter rest stack
      · exact foldl_walk_filter rest (walk stack first)

theorem collapse_join (base : FilePath) {target : FilePath} (h : target.isAbsolute = false) :
    collapse (base.join target).components = collapse (base.components ++ target.components) := by
  simp only [collapse, foldl_walk_components, parts_join base h, List.map_append,
    List.foldl_append]

/-- The directory that relative includes start from, as a path.  There is none for the root directory,
whose includes start from nowhere. -/
theorem place_parent {document : FilePath} (h : document.isAbsolute = true) :
    (document.parent?.getD ⟨[]⟩).place = document.directory := by
  have hsteps := isStep_of_isAbsolute h
  unfold parent? directory
  cases hcomponents : document.components with
  | nil => rfl
  | cons first rest =>
      rw [hcomponents] at hsteps
      exact place_ofComponents _ (fun c hc => hsteps c (List.dropLast_subset _ hc))

/-- An absolute target is resolved without a look at the document. -/
theorem resolve_of_isAbsolute (document : FilePath) {target : String}
    (h : (ofString target).isAbsolute = true) :
    document.resolve target = (ofString target).normalize := by
  simp only [resolve, normalize, h, if_true]

/-- A target is resolved by writing it behind the directory of the document and normalizing. -/
theorem resolve_eq_normalize {document : FilePath} (h : document.isAbsolute = true)
    (target : String) :
    document.resolve target =
      ((document.parent?.getD ⟨[]⟩).join (ofString target)).normalize := by
  cases htarget : (ofString target).isAbsolute with
  | true => rw [join_of_isAbsolute _ htarget, resolve_of_isAbsolute document htarget]
  | false =>
      have hplace := place_parent h
      have habsolute : (document.parent?.getD ⟨[]⟩).isAbsolute = document.directory.1 :=
        congrArg Prod.fst hplace
      have hcomponents : (document.parent?.getD ⟨[]⟩).components = document.directory.2 :=
        congrArg Prod.snd hplace
      rw [normalize, isAbsolute_join _ htarget, collapse_join _ htarget, habsolute, hcomponents]
      simp only [resolve, htarget, Bool.false_eq_true, if_false]

theorem normalize_resolve {document : FilePath} (h : document.isAbsolute = true)
    (target : String) : (document.resolve target).normalize = document.resolve target := by
  rw [resolve_eq_normalize h, normalize_normalize]

theorem isAbsolute_resolve_eq (document : FilePath) (target : String) :
    (document.resolve target).isAbsolute = document.fromRoot target :=
  congrArg Prod.fst (place_resolve document target)

variable {r : FilePath}

/-- From every directory a normal absolute path leads to itself. -/
theorem normalize_join_eq (habsolute : r.isAbsolute = true) (hnormal : r.normalize = r)
    (base : FilePath) : (base.join r).normalize = r := by
  rw [join_of_isAbsolute base habsolute, hnormal]

/-- A normal absolute path that is text is resolved to itself, wherever it is written. -/
theorem resolve_ofString_eq (habsolute : r.isAbsolute = true) (hnormal : r.normalize = r)
    (document : FilePath) {target : String} (htarget : ofString target = r) :
    document.resolve target = r := by
  rw [← htarget] at habsolute
  rw [resolve_of_isAbsolute document habsolute, htarget, hnormal]

end HttpScript.FilePath
