/-
Module: HttpScript.Proofs.FilePath.Place
Purpose: What a file name means apart from its spelling.  Two names are the same exactly when they
  agree on being absolute and on their components, and both survive being written out and read
  back.  So a resolved path is determined by its place, and what it is resolved against matters by
  its place only.
Main exports: FilePath.place, same_iff, components_ofComponents, resolve_congr,
  resolve_eq_of_place_eq, isAbsolute_resolve
-/
import HttpScript.FilePath
import HttpScript.Text.Lines

namespace HttpScript

/-- A component that is read back from any place of the path it is written into.  A single dot is
not: it is dropped everywhere but at the start of a relative path. -/
def Component.IsStep : Component → Prop
  | .current => False
  | .parent => True
  | .name bytes => bytes ≠ [] ∧ FilePath.slash ∉ bytes ∧ bytes ≠ [0x2E] ∧ bytes ≠ [0x2E, 0x2E]

theorem Component.IsStep.ne_current {c : Component} (h : c.IsStep) : c ≠ .current := by
  rintro rfl
  exact h

theorem Component.IsStep.bytes_ne_nil {c : Component} (h : c.IsStep) : c.bytes ≠ [] := by
  cases c with
  | current => exact h.elim
  | parent => simp [Component.bytes]
  | name bytes => exact h.1

theorem Component.IsStep.slash_notMem_bytes {c : Component} (h : c.IsStep) :
    FilePath.slash ∉ c.bytes := by
  cases c with
  | current => exact h.elim
  | parent => decide
  | name bytes => exact h.2.1

namespace FilePath

/-- Where a name leads, whatever its spelling. -/
def place (p : FilePath) : Bool × List Component :=
  (p.isAbsolute, p.components)

theorem same_iff {p q : FilePath} : p.same q = true ↔ p.place = q.place := by
  simp [same, place]

theorem same_eq_false_iff {p q : FilePath} : p.same q = false ↔ p.place ≠ q.place := by
  rw [← Bool.not_eq_true, same_iff]

theorem isAbsolute_eq_of_place_eq {p q : FilePath} (h : p.place = q.place) :
    p.isAbsolute = q.isAbsolute :=
  congrArg Prod.fst h

theorem components_eq_of_place_eq {p q : FilePath} (h : p.place = q.place) :
    p.components = q.components :=
  congrArg Prod.snd h

/-! ### Components survive being written -/

theorem component_bytes {c : Component} (h : c.IsStep) : component c.bytes = c := by
  cases c with
  | current => exact h.elim
  | parent => rfl
  | name bytes => simp [component, Component.bytes, h.2.2.1, h.2.2.2]

theorem map_component_map_bytes {cs : List Component} (h : ∀ c ∈ cs, c.IsStep) :
    (cs.map Component.bytes).map component = cs := by
  rw [List.map_map]
  have hid : cs.map (component ∘ Component.bytes) = cs.map id :=
    List.map_congr_left (fun c hc => component_bytes (h c hc))
  rw [hid, List.map_id]

/-- Steps written between slashes are found again between the slashes. -/
theorem parts_intercalate {cs : List Component} (h : ∀ c ∈ cs, c.IsStep) :
    (([slash].intercalate (cs.map Component.bytes)).splitOn slash).filter (fun b => !b.isEmpty)
      = cs.map Component.bytes := by
  cases cs with
  | nil => rfl
  | cons c rest =>
      have hslash : ∀ bytes ∈ (c :: rest).map Component.bytes, slash ∉ bytes := by
        intro bytes hbytes
        obtain ⟨d, hd, rfl⟩ := List.mem_map.mp hbytes
        exact (h d hd).slash_notMem_bytes
      rw [List.splitOn_intercalate slash hslash (by simp)]
      refine List.filter_eq_self.mpr ?_
      intro bytes hbytes
      obtain ⟨d, hd, rfl⟩ := List.mem_map.mp hbytes
      simpa using (h d hd).bytes_ne_nil

/-- A slash in front opens no part. -/
theorem parts_slash_cons (bytes : List UInt8) :
    (⟨slash :: bytes⟩ : FilePath).parts = (⟨bytes⟩ : FilePath).parts := by
  have hsplit : (slash :: bytes).splitOn slash = [[]] ++ bytes.splitOn slash :=
    List.splitOn_append_cons_self [] bytes
  simp [parts, hsplit]

/-- A slash at the end opens no part. -/
theorem parts_append_slash (bytes : List UInt8) :
    (⟨bytes ++ [slash]⟩ : FilePath).parts = (⟨bytes⟩ : FilePath).parts := by
  have hsplit : (bytes ++ [slash]).splitOn slash = bytes.splitOn slash ++ [[]] :=
    List.splitOn_append_cons_self bytes []
  simp [parts, hsplit]

theorem parts_ofComponents (absolute : Bool) {cs : List Component} (h : ∀ c ∈ cs, c.IsStep) :
    (ofComponents absolute cs).parts = cs.map Component.bytes := by
  cases absolute with
  | false => exact parts_intercalate h
  | true =>
      have hcons := parts_slash_cons ([slash].intercalate (cs.map Component.bytes))
      exact hcons.trans (parts_intercalate h)

/-- Where no part is a single dot, the parts are the components. -/
theorem components_of_isStep {p : FilePath} (h : ∀ c ∈ p.parts.map component, c.IsStep) :
    p.components = p.parts.map component := by
  unfold components
  cases hparts : p.parts.map component with
  | nil => rfl
  | cons first rest =>
      rw [hparts] at h
      have hfirst : first ≠ .current := (h first (by simp)).ne_current
      have hrest : rest.filter (· ≠ .current) = rest := by
        refine List.filter_eq_self.mpr ?_
        intro c hc
        simpa using (h c (by simp [hc])).ne_current
      simp only [hrest, hfirst, false_and, if_false]

theorem components_ofComponents (absolute : Bool) {cs : List Component}
    (h : ∀ c ∈ cs, c.IsStep) : (ofComponents absolute cs).components = cs := by
  have hparts : (ofComponents absolute cs).parts.map component = cs := by
    rw [parts_ofComponents absolute h, map_component_map_bytes h]
  rw [components_of_isStep (by rw [hparts]; exact h), hparts]

theorem isAbsolute_ofComponents (absolute : Bool) {cs : List Component}
    (h : ∀ c ∈ cs, c.IsStep) : (ofComponents absolute cs).isAbsolute = absolute := by
  cases absolute with
  | true => simp [ofComponents, isAbsolute]
  | false =>
      cases cs with
      | nil => rfl
      | cons c rest =>
          have hstep := h c (by simp)
          obtain ⟨first, more, hbytes⟩ := List.exists_cons_of_ne_nil hstep.bytes_ne_nil
          have hfirst : first ≠ slash := by
            rintro rfl
            exact hstep.slash_notMem_bytes (by simp [hbytes])
          cases rest with
          | nil => simpa [ofComponents, isAbsolute, hbytes] using hfirst
          | cons d rest => simpa [ofComponents, isAbsolute, hbytes] using hfirst

theorem place_ofComponents (absolute : Bool) {cs : List Component} (h : ∀ c ∈ cs, c.IsStep) :
    (ofComponents absolute cs).place = (absolute, cs) := by
  rw [place, isAbsolute_ofComponents absolute h, components_ofComponents absolute h]

/-! ### Components are steps -/

theorem isStep_component {part : List UInt8} (hne : part ≠ []) (hslash : slash ∉ part)
    (hdot : component part ≠ .current) : (component part).IsStep := by
  unfold component at hdot ⊢
  split
  · next h => simp [h] at hdot
  · next h =>
      split
      · trivial
      · next h' => exact ⟨hne, hslash, h, h'⟩

/-- A component is a step, or a single dot at the start of a relative path. -/
theorem isStep_of_mem_components {p : FilePath} {c : Component} (h : c ∈ p.components)
    (hc : c ≠ .current) : c.IsStep := by
  have hmem : c ∈ p.parts.map component := by
    unfold components at h
    cases hparts : p.parts.map component with
    | nil => simp [hparts] at h
    | cons first rest =>
        simp only [hparts] at h
        split at h
        · exact List.mem_cons_of_mem _ (List.mem_filter.mp h).1
        · rcases List.mem_cons.mp h with rfl | h
          · exact List.mem_cons_self
          · exact List.mem_cons_of_mem _ (List.mem_filter.mp h).1
  obtain ⟨part, hpart, rfl⟩ := List.mem_map.mp hmem
  obtain ⟨hsplit, hne⟩ := List.mem_filter.mp hpart
  exact isStep_component (by simpa using hne) (Text.notMem_of_mem_splitOn hsplit) hc

/-- An absolute path has no single dot among its components. -/
theorem current_notMem_components {p : FilePath} (h : p.isAbsolute = true) :
    Component.current ∉ p.components := by
  unfold components
  cases p.parts.map component with
  | nil => simp
  | cons first rest =>
      by_cases hfirst : first = .current
      · simp [hfirst, h]
      · simp [hfirst, Ne.symm hfirst]

theorem isStep_of_isAbsolute {p : FilePath} (h : p.isAbsolute = true) :
    ∀ c ∈ p.components, c.IsStep := by
  intro c hc
  refine isStep_of_mem_components hc ?_
  rintro rfl
  exact current_notMem_components h hc

/-! ### Resolving goes from place to place -/

/-- Walking keeps to steps: single dots are dropped on the way. -/
theorem isStep_foldl_walk {cs : List Component} (hcs : ∀ c ∈ cs, c ≠ .current → c.IsStep) :
    ∀ {stack : List Component}, (∀ c ∈ stack, c.IsStep) →
      ∀ c ∈ cs.foldl walk stack, c.IsStep := by
  induction cs with
  | nil => exact fun hstack => hstack
  | cons first rest ih =>
      intro stack hstack
      refine ih (fun c hc => hcs c (List.mem_cons_of_mem _ hc)) ?_
      cases first with
      | current => exact hstack
      | parent =>
          cases stack with
          | nil => simp [walk, Component.IsStep]
          | cons top below => exact fun c hc => hstack c (List.mem_cons_of_mem _ hc)
      | name bytes =>
          intro c hc
          rcases List.mem_cons.mp hc with rfl | hc
          · exact hcs _ List.mem_cons_self (by simp)
          · exact hstack c hc

theorem isStep_collapse {cs : List Component} (hcs : ∀ c ∈ cs, c ≠ .current → c.IsStep) :
    ∀ c ∈ collapse cs, c.IsStep := by
  intro c hc
  exact isStep_foldl_walk hcs (by simp) c (List.mem_reverse.mp hc)

/-- Only the components of a document count for the directory it lies in. -/
theorem mem_components_of_mem_directory {p : FilePath} {c : Component} (h : c ∈ p.directory.2) :
    c ∈ p.components := by
  unfold directory at h
  cases hp : p.components with
  | nil => simp [hp] at h
  | cons first rest =>
      rw [hp] at h
      exact List.dropLast_subset _ h

/-- A resolved path is the spelling of some steps, absolute if the directory is. -/
theorem resolve_eq_ofComponents (p : FilePath) (target : String) :
    ∃ absolute cs, p.resolve target = ofComponents absolute cs ∧ (∀ c ∈ cs, c.IsStep) ∧
      (p.directory.1 = true → absolute = true) := by
  unfold resolve
  simp only
  split
  · refine ⟨true, _, rfl, isStep_collapse ?_, fun _ => rfl⟩
    intro c hc
    exact isStep_of_mem_components hc
  · refine ⟨_, _, rfl, isStep_collapse ?_, id⟩
    intro c hc
    rcases List.mem_append.mp hc with hc | hc
    · exact isStep_of_mem_components (mem_components_of_mem_directory hc)
    · exact isStep_of_mem_components hc

/-- Resolved paths have one spelling for each place. -/
theorem resolve_eq_of_place_eq {p q : FilePath} {s t : String}
    (h : (p.resolve s).place = (q.resolve t).place) : p.resolve s = q.resolve t := by
  obtain ⟨a, cs, hp, hcs, -⟩ := resolve_eq_ofComponents p s
  obtain ⟨b, ds, hq, hds, -⟩ := resolve_eq_ofComponents q t
  rw [hp, hq, place_ofComponents a hcs, place_ofComponents b hds] at h
  obtain ⟨rfl, rfl⟩ := Prod.mk.inj h
  rw [hp, hq]

/-- What is included does not depend on how the including document is spelled. -/
theorem resolve_congr {p q : FilePath} (h : p.place = q.place) (target : String) :
    p.resolve target = q.resolve target := by
  have hdir : p.directory = q.directory := by
    unfold directory
    rw [components_eq_of_place_eq h, isAbsolute_eq_of_place_eq h]
  unfold resolve
  rw [hdir]

/-- Only from the root directory, which lies in no other, a path resolves to a relative one. -/
theorem isAbsolute_resolve {p : FilePath} (hp : p.isAbsolute = true) (hne : p.components ≠ [])
    (target : String) : (p.resolve target).isAbsolute = true := by
  have hdir : p.directory.1 = true := by
    unfold directory
    cases hc : p.components with
    | nil => exact absurd hc hne
    | cons first rest => exact hp
  obtain ⟨absolute, cs, hresolve, hcs, habsolute⟩ := resolve_eq_ofComponents p target
  rw [hresolve, isAbsolute_ofComponents absolute hcs]
  exact habsolute hdir

end FilePath

end HttpScript
