/-
Module: HttpScript.Proofs.Script.Success
Purpose: When a document can be expanded, said in terms of walks along includes only, and why
  expansion ends by itself.  A walk without repetition comes to no more documents than there are
  texts, so a limit above their number is never met.
Main exports: Explains.not_passable, settled_of_length_lt, expand_ok_iff_walks
-/
import HttpScript.Proofs.Script.Failure

namespace HttpScript.Script

variable {files : MemoryFiles} {maxDepth : Nat} {visited : List FilePath} {path : FilePath}
  {document root : TextDocument}

/-! ### A failure against passable walks -/

/-- The step that a failure explains is one that no passable walk takes. -/
theorem Explains.not_passable {ahead : List FilePath} {start target : FilePath} {e : DocumentError}
    (h : Explains files maxDepth root (start :: ahead) target e) :
    ¬ Passable files maxDepth [start] (ahead ++ [target]) := by
  intro hpassable
  have hdistinct : Distinct ((start :: ahead) ++ [target]) := hpassable.distinct
  have hfresh := (distinct_append_singleton_iff.mp hdistinct).2
  have hshort := hpassable.short
  have hmem : target ∈ ahead ++ [target] := by simp
  cases e with
  | load p from_ cause =>
      obtain ⟨-, hget, -⟩ := h
      have hheld := hpassable.held target hmem
      rw [hget] at hheld
      cases hheld
  | includeCycle chain =>
      obtain ⟨-, ⟨p, hp, hsame⟩, -⟩ := h
      rw [hfresh p hp] at hsame
      cases hsame
  | includeDepthExceeded p limit =>
      obtain ⟨-, -, -, hlength⟩ := h
      simp only [List.length_append, List.length_cons, List.length_nil] at hlength hshort
      omega
  | notAFile uri =>
      obtain ⟨-, hrelative, -⟩ := h
      rw [hpassable.absolute target hmem] at hrelative
      cases hrelative

/-! ### Walks are no longer than the texts -/

/-- A walk that goes on has a text wherever it goes on from. -/
theorem IncludeWalk.held {text : Option String} {ahead : List FilePath} {target : FilePath}
    (h : IncludeWalk files path text (ahead ++ [target])) :
    ∀ p ∈ ahead, (files.get? p).isSome = true := by
  induction ahead generalizing path text with
  | nil => simp
  | cons q rest ih =>
      cases h with
      | @step _ _ d _ hd hrest =>
          refine List.forall_mem_cons.mpr ⟨?_, ih hrest⟩
          -- The walk goes on from here, to the rest or to the target.
          generalize files.get? (path.resolve d.path) = t at hrest
          cases t with
          | some t => rfl
          | none =>
              cases rest with
              | nil => cases hrest
              | cons q' rest => cases hrest

theorem exists_mem_of_get? {p : FilePath} (h : (files.get? p).isSome = true) :
    ∃ f ∈ files.files, f.1.place = p.place := by
  unfold MemoryFiles.get? at h
  cases hfind : files.files.find? (fun f => f.1.same p) with
  | none => simp [hfind] at h
  | some f =>
      have hsame := List.find?_some hfind
      exact ⟨f, List.mem_of_find?_eq_some hfind, FilePath.same_iff.mp hsame⟩

/-- There are no more different paths with a text than texts. -/
theorem length_le_of_distinct {paths : List FilePath} (hdistinct : Distinct paths)
    (hheld : ∀ p ∈ paths, (files.get? p).isSome = true) :
    paths.length ≤ files.files.length := by
  have hsubset : paths.map FilePath.place ⊆ files.files.map (fun f => f.1.place) := by
    intro place hplace
    obtain ⟨p, hp, rfl⟩ := List.mem_map.mp hplace
    obtain ⟨f, hf, hfp⟩ := exists_mem_of_get? (hheld p hp)
    exact List.mem_map.mpr ⟨f, hf, hfp⟩
  have hle := (distinct_iff_nodup.mp hdistinct).length_le_of_subset hsubset
  simpa using hle

/-- A limit above the number of texts is never met. -/
theorem settled_of_length_lt (hlt : files.files.length < maxDepth) :
    Settled (expand files.load maxDepth document) := by
  intro p limit hexpand
  cases hfile : document.filePath? with
  | none =>
      obtain ⟨_, d, _, _, hd, _⟩ :=
        firstFailure_of_nodesOf (expandWithin_eq_error_iff.mp hexpand)
      rw [includeWithin_of_filePath?_none hfile] at hd
      cases hd
  | some start =>
      obtain ⟨ahead, target, hwalk, hdistinct, -, -, -, hlength⟩ :=
        (Reached.start hfile maxDepth).explains hexpand
      have hahead : Distinct ahead := (List.pairwise_cons.mp hdistinct).2
      have hle := length_le_of_distinct hahead hwalk.walk.held
      simp only [List.singleton_append, List.length_cons] at hlength
      omega

/-! ### Success -/

theorem passable_singleton_iff {start : FilePath} {ahead : List FilePath} :
    Passable files maxDepth [start] ahead ↔
      Distinct (start :: ahead) ∧ ahead.length ≤ maxDepth ∧
        ∀ p ∈ ahead, (files.get? p).isSome = true ∧ p.isAbsolute = true := by
  constructor
  · intro h
    have hshort := h.short
    simp only [List.singleton_append, List.length_cons] at hshort
    exact ⟨h.distinct, by omega, fun p hp => ⟨h.held p hp, h.absolute p hp⟩⟩
  · rintro ⟨hdistinct, hshort, hahead⟩
    refine ⟨hdistinct, ?_, fun p hp => (hahead p hp).1, fun p hp => (hahead p hp).2⟩
    simp only [List.singleton_append, List.length_cons]
    omega

theorem exists_expand_iff_passable {start : FilePath} (hfile : document.filePath? = some start) :
    (∃ tree, expand files.load maxDepth document = .ok tree) ↔
      ∀ rest, IncludeWalk files start (some document.text) rest →
        Passable files maxDepth [start] rest := by
  have hreached := Reached.start hfile maxDepth
  constructor
  · rintro ⟨tree, hexpand⟩ rest hwalk
    exact hreached.passable hwalk rfl hexpand
  · intro hpassable
    cases hexpand : expand files.load maxDepth document with
    | ok tree => exact ⟨tree, rfl⟩
    | error e =>
        obtain ⟨ahead, target, hwalk, -, hexplains⟩ := hreached.explains hexpand
        exact absurd (hpassable _ hwalk.walk) hexplains.not_passable

theorem exists_expand_iff_of_filePath?_none (hfile : document.filePath? = none) :
    (∃ tree, expand files.load maxDepth document = .ok tree) ↔
      ∀ d, Directive.inclusion d ∉ scan document.text := by
  constructor
  · rintro ⟨tree, hexpand⟩ d hd
    obtain ⟨-, hnodes⟩ := expandWithin_eq_ok_iff_nodesOf.mp hexpand
    obtain ⟨r, hr⟩ := exists_ok_of_mem hnodes hd
    rw [includeWithin_of_filePath?_none hfile] at hr
    cases hr
  · intro hnone
    cases hexpand : expand files.load maxDepth document with
    | ok tree => exact ⟨tree, rfl⟩
    | error e =>
        obtain ⟨before, d, after, hscan, -⟩ :=
          firstFailure_of_nodesOf (expandWithin_eq_error_iff.mp hexpand)
        exact absurd (by simp [hscan]) (hnone d)

/-- A document can be expanded exactly when every walk along includes from it comes to different
files, each absolute and with a text, and is no longer than the limit.  A document that is no file
must not include anything.  However great the limit is, the number of texts bounds the depth. -/
theorem expand_ok_iff_walks (files : MemoryFiles) (maxDepth : Nat) (document : TextDocument) :
    ((∃ tree, expand files.load maxDepth document = .ok tree) ↔
      match document.filePath? with
      | some start => ∀ rest, IncludeWalk files start (some document.text) rest →
          Distinct (start :: rest) ∧ rest.length ≤ maxDepth ∧
            ∀ p ∈ rest, (files.get? p).isSome = true ∧ p.isAbsolute = true
      | none => ∀ d, Directive.inclusion d ∉ scan document.text) ∧
    ∀ limit, files.files.length < limit →
      expand files.load limit document = expand files.load (files.files.length + 1) document := by
  constructor
  · cases hfile : document.filePath? with
    | none => exact exists_expand_iff_of_filePath?_none hfile
    | some start =>
        rw [exists_expand_iff_passable hfile]
        simp only [passable_singleton_iff]
  · intro limit hlt
    exact expand_mono hlt (settled_of_length_lt (Nat.lt_succ_self _))

/-! ### From the root directory -/

theorem scan_rootDirectoryDocument :
    scan rootDirectoryDocument.text =
      [.inclusion ⟨.onLine 0 0 16, .onLine 0 10 16, "a.http"⟩] := by
  decide +kernel

/-- From there a walk can go one step. -/
theorem walk_from_rootDirectoryDocument {rest : List FilePath}
    (h : IncludeWalk relativeFiles (.ofString "/") (some rootDirectoryDocument.text) rest) :
    rest = [] ∨ rest = [.ofString "a.http"] := by
  have hresolve : (FilePath.ofString "/").resolve "a.http" = .ofString "a.http" := by
    decide
  have hget : relativeFiles.get? (.ofString "a.http") = some "@a = 1\n" := by decide
  have hscan : scan "@a = 1\n" = [.variable ⟨.onLine 0 0 6, "a", "1"⟩] := by decide +kernel
  cases h with
  | stay => exact .inl rfl
  | step hd hrest =>
      rw [scan_rootDirectoryDocument, List.mem_singleton] at hd
      obtain rfl := Directive.inclusion.inj hd
      simp only [hresolve, hget] at hrest ⊢
      cases hrest with
      | stay => exact .inr rfl
      | step hd' _ =>
          rw [hscan, List.mem_singleton] at hd'
          cases hd'

/-- Every walk from there comes to different files with a text, and still the document cannot be
expanded: a relative path has no URL. -/
theorem not_expand_of_relative_target :
    rootDirectoryDocument.filePath? = some (.ofString "/") ∧
    ¬ ((∃ tree, expand relativeFiles.load 32 rootDirectoryDocument = .ok tree) ↔
      ∀ rest, IncludeWalk relativeFiles (.ofString "/") (some rootDirectoryDocument.text) rest →
        Distinct (.ofString "/" :: rest) ∧ rest.length ≤ 32 ∧
          ∀ p ∈ rest, (relativeFiles.get? p).isSome = true) := by
  refine ⟨filePath?_rootDirectoryDocument, ?_⟩
  intro hclaim
  have hwalks : ∃ tree, expand relativeFiles.load 32 rootDirectoryDocument = .ok tree := by
    refine hclaim.mpr ?_
    intro rest hwalk
    rcases walk_from_rootDirectoryDocument hwalk with rfl | rfl
    · simp [Distinct]
    · have hdifferent : (FilePath.ofString "/").same (.ofString "a.http") = false := by
        decide
      have hheld : (relativeFiles.get? (.ofString "a.http")).isSome = true := by decide
      simp [Distinct, hdifferent, hheld]
  obtain ⟨tree, hok⟩ := hwalks
  rw [expand_rootDirectoryDocument] at hok
  cases hok

end HttpScript.Script
