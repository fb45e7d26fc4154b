/-
Module: HttpScript.Proofs.Script.IncludeWalk
Purpose: Walks along the includes of texts in memory.  A walk knows nothing of expansion: it goes
  from a text to any path that the text includes, and on if there is a text.  Wherever a document
  has been expanded, every walk from it is passable: it comes to no document twice, it is no longer
  than the limit, and each path it comes to is absolute and has a text.
Main exports: IncludeWalk, Distinct, Passable, Reached, Reached.passable
-/
import HttpScript.Proofs.Script.Unfolding

namespace HttpScript.Script

/-! ### Walks -/

/-- A walk along includes, by the paths it comes to.  It starts at `path`, which has a text or not.
-/
inductive IncludeWalk (files : MemoryFiles) : FilePath → Option String → List FilePath → Prop where
  | stay (path : FilePath) (text : Option String) : IncludeWalk files path text []
  | step {path : FilePath} {text : String} {d : IncludeDirective} {rest : List FilePath}
      (hd : Directive.inclusion d ∈ scan text)
      (hrest : IncludeWalk files (path.resolve d.path) (files.get? (path.resolve d.path)) rest) :
      IncludeWalk files path (some text) (path.resolve d.path :: rest)

/-- Paths that lead to different files. -/
def Distinct (paths : List FilePath) : Prop :=
  paths.Pairwise (fun p q => p.same q = false)

/-- The same files in the same order, perhaps spelled differently. -/
def SamePaths (paths paths' : List FilePath) : Prop :=
  paths.map FilePath.place = paths'.map FilePath.place

/-- What expansion demands of a walk that goes on from the documents `visited` to `ahead`. -/
structure Passable (files : MemoryFiles) (maxDepth : Nat) (visited ahead : List FilePath) :
    Prop where
  distinct : Distinct (visited ++ ahead)
  short : (visited ++ ahead).length ≤ maxDepth + 1
  held : ∀ p ∈ ahead, (files.get? p).isSome = true
  absolute : ∀ p ∈ ahead, p.isAbsolute = true

variable {files : MemoryFiles} {maxDepth remaining : Nat} {resolving visited : List FilePath}
  {path : FilePath} {document root : TextDocument}

theorem distinct_append_singleton_iff {paths : List FilePath} {q : FilePath} :
    Distinct (paths ++ [q]) ↔ Distinct paths ∧ ∀ p ∈ paths, p.same q = false := by
  simp [Distinct, List.pairwise_append]

theorem distinct_iff_nodup {paths : List FilePath} :
    Distinct paths ↔ (paths.map FilePath.place).Nodup := by
  simp only [Distinct, List.Nodup, List.pairwise_map, FilePath.same_eq_false_iff]

/-! ### The state of an expansion -/

/-- The URL of the last document on a walk that starts at `root`. -/
def urlOfLast (root : TextDocument) : List FilePath → Option Url
  | [] => none
  | [_] => some root.uri
  | _ :: ahead => ahead.getLast?.bind Url.ofFilePath?

theorem urlOfLast_append_singleton {q : FilePath} (h : visited ≠ []) :
    urlOfLast root (visited ++ [q]) = Url.ofFilePath? q := by
  cases visited with
  | nil => exact absurd rfl h
  | cons p rest =>
      cases rest with
      | nil => simp [urlOfLast]
      | cons r rest =>
          have hlast : (r :: rest ++ [q]).getLast? = some q := List.getLast?_concat
          exact congrArg (·.bind Url.ofFilePath?) hlast

/-- The invariant of expansion.  The documents being expanded are those of a walk without
repetition that ends at the document in hand, and the room that is left below it is what the walk
has not used of the limit. -/
structure Reached (maxDepth : Nat) (root : TextDocument) (visited : List FilePath)
    (path : FilePath) (resolving : List FilePath) (remaining : Nat) (document : TextDocument) :
    Prop where
  file : ∃ base, document.filePath? = some base ∧ base.place = path.place
  stack : SamePaths (resolving ++ document.filePath?.toList) visited
  last : visited.getLast? = some path
  distinct : Distinct visited
  room : visited.length + remaining = maxDepth + 1
  url : urlOfLast root visited = some document.uri

theorem Reached.start {start : FilePath} (h : root.filePath? = some start) (maxDepth : Nat) :
    Reached maxDepth root [start] start [] maxDepth root where
  file := ⟨start, h, rfl⟩
  stack := by simp [SamePaths, h]
  last := rfl
  distinct := List.pairwise_singleton _ _
  room := by simp [Nat.add_comm]
  url := rfl

/-- What a document includes is decided by where the walk stands. -/
theorem Reached.resolve_eq {base : FilePath}
    (h : Reached maxDepth root visited path resolving remaining document)
    (hbase : document.filePath? = some base) (target : String) :
    base.resolve target = path.resolve target := by
  obtain ⟨base', hbase', hplace⟩ := h.file
  obtain rfl : base = base' := Option.some.inj (hbase.symm.trans hbase')
  exact FilePath.resolve_congr hplace target

theorem Reached.ne_nil (h : Reached maxDepth root visited path resolving remaining document) :
    visited ≠ [] := by
  rintro rfl
  cases h.last

/-- What stands on the stack stands on the walk. -/
theorem Reached.fresh_iff (h : Reached maxDepth root visited path resolving remaining document)
    (target : FilePath) :
    (∀ p ∈ resolving ++ document.filePath?.toList, p.same target = false) ↔
      ∀ p ∈ visited, p.same target = false := by
  have hall : ∀ paths : List FilePath, (∀ p ∈ paths, p.same target = false) ↔
      ∀ place ∈ paths.map FilePath.place, place ≠ target.place := by
    intro paths
    simp [FilePath.same_eq_false_iff]
  rw [hall, hall, h.stack]

/-- Going on to an included document keeps the invariant. -/
theorem Reached.descend {base : FilePath} {d : IncludeDirective} {below : Nat} {uri : Url}
    (text : String)
    (h : Reached maxDepth root visited path resolving remaining document)
    (hfresh : ∀ p ∈ resolving ++ document.filePath?.toList,
      p.same (base.resolve d.path) = false)
    (hsucc : remaining = below + 1) (huri : Url.ofFilePath? (base.resolve d.path) = some uri) :
    Reached maxDepth root (visited ++ [base.resolve d.path]) (base.resolve d.path)
      (resolving ++ document.filePath?.toList) below ⟨uri, text⟩ := by
  obtain ⟨q, hq, hplace⟩ := filePath?_of_ofFilePath? text huri
  refine ⟨⟨q, hq, hplace⟩, ?_, ?_, ?_, ?_, ?_⟩
  · have hstack := h.stack
    simp only [SamePaths] at hstack ⊢
    rw [hq, List.map_append, hstack]
    simp [hplace]
  · simp
  · exact distinct_append_singleton_iff.mpr ⟨h.distinct, (h.fresh_iff _).mp hfresh⟩
  · have hroom := h.room
    rw [List.length_append, List.length_singleton]
    omega
  · rw [urlOfLast_append_singleton h.ne_nil, huri]

/-! ### Walks from an expanded document -/

theorem Passable.cons {q : FilePath} {ahead : List FilePath}
    (h : Passable files maxDepth (visited ++ [q]) ahead) (hheld : (files.get? q).isSome = true)
    (habsolute : q.isAbsolute = true) : Passable files maxDepth visited (q :: ahead) where
  distinct := by simpa using h.distinct
  short := by simpa using h.short
  held := List.forall_mem_cons.mpr ⟨hheld, h.held⟩
  absolute := List.forall_mem_cons.mpr ⟨habsolute, h.absolute⟩

theorem Reached.passable_nil
    (h : Reached maxDepth root visited path resolving remaining document) :
    Passable files maxDepth visited [] where
  distinct := by simpa using h.distinct
  short := by
    have hroom := h.room
    rw [List.append_nil]
    omega
  held := by simp
  absolute := by simp

/-- An include that does not fail goes on to a document that is expanded. -/
theorem Reached.of_includeWithin {d : IncludeDirective} {r : FilePath × DocumentTree}
    (h : Reached maxDepth root visited path resolving remaining document)
    (hd : includeWithin files.load maxDepth remaining (resolving ++ document.filePath?.toList)
      document d = .ok r) :
    ∃ below text uri, files.get? (path.resolve d.path) = some text ∧
      (path.resolve d.path).isAbsolute = true ∧
      Reached maxDepth root (visited ++ [path.resolve d.path]) (path.resolve d.path)
        (resolving ++ document.filePath?.toList) below ⟨uri, text⟩ ∧
      expandWithin files.load maxDepth below (resolving ++ document.filePath?.toList)
        ⟨uri, text⟩ = .ok r.2 := by
  obtain ⟨base, below, text, uri, hbase, hpath, hfresh, hsucc, hload, huri, hexpand⟩ :=
    includeWithin_eq_ok_iff.mp hd
  rw [hpath] at hfresh hload huri
  have hreached := h.descend text hfresh hsucc huri
  rw [h.resolve_eq hbase d.path] at hload huri hreached
  exact ⟨below, text, uri, MemoryFiles.load_eq_ok_iff.mp hload, Url.isAbsolute_of_ofFilePath? huri,
    hreached, hexpand⟩

/-- From a document that is expanded every walk is passable. -/
theorem Reached.passable {text : Option String} {ahead : List FilePath} {tree : DocumentTree}
    (hwalk : IncludeWalk files path text ahead)
    (h : Reached maxDepth root visited path resolving remaining document)
    (htext : text = some document.text)
    (hexpand : expandWithin files.load maxDepth remaining resolving document = .ok tree) :
    Passable files maxDepth visited ahead := by
  induction hwalk generalizing visited resolving remaining document tree with
  | stay => exact h.passable_nil
  | @step path text d rest hd _ ih =>
      obtain rfl := Option.some.inj htext
      obtain ⟨-, hnodes⟩ := expandWithin_eq_ok_iff_nodesOf.mp hexpand
      obtain ⟨r, hr⟩ := exists_ok_of_mem hnodes hd
      obtain ⟨below, text, uri, hget, habsolute, hreached, hexpand'⟩ := h.of_includeWithin hr
      exact (ih hreached hget hexpand').cons (by rw [hget]; rfl) habsolute

/-- Through an include that does not fail every walk is passable. -/
theorem Reached.passable_cons {d : IncludeDirective} {r : FilePath × DocumentTree}
    {ahead : List FilePath}
    (h : Reached maxDepth root visited path resolving remaining document)
    (hd : includeWithin files.load maxDepth remaining (resolving ++ document.filePath?.toList)
      document d = .ok r)
    (hwalk : IncludeWalk files (path.resolve d.path) (files.get? (path.resolve d.path)) ahead) :
    Passable files maxDepth visited (path.resolve d.path :: ahead) := by
  obtain ⟨below, text, uri, hget, habsolute, hreached, hexpand⟩ := h.of_includeWithin hd
  exact (hreached.passable hwalk hget hexpand).cons (by rw [hget]; rfl) habsolute

end HttpScript.Script
