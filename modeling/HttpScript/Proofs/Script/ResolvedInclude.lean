/-
Module: HttpScript.Proofs.Script.ResolvedInclude
Purpose: The path of an include is the path of the included document.  A resolved path is normal, and
  the document that is built for it has a file of the same components; so what an expansion puts on its
  stack counts in every check for a cycle as the path that was checked before.  Over a whole expansion
  the stack holds the places of all paths checked so far, and a path comes round again exactly if it was
  checked before in the same spelling, or is the document that the expansion started from.
Main exports: StandsFor, Expanding, Expanding.stack, Expanding.normal, Expanding.any_same_iff,
  expand_includeCycle_returns, resolve_stable, not_resolve_stable
-/
import HttpScript.Proofs.FilePath.Normal
import HttpScript.Proofs.Script.IncludeWalk

namespace HttpScript.Script

/-! ### The document built for a path -/

/-- A document stands for a path if its file has the components of the path, and is found on a stack
wherever the path would be. -/
structure StandsFor (document : TextDocument) (path : FilePath) : Prop where
  file : ∃ pushed, document.filePath? = some pushed ∧ pushed.isAbsolute = path.isAbsolute ∧
    pushed.components = path.components
  checked : ∀ (resolving : List FilePath) (next : FilePath),
    (resolving ++ document.filePath?.toList).any (·.same next) =
      (resolving ++ [path]).any (·.same next)

theorem standsFor_of_place_eq {document : TextDocument} {pushed path : FilePath}
    (hfile : document.filePath? = some pushed) (hplace : pushed.place = path.place) :
    StandsFor document path where
  file := ⟨pushed, hfile, FilePath.isAbsolute_eq_of_place_eq hplace,
    FilePath.components_eq_of_place_eq hplace⟩
  checked := by
    intro resolving next
    have hsame : pushed.same next = path.same next := by
      rw [Bool.eq_iff_iff, FilePath.same_iff, FilePath.same_iff, hplace]
    simp only [hfile, Option.toList_some, List.any_append, List.any_cons, List.any_nil, hsame]

theorem exists_ofPath? {path : FilePath} (h : path.isAbsolute = true) (text : String) :
    ∃ uri, Url.ofFilePath? path = some uri ∧
      TextDocument.ofPath? path text = some ⟨uri, text⟩ ∧ StandsFor ⟨uri, text⟩ path := by
  have huri := Url.ofFilePath?_of_isAbsolute h
  obtain ⟨pushed, hfile, hplace⟩ := filePath?_of_ofFilePath? text huri
  refine ⟨_, huri, ?_, standsFor_of_place_eq hfile hplace⟩
  rw [TextDocument.ofPath?, huri]
  rfl

/-! ### Expansions on their way -/

variable {load : Loader} {maxDepth remaining : Nat} {root document : TextDocument}
  {start : FilePath} {above checked : List FilePath}

/-- While `root`, the file `start`, is expanded, `document` comes to be expanded with the files `above`
on the stack.  On the way the checks for a cycle let the paths `checked` pass. -/
inductive Expanding (load : Loader) (maxDepth : Nat) (root : TextDocument) (start : FilePath) :
    List FilePath → Nat → TextDocument → List FilePath → Prop where
  | start (hstart : root.filePath? = some start) :
      Expanding load maxDepth root start [] maxDepth root []
  /-- The one step in which an include is expanded, `IncludeOutcome.descend`. -/
  | descend {above checked : List FilePath} {below : Nat} {document : TextDocument}
      {base : FilePath} {d : IncludeDirective} {text : String} {uri : Url}
      (hdocument : Expanding load maxDepth root start above (below + 1) document checked)
      (hd : Directive.inclusion d ∈ scan document.text)
      (hbase : document.filePath? = some base)
      (hfresh : ∀ p ∈ above ++ document.filePath?.toList, p.same (base.resolve d.path) = false)
      (hload : load (base.resolve d.path) = .ok text)
      (huri : Url.ofFilePath? (base.resolve d.path) = some uri) :
      Expanding load maxDepth root start (above ++ document.filePath?.toList) below ⟨uri, text⟩
        (checked ++ [base.resolve d.path])

/-- The paths checked are those of a walk along includes. -/
theorem Expanding.reached (h : Expanding load maxDepth root start above remaining document checked) :
    ∃ path, Reached maxDepth root (start :: checked) path above remaining document := by
  induction h with
  | start hstart => exact ⟨start, Reached.start hstart maxDepth⟩
  | descend _ _ _ hfresh _ huri ih =>
      obtain ⟨path, hreached⟩ := ih
      exact ⟨_, hreached.descend _ hfresh rfl huri⟩

/-- The stack holds the paths that were checked, but perhaps for their spelling. -/
theorem Expanding.stack (h : Expanding load maxDepth root start above remaining document checked) :
    SamePaths (above ++ document.filePath?.toList) (start :: checked) ∧
      Distinct (start :: checked) := by
  obtain ⟨path, hreached⟩ := h.reached
  exact ⟨hreached.stack, hreached.distinct⟩

theorem Expanding.isAbsolute
    (h : Expanding load maxDepth root start above remaining document checked)
    (hstart : start.isAbsolute = true) {base : FilePath} (hbase : document.filePath? = some base) :
    base.isAbsolute = true := by
  cases h with
  | start hroot =>
      obtain rfl : start = base := Option.some.inj (hroot.symm.trans hbase)
      exact hstart
  | descend _ _ _ _ _ huri =>
      obtain ⟨pushed, hfile, hplace⟩ := Url.toFilePath?_ofFilePath? huri
      obtain rfl : pushed = base := Option.some.inj (hfile.symm.trans hbase)
      rw [FilePath.isAbsolute_eq_of_place_eq hplace]
      exact Url.isAbsolute_of_ofFilePath? huri

/-- Every path that was checked is absolute and normal. -/
theorem Expanding.normal
    (h : Expanding load maxDepth root start above remaining document checked)
    (hstart : start.isAbsolute = true) :
    ∀ r ∈ checked, r.isAbsolute = true ∧ r.normalize = r := by
  induction h with
  | start => exact fun r hr => absurd hr List.not_mem_nil
  | descend hdocument _ hbase _ _ huri ih =>
      intro r hr
      rcases List.mem_append.mp hr with hr | hr
      · exact ih r hr
      · obtain rfl := List.mem_singleton.mp hr
        have habsolute := hdocument.isAbsolute hstart hbase
        exact ⟨Url.isAbsolute_of_ofFilePath? huri, FilePath.normalize_resolve habsolute _⟩

/-- A check for a cycle is the same with the stack as with the paths that were checked. -/
theorem Expanding.any_same_eq
    (h : Expanding load maxDepth root start above remaining document checked) (next : FilePath) :
    (above ++ document.filePath?.toList).any (·.same next) =
      (start :: checked).any (·.same next) := by
  obtain ⟨path, hreached⟩ := h.reached
  rw [Bool.eq_iff_iff, ← not_iff_not, Bool.not_eq_true, Bool.not_eq_true, any_same_eq_false_iff,
    any_same_eq_false_iff]
  exact hreached.fresh_iff next

/-- An include is refused for a cycle exactly if it leads back to the start, or to a path that was
checked before; and then it is spelled like this path. -/
theorem Expanding.any_same_iff
    (h : Expanding load maxDepth root start above remaining document checked)
    (hstart : start.isAbsolute = true) {base : FilePath} (hbase : document.filePath? = some base)
    (target : String) :
    (above ++ document.filePath?.toList).any (·.same (base.resolve target)) = true ↔
      start.same (base.resolve target) = true ∨ base.resolve target ∈ checked := by
  have hnormal := FilePath.normalize_resolve (h.isAbsolute hstart hbase) target
  have hspelled : ∀ r ∈ checked,
      (r.same (base.resolve target) = true ↔ r = base.resolve target) :=
    fun r hr => FilePath.same_iff_eq_of_normal (h.normal hstart r hr).2 hnormal
  rw [h.any_same_eq, List.any_cons, Bool.or_eq_true, List.any_eq_true]
  constructor
  · rintro (hsame | ⟨r, hr, hsame⟩)
    · exact .inl hsame
    · exact .inr ((hspelled r hr).mp hsame ▸ hr)
  · rintro (hsame | hmem)
    · exact .inl hsame
    · exact .inr ⟨_, hmem, (hspelled _ hmem).mpr rfl⟩

/-- An expansion that fails for a cycle fails at the first path that comes round: the paths before it
are of different files, and it is one of them in the same spelling, or is the start. -/
theorem Expanding.includeCycle_returns {chain : List FilePath}
    (h : Expanding load maxDepth root start above remaining document checked)
    (hstart : start.isAbsolute = true)
    (hcycle : expandWithin load maxDepth remaining above document =
      .error (.includeCycle chain)) :
    ∃ before target, SamePaths chain (start :: before ++ [target]) ∧ Distinct (start :: before) ∧
      (start.same target = true ∨ target ∈ before) := by
  -- By induction on the room left below: an included document has less of it.
  induction remaining using Nat.strongRecOn generalizing above document checked with
  | ind remaining ih =>
      obtain ⟨before, d, after, hscan, hd, -⟩ :=
        firstFailure_of_nodesOf (expandWithin_eq_error_iff.mp hcycle)
      have hmem : Directive.inclusion d ∈ scan document.text := by simp [hscan]
      have houtcome := includeWithin_outcome load maxDepth remaining
        (above ++ document.filePath?.toList) document d
      rw [hd] at houtcome
      generalize hr : (Except.error (.includeCycle chain) :
        Except DocumentError (FilePath × DocumentTree)) = r at houtcome
      cases houtcome with
      | noFile | tooDeep | notLoaded | noUrl => cases hr
      | @cycle base hbase hround =>
          obtain ⟨hstack, hdistinct⟩ := h.stack
          obtain rfl := DocumentError.includeCycle.inj (Except.error.inj hr)
          refine ⟨checked, base.resolve d.path, ?_, hdistinct, ?_⟩
          · simp only [SamePaths, List.map_append] at hstack ⊢
            rw [hstack]
          · exact (h.any_same_iff hstart hbase d.path).mp (List.any_eq_true.mpr hround)
      | @descend base below text uri hbase hfresh hsucc hload huri =>
          subst hsucc
          apply ih below (Nat.lt_succ_self below) (h.descend hmem hbase hfresh hload huri)
          cases hexpand : expandWithin load maxDepth below (above ++ document.filePath?.toList)
              ⟨uri, text⟩ with
          | error e =>
              rw [hexpand] at hr
              exact congrArg Except.error (Except.error.inj hr).symm
          | ok tree =>
              rw [hexpand] at hr
              cases hr

/-- No cycle is gone round once more under another spelling. -/
theorem expand_includeCycle_returns {chain : List FilePath}
    (hfile : root.filePath? = some start) (hstart : start.isAbsolute = true)
    (hcycle : expand load maxDepth root = .error (.includeCycle chain)) :
    ∃ before target, SamePaths chain (start :: before ++ [target]) ∧ Distinct (start :: before) ∧
      (start.same target = true ∨ target ∈ before) := by
  have hroot : Expanding load maxDepth root start [] maxDepth root [] := .start hfile
  exact hroot.includeCycle_returns hstart hcycle

/-! ### Resolved paths -/

/-- A resolved path is normal, and it is absolute unless a relative path is included from the root
directory.  If it is absolute, it is resolved to itself from everywhere, and the document that is
expanded for it stands for it. -/
theorem resolve_stable (document : FilePath) (target : String) (h : document.isAbsolute = true) :
    (document.resolve target).normalize = document.resolve target ∧
    ((document.resolve target).isAbsolute = true ↔
      (FilePath.ofString target).isAbsolute = true ∨ document.components ≠ []) ∧
    ((document.resolve target).isAbsolute = true →
      (∀ base : FilePath,
        (base.join (document.resolve target)).normalize = document.resolve target) ∧
      (∀ (other : FilePath) (again : String), FilePath.ofString again = document.resolve target →
        other.resolve again = document.resolve target) ∧
      ∀ text, ∃ included, TextDocument.ofPath? (document.resolve target) text = some included ∧
        StandsFor included (document.resolve target) ∧
        ∀ (load : Loader) (maxDepth below : Nat) (resolving : List FilePath)
          (including : TextDocument) (d : IncludeDirective),
          including.filePath? = some document → d.path = target →
          (∀ p ∈ resolving, p.same (document.resolve target) = false) →
          load (document.resolve target) = .ok text →
          includeWithin load maxDepth (below + 1) resolving including d =
            (expandWithin load maxDepth below resolving included).map
              (document.resolve target, ·)) := by
  have hnormal := FilePath.normalize_resolve h target
  refine ⟨hnormal, ?_, fun habsolute => ⟨?_, ?_, ?_⟩⟩
  · rw [FilePath.isAbsolute_resolve_eq, FilePath.fromRoot_iff h]
  · exact FilePath.normalize_join_eq habsolute hnormal
  · exact fun other again => FilePath.resolve_ofString_eq habsolute hnormal other
  · intro text
    obtain ⟨uri, huri, hincluded, hstands⟩ := exists_ofPath? habsolute text
    refine ⟨_, hincluded, hstands, ?_⟩
    rintro load maxDepth below resolving including d hbase rfl hfresh hload
    exact (IncludeOutcome.descend hbase hfresh rfl hload huri).eq

/-- A file above the root, named like a drive. -/
def driveFile : FilePath :=
  .ofString "/../c:"

def driveFiles : MemoryFiles :=
  .ofList [(driveFile, "@a = 1\n")]

/-- A document two directories below the root, whose include takes one step up too many. -/
def driveDocument : TextDocument :=
  ⟨⟨"file", some ⟨"", "", none⟩, .segments ["work", "api", "users.http"], none, none⟩,
    "@@include ../../../c:\n"⟩

/-- The step up that cannot be taken stays in the path, and the slash that the URL puts behind a drive
is not part of any component. -/
theorem resolve_stable_drive :
    FilePath.usersDocument.isAbsolute = true ∧
      FilePath.usersDocument.resolve "../../../c:" = driveFile ∧
      driveFile.isAbsolute = true ∧ driveFile.normalize = driveFile ∧
      (∀ other : FilePath, other.resolve "/../c:" = driveFile) ∧
      ∃ included, TextDocument.ofPath? driveFile "@a = 1\n" = some included ∧
        included.filePath? = some (.ofString "/../c:/") ∧ StandsFor included driveFile ∧
        ∀ d : IncludeDirective, d.path = "../../../c:" →
          includeWithin driveFiles.load 32 32 [FilePath.usersDocument] driveDocument d =
            (expandWithin driveFiles.load 32 31 [FilePath.usersDocument] included).map
              (driveFile, ·) := by
  have habsolute : FilePath.usersDocument.isAbsolute = true := by decide
  have hresolve : FilePath.usersDocument.resolve "../../../c:" = driveFile := by decide
  obtain ⟨hnormal, hiff, hrest⟩ := resolve_stable FilePath.usersDocument "../../../c:" habsolute
  rw [hresolve] at hnormal hiff hrest
  have hdrive : driveFile.isAbsolute = true := hiff.mpr (.inr (by decide))
  obtain ⟨-, hagain, hdocument⟩ := hrest hdrive
  obtain ⟨included, hincluded, hstands, hexpand⟩ := hdocument "@a = 1\n"
  refine ⟨habsolute, hresolve, hdrive, hnormal, fun other => hagain other _ rfl, included,
    hincluded, ?_, hstands, ?_⟩
  · have hfile : (TextDocument.ofPath? driveFile "@a = 1\n").bind TextDocument.filePath? =
        some (.ofString "/../c:/") := by decide
    rwa [hincluded] at hfile
  · intro d hd
    have hbase : driveDocument.filePath? = some FilePath.usersDocument := by decide
    have hload : driveFiles.load driveFile = .ok "@a = 1\n" := by decide
    exact hexpand _ _ _ _ _ d hbase hd (by decide) hload

/-- The root directory lies in no other.  What is included from there stays relative, leads somewhere
else from another document, and is the path of no document. -/
theorem not_resolve_stable :
    (FilePath.ofString "/").isAbsolute = true ∧
      ((FilePath.ofString "/").resolve "x.http").isAbsolute = false ∧
      (FilePath.ofString "/").resolve "x.http" = .ofString "x.http" ∧
      FilePath.usersDocument.resolve "x.http" ≠ (FilePath.ofString "/").resolve "x.http" ∧
      TextDocument.ofPath? ((FilePath.ofString "/").resolve "x.http") "" = none := by
  decide

end HttpScript.Script
