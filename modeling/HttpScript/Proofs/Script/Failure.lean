/-
Module: HttpScript.Proofs.Script.Failure
Purpose: Why an expansion fails.  Each failure is explained by a walk along includes whose last step
  cannot be taken, and the walk is the first such one in the order of the texts: an include that
  stands before the one the walk takes has nothing but passable walks behind it.
Main exports: FirstWalk, Explains, Reached.explains_or_descend, Reached.explains,
  expand_error_genuine
-/
import HttpScript.Proofs.Script.IncludedDocument
import HttpScript.Proofs.Script.IncludeWalk

namespace HttpScript.Script

/-! ### First failing walks -/

/-- A walk that at each document goes through the first include which does not only lead to passable
walks.  `visited` are the documents up to `path`. -/
inductive FirstWalk (files : MemoryFiles) (maxDepth : Nat) :
    List FilePath → FilePath → Option String → List FilePath → Prop where
  | stay (visited : List FilePath) (path : FilePath) (text : Option String) :
      FirstWalk files maxDepth visited path text []
  | step {visited : List FilePath} {path : FilePath} {text : String} {d : IncludeDirective}
      {before after : List Directive} {rest : List FilePath}
      (hscan : scan text = before ++ Directive.inclusion d :: after)
      (hbefore : ∀ d' ahead, Directive.inclusion d' ∈ before →
        IncludeWalk files (path.resolve d'.path) (files.get? (path.resolve d'.path)) ahead →
        Passable files maxDepth visited (path.resolve d'.path :: ahead))
      (hrest : FirstWalk files maxDepth (visited ++ [path.resolve d.path]) (path.resolve d.path)
        (files.get? (path.resolve d.path)) rest) :
      FirstWalk files maxDepth visited path (some text) (path.resolve d.path :: rest)

/-- What a failure says of the walk it ends: the documents `visited` are being expanded, and the
last of them includes `target`. -/
def Explains (files : MemoryFiles) (maxDepth : Nat) (root : TextDocument)
    (visited : List FilePath) (target : FilePath) : DocumentError → Prop
  | .includeCycle chain =>
    SamePaths chain (visited ++ [target]) ∧ (∃ p ∈ visited, p.same target = true) ∧
      visited.length ≤ maxDepth + 1
  | .includeDepthExceeded path limit =>
    path = target ∧ limit = maxDepth ∧ (∀ p ∈ visited, p.same target = false) ∧
      visited.length = maxDepth + 1
  | .load path includedFrom cause =>
    path = target ∧ files.get? target = none ∧ cause = .notFound target ∧
      urlOfLast root visited = some includedFrom ∧ (∀ p ∈ visited, p.same target = false) ∧
      visited.length ≤ maxDepth
  | .notAFile uri =>
    (∃ p, visited.getLast? = some p ∧ p.components = []) ∧ target.isAbsolute = false ∧
      (files.get? target).isSome = true ∧ urlOfLast root visited = some uri ∧
      visited.length ≤ maxDepth

variable {files : MemoryFiles} {maxDepth remaining : Nat} {resolving visited : List FilePath}
  {path : FilePath} {document root : TextDocument}

theorem FirstWalk.walk {text : Option String} {ahead : List FilePath}
    (h : FirstWalk files maxDepth visited path text ahead) : IncludeWalk files path text ahead := by
  induction h with
  | stay _ path text => exact .stay path text
  | step hscan _ _ ih => exact .step (by simp [hscan]) ih

/-- A relative path is included from the root directory only. -/
theorem Reached.components_eq_nil {base : FilePath} {target : String}
    (h : Reached maxDepth root visited path resolving remaining document)
    (hbase : document.filePath? = some base)
    (hrelative : (base.resolve target).isAbsolute = false) : path.components = [] := by
  obtain ⟨base', hbase', hplace⟩ := h.file
  obtain rfl : base = base' := Option.some.inj (hbase.symm.trans hbase')
  rw [← FilePath.components_eq_of_place_eq hplace]
  cases habsolute : base.isAbsolute with
  | false => exact Url.components_eq_nil_of_toFilePath? hbase habsolute
  | true =>
      cases hcomponents : base.components with
      | nil => rfl
      | cons c rest =>
          have hne : base.components ≠ [] := by simp [hcomponents]
          rw [FilePath.isAbsolute_resolve habsolute hne target] at hrelative
          cases hrelative

/-- An include that fails ends the walk with an explanation, or leads to a document that fails. -/
theorem Reached.explains_or_descend {e : DocumentError} {d : IncludeDirective}
    (h : Reached maxDepth root visited path resolving remaining document)
    (hd : includeWithin files.load maxDepth remaining (resolving ++ document.filePath?.toList)
      document d = .error e) :
    Explains files maxDepth root visited (path.resolve d.path) e ∨
      ∃ below text uri, below < remaining ∧ files.get? (path.resolve d.path) = some text ∧
        Reached maxDepth root (visited ++ [path.resolve d.path]) (path.resolve d.path)
          (resolving ++ document.filePath?.toList) below ⟨uri, text⟩ ∧
        expandWithin files.load maxDepth below (resolving ++ document.filePath?.toList)
          ⟨uri, text⟩ = .error e := by
  have hroom := h.room
  have houtcome := includeWithin_outcome files.load maxDepth remaining
    (resolving ++ document.filePath?.toList) document d
  rw [hd] at houtcome
  generalize hr : (Except.error e : Except DocumentError (FilePath × DocumentTree)) = r
    at houtcome
  cases houtcome with
  | noFile hnone =>
      obtain ⟨base, hbase, -⟩ := h.file
      exact absurd (hnone.symm.trans hbase) (by simp)
  | cycle hbase hmem =>
      obtain rfl := Except.error.inj hr
      rw [h.resolve_eq hbase] at hmem ⊢
      refine .inl ⟨?_, ?_, by omega⟩
      · have hstack := h.stack
        simp only [SamePaths, List.map_append] at hstack ⊢
        rw [hstack]
      · refine Decidable.byContradiction fun hnone => ?_
        have hfresh : ∀ p ∈ visited, p.same (path.resolve d.path) = false := by
          intro p hp
          cases hsame : p.same (path.resolve d.path) with
          | false => rfl
          | true => exact absurd ⟨p, hp, hsame⟩ hnone
        obtain ⟨p, hp, hsame⟩ := hmem
        rw [(h.fresh_iff _).mpr hfresh p hp] at hsame
        cases hsame
  | tooDeep hbase hfresh hzero =>
      obtain rfl := Except.error.inj hr
      rw [h.resolve_eq hbase] at hfresh ⊢
      exact .inl ⟨rfl, rfl, (h.fresh_iff _).mp hfresh, by omega⟩
  | notLoaded hbase hfresh hsucc hload =>
      obtain rfl := Except.error.inj hr
      rw [h.resolve_eq hbase] at hfresh hload ⊢
      obtain ⟨hget, hcause⟩ := MemoryFiles.load_eq_error_iff.mp hload
      exact .inl ⟨rfl, hget, hcause, h.url, (h.fresh_iff _).mp hfresh, by omega⟩
  | noUrl hbase hfresh hsucc hload huri =>
      obtain rfl := Except.error.inj hr
      have hrelative := Url.ofFilePath?_eq_none_iff.mp huri
      have hroot := h.components_eq_nil hbase hrelative
      rw [h.resolve_eq hbase] at hload hrelative
      have hget := MemoryFiles.load_eq_ok_iff.mp hload
      exact .inl ⟨⟨path, h.last, hroot⟩, hrelative, by rw [hget]; rfl, h.url, by omega⟩
  | @descend _ below text uri hbase hfresh hsucc hload huri =>
      have hreached := h.descend text hfresh hsucc huri
      rw [h.resolve_eq hbase] at hload hreached
      refine .inr ⟨below, text, uri, by omega, MemoryFiles.load_eq_ok_iff.mp hload, hreached, ?_⟩
      cases hexpand : expandWithin files.load maxDepth below
          (resolving ++ document.filePath?.toList) ⟨uri, text⟩ with
      | error e' =>
          rw [hexpand] at hr
          exact congrArg Except.error (Except.error.inj hr).symm
      | ok tree =>
          rw [hexpand] at hr
          cases hr

/-- A failure is explained by the first walk that cannot go on. -/
theorem Reached.explains {e : DocumentError}
    (h : Reached maxDepth root visited path resolving remaining document)
    (hexpand : expandWithin files.load maxDepth remaining resolving document = .error e) :
    ∃ ahead target,
      FirstWalk files maxDepth visited path (some document.text) (ahead ++ [target]) ∧
        Distinct (visited ++ ahead) ∧
        Explains files maxDepth root (visited ++ ahead) target e := by
  -- By induction on the room left below: an included document has less of it.
  induction remaining using Nat.strongRecOn generalizing visited path resolving document with
  | ind remaining ih =>
      obtain ⟨before, d, after, hscan, hd, hok⟩ :=
        firstFailure_of_nodesOf (expandWithin_eq_error_iff.mp hexpand)
      have hbefore : ∀ d' ahead, Directive.inclusion d' ∈ before →
          IncludeWalk files (path.resolve d'.path) (files.get? (path.resolve d'.path)) ahead →
          Passable files maxDepth visited (path.resolve d'.path :: ahead) := by
        intro d' ahead hd' hwalk
        obtain ⟨r, hr⟩ := hok d' hd'
        exact h.passable_cons hr hwalk
      rcases h.explains_or_descend hd with hexplains |
        ⟨below, text, uri, hlt, hget, hreached, hbelow⟩
      -- The include itself cannot be taken: the walk to it has no step.
      · refine ⟨[], path.resolve d.path, .step hscan hbefore (.stay _ _ _), ?_, ?_⟩
        · simpa using h.distinct
        · simpa using hexplains
      -- The failure lies below, and the walk to it goes through the included document.
      · obtain ⟨ahead, target, hwalk, hdistinct, hexplains⟩ := ih below hlt hreached hbelow
        rw [List.append_assoc, List.singleton_append] at hdistinct hexplains
        rw [← hget] at hwalk
        exact ⟨path.resolve d.path :: ahead, target, .step hscan hbefore hwalk, hdistinct,
          hexplains⟩

/-! ### Documents that cannot be expanded -/

/-- Two files that include each other, and one that includes nothing. -/
def innerCycle : MemoryFiles :=
  .ofList [
    (.ofString "/work/b.http", "@b = 1\n"),
    (.ofString "/work/c.http", "@@include b.http\n@@include d.http\n"),
    (.ofString "/work/d.http", "@@include c.http\n")]

def innerCycleRoot : TextDocument :=
  ⟨workUrl "a.http", "@@include b.http\n@@include c.http\n"⟩

def innerCycleChain : List FilePath :=
  [.ofString "/work/a.http", .ofString "/work/c.http", .ofString "/work/d.http",
    .ofString "/work/c.http"]

/-- The cycle does not pass through the document that is expanded. -/
theorem expand_innerCycle :
    expand innerCycle.load 2 innerCycleRoot = .error (.includeCycle innerCycleChain) := by
  decide +kernel

/-- A text at the root directory, which lies in no directory: what it includes is relative. -/
def rootDirectoryDocument : TextDocument :=
  ⟨⟨"file", some ⟨"", "", none⟩, .segments [""], none, none⟩, "@@include a.http\n"⟩

def relativeFiles : MemoryFiles :=
  .ofList [(.ofString "a.http", "@a = 1\n")]

theorem filePath?_rootDirectoryDocument :
    rootDirectoryDocument.filePath? = some (.ofString "/") := by
  decide

/-- The file is there, but a relative path has no URL. -/
theorem expand_rootDirectoryDocument :
    expand relativeFiles.load 32 rootDirectoryDocument =
      .error (.notAFile rootDirectoryDocument.uri) := by
  decide +kernel

/-! ### Failures of a document -/

/-- A failure is genuine.  A document that is no file includes something, and any other is the start
of a walk without repetition that the failure explains, the first one that cannot go on. -/
theorem expand_error_genuine (files : MemoryFiles) (maxDepth : Nat) (document : TextDocument)
    (e : DocumentError) (h : expand files.load maxDepth document = .error e) :
    (document.filePath? = none ∧ e = .notAFile document.uri ∧
      ∃ before d after, scan document.text = before ++ Directive.inclusion d :: after ∧
        ∀ d', Directive.inclusion d' ∉ before) ∨
    ∃ start ahead target, document.filePath? = some start ∧
      FirstWalk files maxDepth [start] start (some document.text) (ahead ++ [target]) ∧
      Distinct (start :: ahead) ∧
      Explains files maxDepth document (start :: ahead) target e := by
  cases hfile : document.filePath? with
  | some start =>
      obtain ⟨ahead, target, hwalk, hdistinct, hexplains⟩ := (Reached.start hfile maxDepth).explains h
      exact .inr ⟨start, ahead, target, rfl, hwalk, hdistinct, hexplains⟩
  | none =>
      obtain ⟨before, d, after, hscan, hd, hok⟩ :=
        firstFailure_of_nodesOf (expandWithin_eq_error_iff.mp h)
      simp only [includeWithin_of_filePath?_none hfile] at hd hok
      refine .inl ⟨rfl, (Except.error.inj hd).symm, before, d, after, hscan, ?_⟩
      intro d' hd'
      obtain ⟨r, hr⟩ := hok d' hd'
      cases hr

theorem expand_error_genuine_innerCycle :
    expand innerCycle.load 2 innerCycleRoot = .error (.includeCycle innerCycleChain) ∧
    ((innerCycleRoot.filePath? = none ∧
      DocumentError.includeCycle innerCycleChain = .notAFile innerCycleRoot.uri ∧
      ∃ before d after, scan innerCycleRoot.text = before ++ Directive.inclusion d :: after ∧
        ∀ d', Directive.inclusion d' ∉ before) ∨
    ∃ start ahead target, innerCycleRoot.filePath? = some start ∧
      FirstWalk innerCycle 2 [start] start (some innerCycleRoot.text) (ahead ++ [target]) ∧
      Distinct (start :: ahead) ∧
      Explains innerCycle 2 innerCycleRoot (start :: ahead) target
        (.includeCycle innerCycleChain)) :=
  ⟨expand_innerCycle, expand_error_genuine innerCycle 2 innerCycleRoot _ expand_innerCycle⟩

/-- Not only a document that is no file is refused as one: the root directory is a file, but what it
includes may have no URL. -/
theorem exists_notAFile_of_file :
    ¬ ∀ (files : MemoryFiles) (maxDepth : Nat) (document : TextDocument) (uri : Url),
      expand files.load maxDepth document = .error (.notAFile uri) →
        document.filePath? = none ∧ ∃ d, Directive.inclusion d ∈ scan document.text := by
  intro hclaim
  obtain ⟨hnone, -⟩ := hclaim _ _ _ _ expand_rootDirectoryDocument
  rw [filePath?_rootDirectoryDocument] at hnone
  cases hnone

end HttpScript.Script
