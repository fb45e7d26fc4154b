/-
Module: HttpScript.Proofs.Script.Unfolding
Purpose: What a document expands to, apart from where it is expanded.  `Unfolds` relates directives
  to their nodes without a stack and without a limit, and a document has at most one tree by it.
  The stack and the limit only decide whether the tree may be built, which is a property of the
  tree alone (`Nodes.Fits`).  Expansion computes exactly the trees that are both
  (`expandWithin_eq_ok_iff`), and a greater limit changes nothing but the failures of depth
  (`expandWithin_mono`).
Main exports: Unfolds, IsTreeOf, Unfolds.map_block_requests, Nodes.Fits, includeWithin,
  IncludeOutcome, expandWithin_eq, includeWithin_outcome, expandWithin_eq_ok_iff, expandWithin_mono
-/
import HttpScript.Proofs.Url.FileUrl
import HttpScript.Script.Expand

namespace HttpScript.Script

variable {load : Loader} {document : TextDocument}

theorem MemoryFiles.load_eq_ok_iff {files : MemoryFiles} {path : FilePath} {text : String} :
    files.load path = .ok text ↔ files.get? path = some text := by
  unfold MemoryFiles.load
  cases files.get? path with
  | none => simp
  | some t => simp

theorem MemoryFiles.load_eq_error_iff {files : MemoryFiles} {path : FilePath} {cause : LoadError} :
    files.load path = .error cause ↔ files.get? path = none ∧ cause = .notFound path := by
  unfold MemoryFiles.load
  cases files.get? path with
  | none => simp [eq_comm]
  | some t => simp

/-! ### Results of steps in sequence -/

section Results

variable {ε α β : Type}

theorem bind_ok_eq_map (x : Except ε α) (f : α → β) : (x.bind fun a => .ok (f a)) = x.map f := by
  cases x with
  | error e => rfl
  | ok a => rfl

theorem map_eq_ok_iff {x : Except ε α} {f : α → β} {b : β} :
    x.map f = .ok b ↔ ∃ a, x = .ok a ∧ b = f a := by
  cases x with
  | error e => simp [Except.map]
  | ok a => simp [Except.map, eq_comm]

theorem map_eq_error_iff {x : Except ε α} {f : α → β} {e : ε} :
    x.map f = .error e ↔ x = .error e := by
  cases x with
  | error e' => simp [Except.map]
  | ok a => simp [Except.map]

theorem bind_eq_ok_iff {x : Except ε α} {f : α → Except ε β} {b : β} :
    x.bind f = .ok b ↔ ∃ a, x = .ok a ∧ f a = .ok b := by
  cases x with
  | error e => simp [Except.bind]
  | ok a => simp [Except.bind]

theorem bind_eq_error_iff {x : Except ε α} {f : α → Except ε β} {e : ε} :
    x.bind f = .error e ↔ x = .error e ∨ ∃ a, x = .ok a ∧ f a = .error e := by
  cases x with
  | error e' => simp [Except.bind]
  | ok a => simp [Except.bind]

end Results

/-! ### Trees without stack and limit -/

/-- The nodes that directives of a document unfold to, wherever the document is included. -/
inductive Unfolds (load : Loader) : TextDocument → List Directive → Nodes → Prop where
  | nil {document : TextDocument} : Unfolds load document [] .nil
  | inclusion {document : TextDocument} {base : FilePath} {d : IncludeDirective} {text : String}
      {uri : Url} {nodes rest : Nodes} {directives : List Directive}
      (hbase : document.filePath? = some base)
      (hload : load (base.resolve d.path) = .ok text)
      (huri : Url.ofFilePath? (base.resolve d.path) = some uri)
      (hnodes : Unfolds load ⟨uri, text⟩ (scan text) nodes)
      (hrest : Unfolds load document directives rest) :
      Unfolds load document (.inclusion d :: directives)
        (.inclusion d.range ⟨d.pathRange, d.path, base.resolve d.path⟩ uri nodes rest)
  | variable {document : TextDocument} {v : FileVariable} {rest : Nodes}
      {directives : List Directive} (hrest : Unfolds load document directives rest) :
      Unfolds load document (.variable v :: directives) (.variable v rest)
  | request {document : TextDocument} {block : RequestBlock} {rest : Nodes}
      {directives : List Directive} (hrest : Unfolds load document directives rest) :
      Unfolds load document (.request block :: directives)
        (.request ⟨block, document.origin⟩ rest)

/-- The tree of a document, wherever it is included. -/
structure IsTreeOf (load : Loader) (document : TextDocument) (tree : DocumentTree) : Prop where
  uri : tree.uri = document.uri
  nodes : Unfolds load document (scan document.text) tree.nodes

theorem Unfolds.unique {directives : List Directive} {nodes nodes' : Nodes}
    (h : Unfolds load document directives nodes) (h' : Unfolds load document directives nodes') :
    nodes = nodes' := by
  induction h generalizing nodes' with
  | nil =>
      cases h'
      rfl
  | inclusion hbase hload huri _ _ ihNodes ihRest =>
      cases h' with
      | inclusion hbase' hload' huri' hnodes' hrest' =>
          obtain rfl := Option.some.inj (hbase.symm.trans hbase')
          obtain rfl := Except.ok.inj (hload.symm.trans hload')
          obtain rfl := Option.some.inj (huri.symm.trans huri')
          rw [ihNodes hnodes', ihRest hrest']
  | «variable» _ ih =>
      cases h' with
      | «variable» hrest' => rw [ih hrest']
  | request _ ih =>
      cases h' with
      | request hrest' => rw [ih hrest']

theorem IsTreeOf.unique {tree tree' : DocumentTree} (h : IsTreeOf load document tree)
    (h' : IsTreeOf load document tree') : tree = tree' := by
  have huri : tree.uri = tree'.uri := h.uri.trans h'.uri.symm
  have hnodes : tree.nodes = tree'.nodes := h.nodes.unique h'.nodes
  cases tree
  cases tree'
  simp_all

/-! ### The requests of a document -/

/-- The block of a directive that is a request. -/
def Directive.request? : Directive → Option RequestBlock
  | .inclusion _ => none
  | .variable _ => none
  | .request block => some block

theorem request?_eq_some_iff {d : Directive} {b : RequestBlock} :
    d.request? = some b ↔ d = .request b := by
  cases d with
  | inclusion i => simp [Directive.request?]
  | «variable» v => simp [Directive.request?]
  | request block => simp [Directive.request?]

/-- The requests of a document are those of its text, whatever the includes hold. -/
theorem Unfolds.map_block_requests {directives : List Directive} {nodes : Nodes}
    (h : Unfolds load document directives nodes) :
    nodes.requests.map (·.block) = directives.filterMap Directive.request? := by
  induction h with
  | nil => rfl
  | inclusion _ _ _ _ _ _ ihRest => exact ihRest
  | «variable» _ ih => exact ih
  | request _ ih =>
      rw [Nodes.requests, List.map_cons, ih]
      rfl

/-! ### The room below other documents -/

/-- Whether nodes may stand below the documents `above`: no include leads back to one of these, and
includes nest at most `remaining` levels deep. -/
def Nodes.Fits : Nodes → List FilePath → Nat → Prop
  | .nil, _, _ => True
  | .inclusion _ path _ document rest, above, remaining =>
    (∀ p ∈ above, p.same path.absolute = false) ∧ 0 < remaining ∧
      document.Fits (above ++ [path.absolute]) (remaining - 1) ∧ rest.Fits above remaining
  | .variable _ rest, above, remaining => rest.Fits above remaining
  | .request _ rest, above, remaining => rest.Fits above remaining

/-- Fewer documents above and more room below let the same nodes stand. -/
theorem Nodes.Fits.mono {nodes : Nodes} {above above' : List FilePath} {remaining remaining' : Nat}
    (h : nodes.Fits above remaining)
    (habove : ∀ p ∈ above', ∃ q ∈ above, q.place = p.place) (hle : remaining ≤ remaining') :
    nodes.Fits above' remaining' := by
  induction nodes generalizing above above' remaining remaining' with
  | nil => trivial
  | inclusion range path uri document rest ihDocument ihRest =>
      obtain ⟨hfresh, hpos, hdocument, hrest⟩ := h
      refine ⟨?_, by omega, ihDocument hdocument ?_ (by omega), ihRest hrest habove hle⟩
      · intro p hp
        obtain ⟨q, hq, hplace⟩ := habove p hp
        have hne := FilePath.same_eq_false_iff.mp (hfresh q hq)
        exact FilePath.same_eq_false_iff.mpr (hplace ▸ hne)
      · intro p hp
        rcases List.mem_append.mp hp with hp | hp
        · obtain ⟨q, hq, hplace⟩ := habove p hp
          exact ⟨q, List.mem_append_left _ hq, hplace⟩
        · exact ⟨p, List.mem_append_right _ hp, rfl⟩
  | «variable» v rest ih => exact ih h habove hle
  | request node rest ih => exact ih h habove hle

/-! ### One include -/

/-- What an include of a document stands for while `resolving`, the document among them, are being
expanded. -/
def includeWithin (load : Loader) (maxDepth remaining : Nat) (resolving : List FilePath)
    (document : TextDocument) (d : IncludeDirective) :
    Except DocumentError (FilePath × DocumentTree) :=
  match document.filePath? with
  | none => .error (.notAFile document.uri)
  | some base =>
    let path := base.resolve d.path
    if resolving.any (·.same path) then .error (.includeCycle (resolving ++ [path]))
    else match remaining with
      | 0 => .error (.includeDepthExceeded path maxDepth)
      | remaining + 1 =>
        match load path with
        | .error cause => .error (.load path document.uri cause)
        | .ok text =>
          match Url.ofFilePath? path with
          | none => .error (.notAFile document.uri)
          | some uri => (expandWithin load maxDepth remaining resolving ⟨uri, text⟩).map (path, ·)

/-- A document is expanded by expanding its includes. -/
theorem expandWithin_eq (load : Loader) (maxDepth remaining : Nat) (resolving : List FilePath)
    (document : TextDocument) :
    expandWithin load maxDepth remaining resolving document =
      (nodesOf document.origin
        (includeWithin load maxDepth remaining (resolving ++ document.filePath?.toList) document)
        (scan document.text)).map (⟨document.uri, ·⟩) := by
  have hstep : expandWithin load maxDepth remaining resolving document =
      (nodesOf document.origin
        (includeWithin load maxDepth remaining (resolving ++ document.filePath?.toList) document)
        (scan document.text) >>= fun nodes => .ok ⟨document.uri, nodes⟩) := by
    rw [expandWithin]
    rfl
  rw [hstep]
  exact bind_ok_eq_map _ _

/-- Every way an include can go, in the order of the checks. -/
inductive IncludeOutcome (load : Loader) (maxDepth remaining : Nat) (resolving : List FilePath)
    (document : TextDocument) (d : IncludeDirective) :
    Except DocumentError (FilePath × DocumentTree) → Prop where
  /-- There is no directory to include from. -/
  | noFile (hbase : document.filePath? = none) :
      IncludeOutcome load maxDepth remaining resolving document d (.error (.notAFile document.uri))
  | cycle {base : FilePath} (hbase : document.filePath? = some base)
      (hmem : ∃ p ∈ resolving, p.same (base.resolve d.path) = true) :
      IncludeOutcome load maxDepth remaining resolving document d
        (.error (.includeCycle (resolving ++ [base.resolve d.path])))
  | tooDeep {base : FilePath} (hbase : document.filePath? = some base)
      (hfresh : ∀ p ∈ resolving, p.same (base.resolve d.path) = false) (hzero : remaining = 0) :
      IncludeOutcome load maxDepth remaining resolving document d
        (.error (.includeDepthExceeded (base.resolve d.path) maxDepth))
  | notLoaded {base : FilePath} {below : Nat} {cause : LoadError}
      (hbase : document.filePath? = some base)
      (hfresh : ∀ p ∈ resolving, p.same (base.resolve d.path) = false)
      (hsucc : remaining = below + 1) (hload : load (base.resolve d.path) = .error cause) :
      IncludeOutcome load maxDepth remaining resolving document d
        (.error (.load (base.resolve d.path) document.uri cause))
  /-- A relative path has no URL. -/
  | noUrl {base : FilePath} {below : Nat} {text : String} (hbase : document.filePath? = some base)
      (hfresh : ∀ p ∈ resolving, p.same (base.resolve d.path) = false)
      (hsucc : remaining = below + 1) (hload : load (base.resolve d.path) = .ok text)
      (huri : Url.ofFilePath? (base.resolve d.path) = none) :
      IncludeOutcome load maxDepth remaining resolving document d (.error (.notAFile document.uri))
  | descend {base : FilePath} {below : Nat} {text : String} {uri : Url}
      (hbase : document.filePath? = some base)
      (hfresh : ∀ p ∈ resolving, p.same (base.resolve d.path) = false)
      (hsucc : remaining = below + 1) (hload : load (base.resolve d.path) = .ok text)
      (huri : Url.ofFilePath? (base.resolve d.path) = some uri) :
      IncludeOutcome load maxDepth remaining resolving document d
        ((expandWithin load maxDepth below resolving ⟨uri, text⟩).map (base.resolve d.path, ·))

theorem any_same_eq_false_iff {resolving : List FilePath} {path : FilePath} :
    resolving.any (·.same path) = false ↔ ∀ p ∈ resolving, p.same path = false := by
  simp

theorem includeWithin_outcome (load : Loader) (maxDepth remaining : Nat)
    (resolving : List FilePath) (document : TextDocument) (d : IncludeDirective) :
    IncludeOutcome load maxDepth remaining resolving document d
      (includeWithin load maxDepth remaining resolving document d) := by
  unfold includeWithin
  cases hbase : document.filePath? with
  | none => exact .noFile hbase
  | some base =>
      cases hany : resolving.any (·.same (base.resolve d.path)) with
      | true =>
          simp only [hany, if_true]
          exact .cycle hbase (List.any_eq_true.mp hany)
      | false =>
          have hfresh := any_same_eq_false_iff.mp hany
          simp only [hany, Bool.false_eq_true, if_false]
          cases remaining with
          | zero => exact .tooDeep hbase hfresh rfl
          | succ below =>
              cases hload : load (base.resolve d.path) with
              | error cause => exact .notLoaded hbase hfresh rfl hload
              | ok text =>
                  cases huri : Url.ofFilePath? (base.resolve d.path) with
                  | none => exact .noUrl hbase hfresh rfl hload huri
                  | some uri => exact .descend hbase hfresh rfl hload huri

/-- The outcome determines what the include stands for. -/
theorem IncludeOutcome.eq {maxDepth remaining : Nat} {resolving : List FilePath}
    {d : IncludeDirective} {r : Except DocumentError (FilePath × DocumentTree)}
    (h : IncludeOutcome load maxDepth remaining resolving document d r) :
    includeWithin load maxDepth remaining resolving document d = r := by
  cases h with
  | noFile hbase => simp only [includeWithin, hbase]
  | cycle hbase hmem => simp only [includeWithin, hbase, List.any_eq_true.mpr hmem, if_true]
  | tooDeep hbase hfresh hzero =>
      subst hzero
      simp only [includeWithin, hbase, any_same_eq_false_iff.mpr hfresh, Bool.false_eq_true, if_false]
  | notLoaded hbase hfresh hsucc hload =>
      subst hsucc
      simp only [includeWithin, hbase, any_same_eq_false_iff.mpr hfresh, Bool.false_eq_true,
        if_false, hload]
  | noUrl hbase hfresh hsucc hload huri =>
      subst hsucc
      simp only [includeWithin, hbase, any_same_eq_false_iff.mpr hfresh, Bool.false_eq_true,
        if_false, hload, huri]
  | descend hbase hfresh hsucc hload huri =>
      subst hsucc
      simp only [includeWithin, hbase, any_same_eq_false_iff.mpr hfresh, Bool.false_eq_true,
        if_false, hload, huri]

theorem includeWithin_of_filePath?_none {maxDepth remaining : Nat} {resolving : List FilePath}
    {d : IncludeDirective} (hfile : document.filePath? = none) :
    includeWithin load maxDepth remaining resolving document d = .error (.notAFile document.uri) :=
  (IncludeOutcome.noFile hfile).eq

theorem includeWithin_eq_ok_iff {maxDepth remaining : Nat} {resolving : List FilePath}
    {d : IncludeDirective} {path : FilePath} {tree : DocumentTree} :
    includeWithin load maxDepth remaining resolving document d = .ok (path, tree) ↔
      ∃ base below text uri, document.filePath? = some base ∧ path = base.resolve d.path ∧
        (∀ p ∈ resolving, p.same path = false) ∧ remaining = below + 1 ∧ load path = .ok text ∧
        Url.ofFilePath? path = some uri ∧
        expandWithin load maxDepth below resolving ⟨uri, text⟩ = .ok tree := by
  constructor
  · intro h
    have houtcome := includeWithin_outcome load maxDepth remaining resolving document d
    rw [h] at houtcome
    generalize hr : (Except.ok (path, tree) : Except DocumentError _) = r at houtcome
    cases houtcome with
    | noFile | cycle | tooDeep | notLoaded | noUrl => cases hr
    | @descend base below text uri hbase hfresh hsucc hload huri =>
        obtain ⟨t, hexpand, heq⟩ := map_eq_ok_iff.mp hr.symm
        obtain ⟨rfl, rfl⟩ := Prod.mk.inj heq
        exact ⟨base, below, text, uri, hbase, rfl, hfresh, hsucc, hload, huri, hexpand⟩
  · rintro ⟨base, below, text, uri, hbase, rfl, hfresh, hsucc, hload, huri, hexpand⟩
    rw [(IncludeOutcome.descend hbase hfresh hsucc hload huri).eq, hexpand]
    rfl

/-! ### The directives of one document -/

section Directives

variable {origin : FilePath}
  {expandInclude : IncludeDirective → Except DocumentError (FilePath × DocumentTree)}
  {directives : List Directive} {nodes : Nodes} {e : DocumentError}

-- One equation for each kind of directive: the proofs below go through these and leave the
-- recursion closed.
theorem nodesOf_inclusion {d : IncludeDirective} :
    nodesOf origin expandInclude (.inclusion d :: directives) =
      (expandInclude d).bind fun r => (nodesOf origin expandInclude directives).map
        (.inclusion d.range ⟨d.pathRange, d.path, r.1⟩ r.2.uri r.2.nodes) := by
  have hstep : nodesOf origin expandInclude (.inclusion d :: directives) =
      (expandInclude d).bind fun r => (nodesOf origin expandInclude directives).bind fun rest =>
        .ok (.inclusion d.range ⟨d.pathRange, d.path, r.1⟩ r.2.uri r.2.nodes rest) := rfl
  simp only [hstep, bind_ok_eq_map]

theorem nodesOf_variable {v : FileVariable} :
    nodesOf origin expandInclude (.variable v :: directives) =
      (nodesOf origin expandInclude directives).map (.variable v) :=
  bind_ok_eq_map _ _

theorem nodesOf_request {block : RequestBlock} :
    nodesOf origin expandInclude (.request block :: directives) =
      (nodesOf origin expandInclude directives).map (.request ⟨block, origin⟩) :=
  bind_ok_eq_map _ _

theorem nodesOf_inclusion_eq_ok_iff {d : IncludeDirective} :
    nodesOf origin expandInclude (.inclusion d :: directives) = .ok nodes ↔
      ∃ path tree rest, expandInclude d = .ok (path, tree) ∧
        nodesOf origin expandInclude directives = .ok rest ∧
        nodes = .inclusion d.range ⟨d.pathRange, d.path, path⟩ tree.uri tree.nodes rest := by
  rw [nodesOf_inclusion, bind_eq_ok_iff]
  constructor
  · rintro ⟨⟨path, tree⟩, hd, hnodes⟩
    obtain ⟨rest, hrest, rfl⟩ := map_eq_ok_iff.mp hnodes
    exact ⟨path, tree, rest, hd, hrest, rfl⟩
  · rintro ⟨path, tree, rest, hd, hrest, rfl⟩
    exact ⟨(path, tree), hd, map_eq_ok_iff.mpr ⟨rest, hrest, rfl⟩⟩

theorem nodesOf_variable_eq_ok_iff {v : FileVariable} :
    nodesOf origin expandInclude (.variable v :: directives) = .ok nodes ↔
      ∃ rest, nodesOf origin expandInclude directives = .ok rest ∧ nodes = .variable v rest := by
  rw [nodesOf_variable, map_eq_ok_iff]

theorem nodesOf_request_eq_ok_iff {block : RequestBlock} :
    nodesOf origin expandInclude (.request block :: directives) = .ok nodes ↔
      ∃ rest, nodesOf origin expandInclude directives = .ok rest ∧
        nodes = .request ⟨block, origin⟩ rest := by
  rw [nodesOf_request, map_eq_ok_iff]

theorem nodesOf_inclusion_eq_error_iff {d : IncludeDirective} :
    nodesOf origin expandInclude (.inclusion d :: directives) = .error e ↔
      expandInclude d = .error e ∨
        (∃ r, expandInclude d = .ok r) ∧ nodesOf origin expandInclude directives = .error e := by
  rw [nodesOf_inclusion, bind_eq_error_iff]
  simp only [map_eq_error_iff, exists_and_right]

theorem nodesOf_variable_eq_error_iff {v : FileVariable} :
    nodesOf origin expandInclude (.variable v :: directives) = .error e ↔
      nodesOf origin expandInclude directives = .error e := by
  rw [nodesOf_variable, map_eq_error_iff]

theorem nodesOf_request_eq_error_iff {block : RequestBlock} :
    nodesOf origin expandInclude (.request block :: directives) = .error e ↔
      nodesOf origin expandInclude directives = .error e := by
  rw [nodesOf_request, map_eq_error_iff]

/-- Where the directives have nodes, no include fails. -/
theorem exists_ok_of_mem {d : IncludeDirective}
    (h : nodesOf origin expandInclude directives = .ok nodes)
    (hd : Directive.inclusion d ∈ directives) : ∃ r, expandInclude d = .ok r := by
  induction directives generalizing nodes with
  | nil => cases hd
  | cons first rest ih =>
      cases first with
      | inclusion d' =>
          obtain ⟨path, tree, _, hd', hrest, -⟩ := nodesOf_inclusion_eq_ok_iff.mp h
          rcases List.mem_cons.mp hd with heq | hd
          · cases heq
            exact ⟨_, hd'⟩
          · exact ih hrest hd
      | «variable» v =>
          obtain ⟨_, hrest, -⟩ := nodesOf_variable_eq_ok_iff.mp h
          rcases List.mem_cons.mp hd with heq | hd
          · cases heq
          · exact ih hrest hd
      | request block =>
          obtain ⟨_, hrest, -⟩ := nodesOf_request_eq_ok_iff.mp h
          rcases List.mem_cons.mp hd with heq | hd
          · cases heq
          · exact ih hrest hd

/-- An include fails, and every include before it does not. -/
def FirstFailure
    (expandInclude : IncludeDirective → Except DocumentError (FilePath × DocumentTree))
    (directives : List Directive) (e : DocumentError) : Prop :=
  ∃ before d after, directives = before ++ Directive.inclusion d :: after ∧
    expandInclude d = .error e ∧
    ∀ d', Directive.inclusion d' ∈ before → ∃ r, expandInclude d' = .ok r

theorem FirstFailure.cons {first : Directive}
    (h : FirstFailure expandInclude directives e)
    (hfirst : ∀ d, first = .inclusion d → ∃ r, expandInclude d = .ok r) :
    FirstFailure expandInclude (first :: directives) e := by
  obtain ⟨before, d, after, rfl, hd, hbefore⟩ := h
  refine ⟨first :: before, d, after, rfl, hd, ?_⟩
  intro d' hd'
  rcases List.mem_cons.mp hd' with heq | hmem
  · exact hfirst d' heq.symm
  · exact hbefore d' hmem

/-- The failure of a document is that of its first include that fails. -/
theorem firstFailure_of_nodesOf
    (h : nodesOf origin expandInclude directives = .error e) :
    FirstFailure expandInclude directives e := by
  induction directives with
  | nil => cases h
  | cons first rest ih =>
      cases first with
      | inclusion d =>
          rcases nodesOf_inclusion_eq_error_iff.mp h with hd | ⟨hd, hrest⟩
          · exact ⟨[], d, rest, rfl, hd, by simp⟩
          · refine (ih hrest).cons ?_
            intro d' hd'
            cases hd'
            exact hd
      | «variable» v =>
          have hrest := nodesOf_variable_eq_error_iff.mp h
          exact (ih hrest).cons (fun d hd => by cases hd)
      | request block =>
          have hrest := nodesOf_request_eq_error_iff.mp h
          exact (ih hrest).cons (fun d hd => by cases hd)

end Directives

/-! ### Whole documents -/

section Documents

variable {maxDepth remaining : Nat} {resolving : List FilePath}

theorem expandWithin_eq_error_iff {e : DocumentError} :
    expandWithin load maxDepth remaining resolving document = .error e ↔
      nodesOf document.origin
        (includeWithin load maxDepth remaining (resolving ++ document.filePath?.toList) document)
        (scan document.text) = .error e := by
  rw [expandWithin_eq, map_eq_error_iff]

theorem expandWithin_eq_ok_iff_nodesOf {tree : DocumentTree} :
    expandWithin load maxDepth remaining resolving document = .ok tree ↔
      tree.uri = document.uri ∧
        nodesOf document.origin
          (includeWithin load maxDepth remaining (resolving ++ document.filePath?.toList) document)
          (scan document.text) = .ok tree.nodes := by
  rw [expandWithin_eq, map_eq_ok_iff]
  constructor
  · rintro ⟨nodes, hnodes, rfl⟩
    exact ⟨rfl, hnodes⟩
  · rintro ⟨huri, hnodes⟩
    exact ⟨tree.nodes, hnodes, huri ▸ rfl⟩

/-- The file of a document that was included is the one its path led to. -/
theorem filePath?_of_ofFilePath? {path : FilePath} {uri : Url} (text : String)
    (h : Url.ofFilePath? path = some uri) :
    ∃ q, (⟨uri, text⟩ : TextDocument).filePath? = some q ∧ q.place = path.place :=
  Url.toFilePath?_ofFilePath? h

/-- Below the same places the same nodes may stand. -/
theorem Nodes.Fits.congr_last {nodes : Nodes} {above : List FilePath} {p q : FilePath}
    (h : nodes.Fits (above ++ [p]) remaining) (hplace : p.place = q.place) :
    nodes.Fits (above ++ [q]) remaining := by
  refine h.mono ?_ (Nat.le_refl _)
  intro r hr
  rcases List.mem_append.mp hr with hr | hr
  · exact ⟨r, List.mem_append_left _ hr, rfl⟩
  · obtain rfl := List.mem_singleton.mp hr
    exact ⟨p, List.mem_append_right _ (List.mem_singleton_self p), hplace⟩

/-- One level of the expansion, given what the level below computes. -/
theorem nodesOf_includeWithin_eq_ok_iff {directives : List Directive} {nodes : Nodes}
    (ih : ∀ below, remaining = below + 1 → ∀ document tree,
      expandWithin load maxDepth below resolving document = .ok tree ↔
        IsTreeOf load document tree ∧
          tree.nodes.Fits (resolving ++ document.filePath?.toList) below) :
    nodesOf document.origin (includeWithin load maxDepth remaining resolving document) directives
        = .ok nodes ↔
      Unfolds load document directives nodes ∧ nodes.Fits resolving remaining := by
  induction directives generalizing nodes with
  | nil =>
      constructor
      · intro h
        obtain rfl := Except.ok.inj h
        exact ⟨.nil, trivial⟩
      · rintro ⟨h, -⟩
        cases h
        rfl
  | cons first rest ihRest =>
      cases first with
      | inclusion d =>
          rw [nodesOf_inclusion_eq_ok_iff]
          constructor
          · rintro ⟨path, tree, restNodes, hd, hrest, rfl⟩
            obtain ⟨base, below, text, uri, hbase, rfl, hfresh, hsucc, hload, huri, hexpand⟩ :=
              includeWithin_eq_ok_iff.mp hd
            obtain ⟨hunfold, hfits⟩ := ihRest.mp hrest
            obtain ⟨htree, htreeFits⟩ := (ih below hsucc _ _).mp hexpand
            obtain ⟨q, hq, hplace⟩ := filePath?_of_ofFilePath? text huri
            rw [hq] at htreeFits
            obtain rfl : uri = tree.uri := htree.uri.symm
            refine ⟨.inclusion hbase hload huri htree.nodes hunfold, hfresh, by omega, ?_, hfits⟩
            have hbelow : remaining - 1 = below := by omega
            rw [hbelow]
            exact htreeFits.congr_last hplace
          · rintro ⟨hunfold, hfits⟩
            cases hunfold with
            | @inclusion _ base _ text uri document' restNodes _ hbase hload huri hnodes hrest =>
                obtain ⟨hfresh, hpos, hdocument, hrestFits⟩ := hfits
                obtain ⟨q, hq, hplace⟩ := filePath?_of_ofFilePath? text huri
                have hsucc : remaining = (remaining - 1) + 1 := by omega
                have hexpand : expandWithin load maxDepth (remaining - 1) resolving ⟨uri, text⟩
                    = .ok ⟨uri, document'⟩ := by
                  refine (ih _ hsucc _ _).mpr ⟨⟨rfl, hnodes⟩, ?_⟩
                  rw [hq]
                  exact hdocument.congr_last hplace.symm
                exact ⟨_, ⟨uri, document'⟩, restNodes,
                  includeWithin_eq_ok_iff.mpr
                    ⟨base, _, text, uri, hbase, rfl, hfresh, hsucc, hload, huri, hexpand⟩,
                  ihRest.mpr ⟨hrest, hrestFits⟩, rfl⟩
      | «variable» v =>
          rw [nodesOf_variable_eq_ok_iff]
          constructor
          · rintro ⟨restNodes, hrest, rfl⟩
            obtain ⟨hunfold, hfits⟩ := ihRest.mp hrest
            exact ⟨.variable hunfold, hfits⟩
          · rintro ⟨hunfold, hfits⟩
            cases hunfold with
            | «variable» hrest => exact ⟨_, ihRest.mpr ⟨hrest, hfits⟩, rfl⟩
      | request block =>
          rw [nodesOf_request_eq_ok_iff]
          constructor
          · rintro ⟨restNodes, hrest, rfl⟩
            obtain ⟨hunfold, hfits⟩ := ihRest.mp hrest
            exact ⟨.request hunfold, hfits⟩
          · rintro ⟨hunfold, hfits⟩
            cases hunfold with
            | request hrest => exact ⟨_, ihRest.mpr ⟨hrest, hfits⟩, rfl⟩

/-- Expansion builds the one tree of a document, if that tree fits where it is expanded. -/
theorem expandWithin_eq_ok_iff {tree : DocumentTree} :
    expandWithin load maxDepth remaining resolving document = .ok tree ↔
      IsTreeOf load document tree ∧
        tree.nodes.Fits (resolving ++ document.filePath?.toList) remaining := by
  -- Below a document there is less room, and it stands on the stack.
  induction remaining using Nat.strongRecOn generalizing resolving document tree with
  | ind remaining ih =>
      have hlevel : ∀ below, remaining = below + 1 → ∀ document' tree',
          expandWithin load maxDepth below (resolving ++ document.filePath?.toList) document'
              = .ok tree' ↔
            IsTreeOf load document' tree' ∧
              tree'.nodes.Fits (resolving ++ document.filePath?.toList ++
                document'.filePath?.toList) below := by
        intro below hbelow document' tree'
        exact ih below (by omega)
      rw [expandWithin_eq_ok_iff_nodesOf, nodesOf_includeWithin_eq_ok_iff hlevel]
      exact ⟨fun ⟨huri, hnodes, hfits⟩ => ⟨⟨huri, hnodes⟩, hfits⟩,
        fun ⟨htree, hfits⟩ => ⟨htree.uri, htree.nodes, hfits⟩⟩

theorem expand_eq_ok_iff {tree : DocumentTree} :
    expand load maxDepth document = .ok tree ↔
      IsTreeOf load document tree ∧ tree.nodes.Fits document.filePath?.toList maxDepth := by
  rw [expand, expandWithin_eq_ok_iff, List.nil_append]

/-! ### Greater limits -/

/-- A result that a greater limit leaves as it is. -/
def Settled {α : Type} (r : Except DocumentError α) : Prop :=
  ∀ path limit, r ≠ .error (.includeDepthExceeded path limit)

theorem Settled.of_map {α β : Type} {f : α → β} {r : Except DocumentError α}
    (h : Settled (r.map f)) : Settled r := by
  rintro path limit rfl
  exact h path limit rfl

/-- Where a greater limit leaves every include as it is, it leaves the directives as they are. -/
theorem nodesOf_mono {origin : FilePath}
    {expandInclude expandInclude' :
      IncludeDirective → Except DocumentError (FilePath × DocumentTree)}
    (h : ∀ d, Settled (expandInclude d) → expandInclude' d = expandInclude d)
    {directives : List Directive} (hsettled : Settled (nodesOf origin expandInclude directives)) :
    nodesOf origin expandInclude' directives = nodesOf origin expandInclude directives := by
  induction directives with
  | nil => rfl
  | cons first rest ih =>
      cases first with
      | inclusion d =>
          have hd : expandInclude' d = expandInclude d := by
            refine h d ?_
            intro path limit hd
            exact hsettled path limit (nodesOf_inclusion_eq_error_iff.mpr (.inl hd))
          rw [nodesOf_inclusion, nodesOf_inclusion, hd]
          cases hr : expandInclude d with
          | error e => rfl
          | ok r =>
              have hrest : Settled (nodesOf origin expandInclude rest) := by
                intro path limit hrest
                exact hsettled path limit
                  (nodesOf_inclusion_eq_error_iff.mpr (.inr ⟨⟨r, hr⟩, hrest⟩))
              rw [ih hrest]
      | «variable» v =>
          have hrest : Settled (nodesOf origin expandInclude rest) := by
            intro path limit hrest
            exact hsettled path limit (nodesOf_variable_eq_error_iff.mpr hrest)
          rw [nodesOf_variable, nodesOf_variable, ih hrest]
      | request block =>
          have hrest : Settled (nodesOf origin expandInclude rest) := by
            intro path limit hrest
            exact hsettled path limit (nodesOf_request_eq_error_iff.mpr hrest)
          rw [nodesOf_request, nodesOf_request, ih hrest]

/-- A greater limit changes nothing but failures of depth. -/
theorem expandWithin_mono {maxDepth' remaining' : Nat} (hle : remaining ≤ remaining')
    (hsettled : Settled (expandWithin load maxDepth remaining resolving document)) :
    expandWithin load maxDepth' remaining' resolving document =
      expandWithin load maxDepth remaining resolving document := by
  induction remaining using Nat.strongRecOn generalizing remaining' resolving document with
  | ind remaining ih =>
      rw [expandWithin_eq] at hsettled
      rw [expandWithin_eq, expandWithin_eq, nodesOf_mono ?_ hsettled.of_map]
      -- An include goes the same way under both limits, unless there is no room left under the
      -- smaller one, which is not settled.
      intro d hd
      have houtcome := includeWithin_outcome load maxDepth remaining
        (resolving ++ document.filePath?.toList) document d
      generalize hr : includeWithin load maxDepth remaining
        (resolving ++ document.filePath?.toList) document d = r at houtcome hd
      cases houtcome with
      | noFile hbase => exact (IncludeOutcome.noFile hbase).eq
      | cycle hbase hmem => exact (IncludeOutcome.cycle hbase hmem).eq
      | tooDeep hbase hfresh hzero => exact absurd rfl (hd _ _)
      | @notLoaded _ below _ hbase hfresh hsucc hload =>
          obtain ⟨below', rfl⟩ : ∃ below', remaining' = below' + 1 :=
            ⟨remaining' - 1, by omega⟩
          exact (IncludeOutcome.notLoaded hbase hfresh rfl hload).eq
      | @noUrl _ below _ hbase hfresh hsucc hload huri =>
          obtain ⟨below', rfl⟩ : ∃ below', remaining' = below' + 1 :=
            ⟨remaining' - 1, by omega⟩
          exact (IncludeOutcome.noUrl hbase hfresh rfl hload huri).eq
      | @descend _ below _ _ hbase hfresh hsucc hload huri =>
          obtain ⟨below', rfl⟩ : ∃ below', remaining' = below' + 1 :=
            ⟨remaining' - 1, by omega⟩
          rw [(IncludeOutcome.descend hbase hfresh rfl hload huri).eq]
          rw [ih below (by omega) (by omega) hd.of_map]

theorem settled_ok {α : Type} (a : α) : Settled (.ok a : Except DocumentError α) := by
  intro path limit h
  cases h

theorem expand_mono {limit : Nat} (hle : maxDepth ≤ limit)
    (hsettled : Settled (expand load maxDepth document)) :
    expand load limit document = expand load maxDepth document :=
  expandWithin_mono hle hsettled

end Documents

end HttpScript.Script
