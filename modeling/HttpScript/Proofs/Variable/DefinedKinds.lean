/-
Module: HttpScript.Proofs.Variable.DefinedKinds
Purpose: In which ways a document defines a name, each way traced to what is written where: requests
  in the text of the document itself, file variables there and in all it includes, and the
  environment.  Names are taken from maps in no particular order, and none matters.
Main exports: Definitions.Supported, Definitions.defineAll_congr, mem_kindsOf_definitions_iff,
  kindsOf_definitions_eq_filter, kindsOf_definitions_iff
-/
import HttpScript.Proofs.Variable.FirstVisit
import HttpScript.Proofs.Variable.Precedence

namespace HttpScript

open Script

namespace Script

theorem mem_declaredNames {text name : String} : name ∈ declaredNames text ↔
    ∃ block, .request block ∈ scan text ∧ block.name = some name := by
  rw [declaredNames, List.mem_filterMap]
  constructor
  · rintro ⟨directive, hmem, hname⟩
    cases directive with
    | inclusion d => cases hname
    | «variable» v => cases hname
    | request block => exact ⟨block, hmem, hname⟩
  · rintro ⟨block, hmem, hname⟩
    exact ⟨.request block, hmem, hname⟩

end Script

namespace Variable

/-! ### Names taken from a map -/

namespace Definitions

variable {d : Definitions} {names names' : List String} {kind : Kind} {name : String}

/-- It matters which names are defined, not in which order and how often. -/
theorem defineAll_congr (d : Definitions) (kind : Kind)
    (h : ∀ name, name ∈ names ↔ name ∈ names') :
    d.defineAll names kind = d.defineAll names' kind := by
  have hkinds : (d.defineAll names kind).kinds = (d.defineAll names' kind).kinds := by
    apply Dict.ext_get?
    intro name
    rw [get?_defineAll, get?_defineAll]
    simp only [h name]
  exact congrArg Definitions.mk hkinds

/-! ### Only defined names are listed -/

/-- Every name that is listed is defined in some way. -/
def Supported (d : Definitions) : Prop :=
  ∀ name, d.contains name = true ↔ d.kindsOf name ≠ []

theorem supported_empty : Supported .empty := by
  intro name
  constructor
  · intro h
    cases h
  · intro h
    exact absurd rfl h

theorem Supported.define (h : d.Supported) (name : String) (kind : Kind) :
    (d.define name kind).Supported := by
  intro other
  rw [contains, Dict.contains, kindsOf, get?_define]
  by_cases hname : other = name
  · rw [if_pos hname]
    by_cases hkind : kind ∈ d.kindsOf name
    · simp [hkind, List.ne_nil_of_mem hkind]
    · simp [hkind]
  · rw [if_neg hname]
    exact h other

theorem Supported.defineAll (h : d.Supported) (names : List String) (kind : Kind) :
    (d.defineAll names kind).Supported := by
  induction names generalizing d with
  | nil => exact h
  | cons first names ih => exact ih (h.define first kind)

end Definitions

theorem supported_definitions (t : DocumentTree) (environment : Dict String) :
    (definitions t environment).Supported :=
  ((Definitions.supported_empty.defineAll _ _).defineAll _ _).defineAll _ _

/-! ### The ways in which a name is defined -/

section Kinds

variable {t : DocumentTree} {environment : Dict String} {name : String}

theorem mem_kindsOf_definitions_iff {kind : Kind} :
    kind ∈ (definitions t environment).kindsOf name ↔ defines t environment name kind = true := by
  have hall : kind ∈ Kind.all := by cases kind <;> decide
  rw [kindsOf_definitions, List.mem_filter]
  exact and_iff_right hall

/-- No document defines a name of the program itself. -/
theorem kindsOf_definitions_eq_filter : (definitions t environment).kindsOf name =
    [.request, .file, .environment].filter (defines t environment name) :=
  kindsOf_definitions t environment name

end Kinds

/-- A name is defined in a document by a request of its own text, by a file variable anywhere in its
tree and by the environment, which count in this order and once each.  It is listed if at least one
of them applies, and the order in which the names come from their maps does not matter. -/
theorem kindsOf_definitions_iff (load : Loader) (maxDepth : Nat) (document : TextDocument)
    (tree : DocumentTree) (h : expand load maxDepth document = .ok tree)
    (environment : Dict String) (name : String) :
    let defined := definitions tree environment
    (defined.kindsOf name).Sublist [.request, .file, .environment] ∧
    (.request ∈ defined.kindsOf name ↔
      ∃ block, .request block ∈ scan document.text ∧ block.name = some name) ∧
    (.file ∈ defined.kindsOf name ↔ ∃ v ∈ tree.nodes.allVariables, v.key = name) ∧
    (.environment ∈ defined.kindsOf name ↔ name ∈ environment.keys) ∧
    (defined.kindsOf name).Nodup ∧
    (defined.contains name = true ↔ defined.kindsOf name ≠ []) ∧
    ∀ fileNames environmentNames : List String,
      fileNames.Perm (fileBindings tree).keys → environmentNames.Perm environment.keys →
      (Definitions.empty
        |>.defineAll (tree.requests.filterMap (·.block.name)) .request
        |>.defineAll fileNames .file
        |>.defineAll environmentNames .environment) = defined := by
  intro defined
  have hsublist : (defined.kindsOf name).Sublist [.request, .file, .environment] := by
    rw [kindsOf_definitions_eq_filter]
    exact List.filter_sublist
  refine ⟨hsublist, ?_, ?_, ?_, ?_, supported_definitions tree environment name, ?_⟩
  · rw [mem_kindsOf_definitions_iff, defines, (expand_eq_ok_iff.mp h).1.filterMap_requests,
      List.contains_iff_mem, mem_declaredNames]
  · rw [mem_kindsOf_definitions_iff, defines, contains_fileBindings_iff h]
  · rw [mem_kindsOf_definitions_iff, defines, Dict.mem_keys]
  · exact hsublist.nodup (by decide)
  · intro fileNames environmentNames hfile henvironment
    rw [Definitions.defineAll_congr _ _ (fun _ => hfile.mem_iff),
      Definitions.defineAll_congr _ _ (fun _ => henvironment.mem_iff)]
    rfl

/-! ### One name defined in all ways -/

/-- A file with a request and two file variables. -/
def loginFiles : MemoryFiles :=
  .ofList [(.ofString "/work/b.http", "# @name token\nGET /\n###\n@port = 8\n@login = 2\n")]

/-- A document that includes it and has a request of its own. -/
def loginRoot : TextDocument :=
  ⟨workUrl "a.http", "@@include b.http\n# @name login\nPOST /login\n"⟩

def loginTree : DocumentTree :=
  let token : RequestNode :=
    ⟨⟨.onLine 1 0 5, "GET /", some "token"⟩, .ofString "/work/b.http"⟩
  let login : RequestNode :=
    ⟨⟨.onLine 2 0 11, "POST /login", some "login"⟩, .ofString "/work/a.http"⟩
  ⟨workUrl "a.http",
    workInclusion 0 "b.http"
      (.request token (.variable ⟨.onLine 3 0 9, "port", "8"⟩
        (.variable ⟨.onLine 4 0 10, "login", "2"⟩ .nil)))
      (.request login .nil)⟩

def loginEnvironment : Dict String :=
  Dict.empty.insert "login" "3"

/-- The included file variable counts, the included request does not. -/
theorem kindsOf_definitions_iff_login :
    expand loginFiles.load 2 loginRoot = .ok loginTree ∧
    (let defined := definitions loginTree loginEnvironment
    .request ∈ defined.kindsOf "login" ∧ .file ∈ defined.kindsOf "login" ∧
    .environment ∈ defined.kindsOf "login" ∧ .file ∈ defined.kindsOf "port" ∧
    .request ∉ defined.kindsOf "token") := by
  have hexpand : expand loginFiles.load 2 loginRoot = .ok loginTree := by decide +kernel
  have hkinds := kindsOf_definitions_iff loginFiles.load 2 loginRoot loginTree hexpand
    loginEnvironment
  obtain ⟨-, hrequest, hfile, henvironment, -⟩ := hkinds "login"
  obtain ⟨-, -, hport, -⟩ := hkinds "port"
  obtain ⟨-, htoken, -⟩ := hkinds "token"
  refine ⟨hexpand, hrequest.mpr ?_, hfile.mpr ?_, henvironment.mpr ?_, hport.mpr ?_, ?_⟩
  · exact ⟨⟨.onLine 2 0 11, "POST /login", some "login"⟩, by decide +kernel, rfl⟩
  · exact ⟨⟨.onLine 4 0 10, "login", "2"⟩, by decide, rfl⟩
  · decide
  · exact ⟨⟨.onLine 3 0 9, "port", "8"⟩, by decide, rfl⟩
  · rw [htoken, ← mem_declaredNames]
    decide +kernel

end Variable

end HttpScript
