/-
Module: HttpScript.Variable.Definition
Purpose: Which names a document defines and how.  A name may be defined in several ways, of which
  the first is the one a reference stands for.
Main exports: Kind, Definitions, definitions
-/
import HttpScript.Json.Decode
import HttpScript.Variable.FileBindings

namespace HttpScript.Variable

/-- How a name is defined. -/
inductive Kind where
  /-- By the program itself. -/
  | system
  /-- As the name of a request whose exchange can be referred to. -/
  | request
  /-- As a file variable. -/
  | file
  /-- By the active environment. -/
  | environment
deriving Repr, DecidableEq

namespace Kind

def all : List Kind := [.system, .request, .file, .environment]

def name : Kind → String
  | .system => "System"
  | .request => "Request"
  | .file => "File"
  | .environment => "Environment"

def ofJson : Json.Value → Except Json.DecodeError Kind :=
  Json.Decode.variant (all.map (fun k => (k.name, k)))

end Kind

/-- Names and the ways they are defined, the one that counts first. -/
structure Definitions where
  kinds : Dict (List Kind)
deriving Repr, DecidableEq

namespace Definitions

def empty : Definitions := ⟨{}⟩

/-- The ways a name is defined. -/
def kindsOf (d : Definitions) (name : String) : List Kind :=
  (d.kinds.get? name).getD []

/-- Adds a way a name is defined, after those it has. -/
def define (d : Definitions) (name : String) (kind : Kind) : Definitions :=
  let known := d.kindsOf name
  ⟨d.kinds.insert name (if known.contains kind then known else known ++ [kind])⟩

def contains (d : Definitions) (name : String) : Bool :=
  d.kinds.contains name

/-- What a reference to the name stands for. -/
def primary? (d : Definitions) (name : String) : Option Kind :=
  (d.kindsOf name).head?

def size (d : Definitions) : Nat :=
  d.kinds.size

/-- Defines several names in one way. -/
def defineAll (d : Definitions) (names : List String) (kind : Kind) : Definitions :=
  names.foldl (fun d name => d.define name kind) d

end Definitions

/-- What a document defines: the names of its own requests, then the file variables of the document
and all it includes, then the environment. -/
def definitions (t : Script.DocumentTree) (environment : Dict String) : Definitions :=
  Definitions.empty
    |>.defineAll (t.requests.filterMap (·.block.name)) .request
    |>.defineAll (fileBindings t).keys .file
    |>.defineAll environment.keys .environment

end HttpScript.Variable
