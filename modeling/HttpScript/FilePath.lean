/-
Module: HttpScript.FilePath
Purpose: Names of files.  A name is a byte sequence, because not every file name is text; two names
  are the same file's when their components agree, whatever the number of slashes between them.
Main exports: FilePath, Component, FilePath.components, FilePath.same, FilePath.resolve
-/
import HttpScript.Text.Utf8

namespace HttpScript

/-- A file name as it was written. -/
structure FilePath where
  bytes : List UInt8
deriving Repr, DecidableEq, Inhabited

/-- One step of a path below its starting point. -/
inductive Component where
  /-- The directory itself, kept only where a relative path begins with it. -/
  | current
  /-- The directory above. -/
  | parent
  | name (bytes : List UInt8)
deriving Repr, DecidableEq

def Component.bytes : Component → List UInt8
  | .current => [0x2E]
  | .parent => [0x2E, 0x2E]
  | .name bytes => bytes

namespace FilePath

/-- The byte between components. -/
def slash : UInt8 := 0x2F

def ofString (s : String) : FilePath :=
  ⟨Text.Utf8.encode s.toList⟩

/-- The name as text, with U+FFFD for what is not text. -/
def text (p : FilePath) : String :=
  String.ofList (Text.Utf8.decodeLossy p.bytes)

/-- The name as text, when it is text. -/
def text? (p : FilePath) : Option String :=
  (Text.Utf8.decode? p.bytes).map String.ofList

def isAbsolute (p : FilePath) : Bool :=
  p.bytes.head? == some slash

/-- The component written with the given bytes. -/
def component (bytes : List UInt8) : Component :=
  if bytes = [0x2E] then .current
  else if bytes = [0x2E, 0x2E] then .parent
  else .name bytes

/-- The parts between slashes that are not empty. -/
def parts (p : FilePath) : List (List UInt8) :=
  (p.bytes.splitOn slash).filter (fun part => !part.isEmpty)

/-- The components in order.  A single dot is a component only at the start of a relative path. -/
def components (p : FilePath) : List Component :=
  match p.parts.map component with
  | [] => []
  | first :: rest =>
    let rest := rest.filter (· ≠ .current)
    if first = .current ∧ p.isAbsolute then rest else first :: rest

/-- Whether two names lead to the same place by the same steps. -/
def same (p q : FilePath) : Bool :=
  p.isAbsolute == q.isAbsolute && p.components == q.components

/-- The path of the given components, with a leading slash when it is absolute. -/
def ofComponents (absolute : Bool) (components : List Component) : FilePath :=
  let path := [slash].intercalate (components.map Component.bytes)
  ⟨if absolute then slash :: path else path⟩

/-- The last component, when it is a name. -/
def fileName? (p : FilePath) : Option (List UInt8) :=
  match p.components.getLast? with
  | some (.name bytes) => some bytes
  | _ => none

/-! ### Resolving one path against another -/

/-- One component of a path walked from the start.  The last step taken is on top of the stack; a
step up takes it back, and where there is none it stays in the path as a step of its own. -/
def walk (stack : List Component) : Component → List Component
  | .current => stack
  | .parent => match stack with
    | [] => [.parent]
    | _ :: below => below
  | .name bytes => .name bytes :: stack

/-- The components left after every step up has taken back the step before it. -/
def collapse (components : List Component) : List Component :=
  (components.foldl walk []).reverse

/-- The directory a document's relative includes start from.  Neither the root directory nor an
empty path lies in one. -/
def directory (document : FilePath) : Bool × List Component :=
  match document.components with
  | [] => (false, [])
  | components => (document.isAbsolute, components.dropLast)

/-- The path that `target` names when it is written in `document`.  Only the names are looked at,
never a file system. -/
def resolve (document : FilePath) (target : String) : FilePath :=
  let target := ofString target
  if target.isAbsolute then ofComponents true (collapse target.components)
  else
    let (absolute, base) := document.directory
    ofComponents absolute (collapse (base ++ target.components))

end FilePath

end HttpScript
