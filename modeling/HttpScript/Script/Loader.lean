/-
Module: HttpScript.Script.Loader
Purpose: Where the texts of included documents come from, and why one cannot be had.
Main exports: LoadError, ReadFault, Loader, MemoryFiles, Disk
-/
import HttpScript.FilePath
import HttpScript.Text.Lines

namespace HttpScript.Script

/-- Why a file that is there cannot be read as text. -/
inductive ReadFault where
  | notText
  | isDirectory
  | notADirectory
  | nameTooLong
  | nulInName
deriving Repr, DecidableEq

def ReadFault.message : ReadFault → String
  | .notText => "stream did not contain valid UTF-8"
  | .isDirectory => "Is a directory (os error 21)"
  | .notADirectory => "Not a directory (os error 20)"
  | .nameTooLong => "File name too long (os error 36)"
  | .nulInName => "file name contained an unexpected NUL byte"

/-- Why a document cannot be loaded. -/
inductive LoadError where
  | notFound (path : FilePath)
  | unreadable (path : FilePath) (fault : ReadFault)
deriving Repr, DecidableEq

namespace LoadError

def path : LoadError → FilePath
  | .notFound p => p
  | .unreadable p _ => p

def message : LoadError → String
  | .notFound p => s!"File not found: {p.text}"
  | .unreadable p fault => s!"Failed to read {p.text}: {fault.message}"

end LoadError

/-- Gives the text of the document at a path. -/
abbrev Loader := FilePath → Except LoadError String

/-! ### Texts in memory -/

/-- Texts by path.  Paths that are the same by their components hold the same text. -/
structure MemoryFiles where
  files : List (FilePath × String)
deriving Repr, Inhabited

namespace MemoryFiles

def empty : MemoryFiles := ⟨[]⟩

def insert (m : MemoryFiles) (path : FilePath) (text : String) : MemoryFiles :=
  ⟨(path, text) :: m.files.filter (fun f => !f.1.same path)⟩

def get? (m : MemoryFiles) (path : FilePath) : Option String :=
  (m.files.find? (fun f => f.1.same path)).map (·.2)

def ofList (files : List (FilePath × String)) : MemoryFiles :=
  files.foldl (fun m f => m.insert f.1 f.2) empty

def load (m : MemoryFiles) : Loader := fun path =>
  match m.get? path with
  | some text => .ok text
  | none => .error (.notFound path)

end MemoryFiles

/-! ### Files on a disk -/

/-- What is kept under a name. -/
inductive DiskEntry where
  | file (content : List UInt8)
  | directory
deriving Repr, DecidableEq

/-- The files of a disk, each under the names of the directories it lies in and its own.  The
directories around an entry exist whether they are listed or not. -/
structure Disk where
  entries : List (List (List UInt8) × DiskEntry)
deriving Repr, Inhabited

namespace Disk

/-- A disk with nothing but its root directory. -/
def empty : Disk := ⟨[]⟩

/-- Puts an entry at a path. -/
def insert (d : Disk) (path : FilePath) (entry : DiskEntry) : Disk :=
  ⟨(path.parts, entry) :: d.entries⟩

/-- What lies at a place. -/
def lookup (d : Disk) (place : List (List UInt8)) : Option DiskEntry :=
  match d.entries.lookup place with
  | some entry => some entry
  | none =>
    if place.isEmpty ∨ d.entries.any (fun e => place.isPrefixOf e.1) then some .directory else none

/-- The longest name of a file. -/
def maxName : Nat := 255

/-- The longest path. -/
def maxPath : Nat := 4095

/-- Follows the parts of a path from a directory.  Only directories have parts below them, and the
root directory is above itself. -/
def follow (d : Disk) (place : List (List UInt8)) :
    List (List UInt8) → Except (Option ReadFault) DiskEntry
  | [] => match d.lookup place with
    | some entry => .ok entry
    | none => .error none
  | part :: rest =>
    match d.lookup place with
    | none => .error none
    | some (.file _) => .error (some .notADirectory)
    | some .directory =>
      if part = [0x2E] ∨ part = [] then follow d place rest
      else if part = [0x2E, 0x2E] then follow d place.dropLast rest
      else if maxName < part.length then .error (some .nameTooLong)
      else follow d (place ++ [part]) rest

/-- A mark at the start of a file that only says that it is UTF-8. -/
def dropByteOrderMark (text : List Char) : List Char :=
  if text.head? = some '\uFEFF' then text.drop 1 else text

/-- The text of a file.  A relative path leads nowhere but upwards. -/
def load (d : Disk) : Loader := fun path =>
  if path.bytes.contains 0 then .error (.unreadable path .nulInName)
  else if path.bytes.isEmpty then .error (.notFound path)
  else if maxPath < path.bytes.length then .error (.unreadable path .nameTooLong)
  else
    let disk := if path.isAbsolute then d else empty
    match disk.follow [] (path.bytes.splitOn FilePath.slash) with
    | .error none => .error (.notFound path)
    | .error (some fault) => .error (.unreadable path fault)
    | .ok .directory => .error (.unreadable path .isDirectory)
    | .ok (.file content) =>
      match Text.Utf8.decode? content with
      | some text => .ok (String.ofList (dropByteOrderMark text))
      | none => .error (.unreadable path .notText)

end Disk

end HttpScript.Script
