/-
Module: HttpScript.Url.FileUrl
Purpose: The URL of a file and the file of a URL.
Main exports: Url.ofFilePath?, Url.toFilePath?
-/
import HttpScript.FilePath
import HttpScript.Url.Basic

namespace HttpScript.Url

/-- The segment for one component of a path. -/
def segmentOf (c : Component) : String :=
  String.ofList (Percent.encode Percent.fileName c.bytes)

/-- The URL of a file named by an absolute path.  Only the components count; the root directory has
one empty segment. -/
def ofFilePath? (p : FilePath) : Option Url :=
  if p.isAbsolute then
    let segments := match p.components with
      | [] => [""]
      | components => components.map segmentOf
    some ⟨"file", some ⟨"", "", none⟩, .segments segments, none, none⟩
  else none

/-- The bytes of a path with the given segments. -/
def pathBytes (segments : List String) : List UInt8 :=
  segments.flatMap (fun s => FilePath.slash :: Percent.decode s.toList)

/-- Whether a path ends in a drive letter, which stands for the root directory of that drive. -/
def endsInDrive (bytes : List UInt8) : Bool :=
  match bytes.reverse with
  | mark :: letter :: _ :: _ =>
    (mark == 0x3A || mark == 0x7C) && (Char.ofNat letter.toNat).isAlpha
  | _ => false

/-- The path of the file a URL names, when it names one of this machine. -/
def toFilePath? (u : Url) : Option FilePath :=
  match u.scheme, u.authority, u.path with
  | "file", some ⟨_, "", _⟩, .segments segments =>
    let bytes := pathBytes segments
    some ⟨if endsInDrive bytes then bytes ++ [FilePath.slash] else bytes⟩
  | _, _, _ => none

end HttpScript.Url
