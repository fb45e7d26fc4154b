/-
Module: HttpScript.Script.Line
Purpose: The forms a single line of a script can have: an include directive, a file variable, a
  comment with or without a request's name, and a boundary between requests.
Main exports: NumberedLine, numberedLines, IncludeLine, includeLine?, VariableLine, variableLine?,
  isComment, requestName?, isBoundary
-/
import HttpScript.Text.Blank
import HttpScript.Text.Lines
import HttpScript.Text.WordChar

namespace HttpScript.Script

/-- A line with its number. -/
abbrev NumberedLine := Nat × List Char

/-- The lines of a text, numbered from `first` on. -/
def numberedLines (first : Nat) (text : List Char) : List NumberedLine :=
  ((Text.lines text).zipIdx first).map Prod.swap

/-! ### Directives -/

/-- `@@include`, blanks and a path. -/
structure IncludeLine where
  /-- Everything before the path. -/
  lead : List Char
  path : List Char
deriving Repr, DecidableEq

def includeMark : List Char :=
  "@@include".toList

/-- The path is what follows the mark without the blanks around it.  When only blanks follow, and
more than one, the last of them is taken for the path. -/
def includeLine? (line : List Char) : Option IncludeLine :=
  match Text.dropLead? includeMark line with
  | none => none
  | some after =>
    let blanks := after.takeWhile Text.isBlank
    let rest := after.dropWhile Text.isBlank
    if blanks.isEmpty then none
    else if rest.isEmpty then
      match blanks.dropLast, blanks.getLast? with
      | [], _ => none
      | _, none => none
      | most, some last => some ⟨includeMark ++ most, [last]⟩
    else some ⟨includeMark ++ blanks, Text.trimRight rest⟩

/-- `@key = value`. -/
structure VariableLine where
  key : List Char
  value : List Char
deriving Repr, DecidableEq

/-- A character of a variable's key. -/
def isKeyChar (c : Char) : Bool :=
  !Text.isBlank c && c != '='

/-- After perhaps some blanks an at-sign, the key and an equals sign, with blanks allowed after the
key and around the value. -/
def variableLine? (line : List Char) : Option VariableLine :=
  match Text.trimLeft line with
  | '@' :: rest =>
    let key := rest.takeWhile isKeyChar
    match Text.trimLeft (rest.dropWhile isKeyChar) with
    | '=' :: value => if key.isEmpty then none else some ⟨key, Text.trim value⟩
    | _ => none
  | _ => none

/-! ### Comments and boundaries -/

/-- A line that begins, after perhaps some blanks, with a hash or two slashes. -/
def isComment (line : List Char) : Bool :=
  match Text.trimLeft line with
  | '#' :: _ => true
  | '/' :: '/' :: _ => true
  | _ => false

/-- What follows the marks of a comment: any number of hashes, or two or more slashes. -/
def commentText? (line : List Char) : Option (List Char) :=
  match Text.trimLeft line with
  | '#' :: rest => some (rest.dropWhile (· == '#'))
  | '/' :: '/' :: rest => some (rest.dropWhile (· == '/'))
  | _ => none

/-- The name that a comment gives to a request: `@name`, blanks and a word alone on the line. -/
def requestName? (line : List Char) : Option (List Char) :=
  match (commentText? line).bind (fun t => Text.dropLead? "@name".toList (Text.trimLeft t)) with
  | none => none
  | some after =>
    let name := Text.trim after
    if (after.head?.map Text.isBlank).getD false && !name.isEmpty && name.all Text.isWordChar then
      some name
    else none

/-- A line that no request reaches across: one that begins with an at-sign or three hashes. -/
def isBoundary (line : List Char) : Bool :=
  ['@'].isPrefixOf line || ['#', '#', '#'].isPrefixOf line

end HttpScript.Script
