/-
Module: HttpScript.Json.Fault
Purpose: What is wrong with a text that is not JSON, and where.  Places are counted in bytes of
  UTF-8, because that is how the message reports them.
Main exports: FaultKind, Fault, Fault.place, Fault.message, Taken
-/
import HttpScript.Text.Utf8

namespace HttpScript.Json

/-- What can be wrong with a text that is not JSON. -/
inductive FaultKind where
  | eofInList
  | eofInObject
  | eofInString
  | eofInValue
  | expectedColon
  | expectedListCommaOrEnd
  | expectedObjectCommaOrEnd
  | expectedIdent
  | expectedValue
  | invalidEscape
  | invalidNumber
  | numberOutOfRange
  | controlCharacter
  | keyMustBeString
  | loneSurrogate
  | trailingComma
  | trailingCharacters
  | endOfHexEscape
  | recursionLimit
deriving Repr, DecidableEq

def FaultKind.message : FaultKind → String
  | .eofInList => "EOF while parsing a list"
  | .eofInObject => "EOF while parsing an object"
  | .eofInString => "EOF while parsing a string"
  | .eofInValue => "EOF while parsing a value"
  | .expectedColon => "expected `:`"
  | .expectedListCommaOrEnd => "expected `,` or `]`"
  | .expectedObjectCommaOrEnd => "expected `,` or `\x7d`"
  | .expectedIdent => "expected ident"
  | .expectedValue => "expected value"
  | .invalidEscape => "invalid escape"
  | .invalidNumber => "invalid number"
  | .numberOutOfRange => "number out of range"
  | .controlCharacter => "control character (\\u0000-\\u001F) found while parsing a string"
  | .keyMustBeString => "key must be a string"
  | .loneSurrogate => "lone leading surrogate in hex escape"
  | .trailingComma => "trailing comma"
  | .trailingCharacters => "trailing characters"
  | .endOfHexEscape => "unexpected end of hex escape"
  | .recursionLimit => "recursion limit exceeded"

/-- A fault `ahead` bytes into what is left of the text. -/
structure Fault where
  kind : FaultKind
  rest : List Char
  ahead : Nat
deriving Repr

/-- Something read off the front of a text, and what is left of the text. -/
abbrev Taken (α : Type) := α × List Char

/-- A fault at the end of what has been read. -/
def faultHere {α : Type} (kind : FaultKind) (rest : List Char) : Except Fault (Taken α) :=
  .error ⟨kind, rest, 0⟩

/-- A fault at the next byte, if there is one. -/
def faultAtNext {α : Type} (kind : FaultKind) (rest : List Char) : Except Fault (Taken α) :=
  .error ⟨kind, rest, if rest.isEmpty then 0 else 1⟩

/-- The line and column of a fault: lines from one, the column the number of bytes since the last
line feed. -/
def Fault.place (f : Fault) (text : List Char) : Nat × Nat :=
  let bytes := Text.Utf8.encode text
  let upTo := bytes.take (bytes.length - (Text.Utf8.encode f.rest).length + f.ahead)
  (upTo.count 10 + 1, (upTo.reverse.takeWhile (· ≠ 10)).length)

def Fault.message (f : Fault) (text : List Char) : String :=
  let (line, column) := f.place text
  s!"{f.kind.message} at line {line} column {column}"

end HttpScript.Json
