/-
Module: HttpScript.Diagnostic.Basic
Purpose: Complaints about a document.
Main exports: Severity, Diagnostic, Diagnostic.toJson, Diagnostic.ofJson
-/
import HttpScript.Json.Decode
import HttpScript.Position

namespace HttpScript

open Json

inductive Severity where
  | error
  | warning
  | info
deriving Repr, DecidableEq

/-- A complaint about a range of a document. -/
structure Diagnostic where
  range : Range
  severity : Severity
  message : String
  /-- The kind of complaint. -/
  code : Option String
  /-- What could be done about it. -/
  suggestion : Option String
deriving Repr, DecidableEq

/-! ### As JSON -/

namespace Position

def toJson (p : Position) : Value :=
  .ofMembers [("line", .nat p.line), ("character", .nat p.character)]

def record : Record Position :=
  Record.pure Position.mk
    |>.field (.required "line" Decode.count)
    |>.field (.required "character" Decode.count)

def ofJson : Value → Except DecodeError Position :=
  record.decode "Position"

end Position

namespace Range

def toJson (r : Range) : Value :=
  .ofMembers [("start", r.start.toJson), ("end", r.stop.toJson)]

def record : Record Range :=
  Record.pure Range.mk
    |>.field (.required "start" Position.ofJson)
    |>.field (.required "end" Position.ofJson)

def ofJson : Value → Except DecodeError Range :=
  record.decode "Range"

end Range

namespace Severity

def all : List Severity := [.error, .warning, .info]

def name : Severity → String
  | .error => "Error"
  | .warning => "Warning"
  | .info => "Info"

def toJson (s : Severity) : Value :=
  .string s.name

def ofJson : Value → Except DecodeError Severity :=
  Decode.variant (all.map (fun s => (s.name, s)))

end Severity

namespace Diagnostic

def toJson (d : Diagnostic) : Value :=
  .ofMembers [
    ("range", d.range.toJson),
    ("severity", d.severity.toJson),
    ("message", .string d.message),
    ("code", .optional d.code),
    ("suggestion", .optional d.suggestion)]

def record : Record Diagnostic :=
  Record.pure Diagnostic.mk
    |>.field (.required "range" Range.ofJson)
    |>.field (.required "severity" Severity.ofJson)
    |>.field (.required "message" Decode.text)
    |>.field (.optional "code" Decode.text)
    |>.field (.optional "suggestion" Decode.text)

def ofJson : Value → Except DecodeError Diagnostic :=
  record.decode "Diagnostic"

end Diagnostic

end HttpScript
