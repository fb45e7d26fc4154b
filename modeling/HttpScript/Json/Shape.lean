/-
Module: HttpScript.Json.Shape
Purpose: What has to hold of values whose content is not used: the rules of reading without a
  result.
Main exports: Shape, Shape.record, Shape.recordWith, Shape.union
-/
import HttpScript.Json.Decode

namespace HttpScript.Json

/-- What has to hold of a value, with the reason when it does not. -/
abbrev Shape := Value → Except DecodeError Unit

namespace Shape

/-- A value that can be read. -/
def readable {α : Type} (read : Value → Except DecodeError α) : Shape :=
  fun v => (read v).map (fun _ => ())

def any : Shape := fun _ => .ok ()

def text : Shape := readable Decode.text

def boolean : Shape := readable Decode.boolean

/-- An integer of 32 bits. -/
def integer : Shape := readable Decode.int32

/-- A natural number of 32 bits. -/
def natural : Shape := readable Decode.nat32

/-- A number of any kind. -/
def number : Shape
  | .number _ => .ok ()
  | v => Decode.wrongType v "f32"

def listOf (item : Shape) : Shape := readable (Decode.list item)

/-- One of a few names. -/
def name (alternatives : List String) : Shape :=
  readable (Decode.variant (alternatives.map (fun a => (a, ()))))

/-- An object whose members are all alike. -/
def mapOf (expected : String) (key : String → Except DecodeError Unit) (item : Shape) : Shape
  | .object members => members.forM (fun m => do key m.1; item m.2)
  | v => Decode.wrongType v expected

/-- A value of one of a few shapes. -/
def union (name : String) (alternatives : List Shape) (v : Value) : Except DecodeError Unit :=
  if alternatives.any (fun shape => (shape v).isOk) then .ok () else .error (.noVariant name)

/-! ### Records -/

/-- A field of which only the shape matters. -/
abbrev Member := Field Unit

/-- A field that has to be there. -/
def has (name : String) (shape : Shape) : Member :=
  .required name shape

/-- A field that may be missing or `null`. -/
def may (name : String) (shape : Shape) : Member :=
  ⟨name, readable (Decode.optional shape), some (), none⟩

/-- A field that may even be missing at the end of an array, but not `null`. -/
def mayOmit (name : String) (shape : Shape) : Member :=
  .withDefault name shape ()

/-- Fields of truth values that may all be missing. -/
def mayFlags (names : List String) : List (Member) :=
  names.map (may · boolean)

/-- A record with the given fields. -/
def fields (fs : List (Member)) : Record Unit :=
  fs.foldl (fun r f => (r.map (fun _ _ => ())).field f) (Record.pure ())

/-- The record called `name`. -/
def record (name : String) (fs : List (Member)) : Shape :=
  (fields fs).decode name

/-- The record called `name`, among whose members are those of other parts. -/
def recordWith (name : String) (fs : List (Member)) (parts : List (List (Member))) :
    Shape :=
  (fields fs).decodeWith name (parts.map (fun part => (fields part).ofObject))

end Shape

end HttpScript.Json
