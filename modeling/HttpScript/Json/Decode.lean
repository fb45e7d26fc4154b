/-
Module: HttpScript.Json.Decode
Purpose: Reading typed data out of JSON values, with the reason when a value does not fit.  A
  record is read from an object, where the order of members does not matter and unknown members are
  ignored, or from an array of its fields in order.
Main exports: DecodeError, Decode.text, Decode.natural, Decode.variant, Field, Record,
  Record.decode
-/
import HttpScript.Json.Printer
import HttpScript.Text.Quoted

namespace HttpScript.Json

/-- Why a value does not fit. -/
inductive DecodeError where
  /-- A value of another type. -/
  | wrongType (found expected : String)
  /-- A value of the right type that is out of bounds. -/
  | wrongValue (found expected : String)
  /-- A text that does not follow the rules for texts of its kind. -/
  | malformed (fault text : String)
  /-- A name that is none of the alternatives. -/
  | unknownVariant (name : String) (alternatives : List String)
  /-- A value that fits none of the types a union allows. -/
  | noVariant (union : String)
  /-- An array that is too short for a record. -/
  | tooShort (length : Nat) (expected : String)
  /-- An array that goes on after the last field of a record. -/
  | tooLong (length fields : Nat)
  /-- The same in a record whose members stand among those of another. -/
  | tooLongInPart (length fields : Nat)
  /-- An object without a member it needs. -/
  | missingField (name : String)
deriving Repr, DecidableEq

/-- How a message counts elements. -/
def elementCount (n : Nat) : String :=
  if n = 1 then "1 element" else s!"{n} elements"

/-- What a message says of the names that would have been right. -/
def alternativesText (names : List String) : String :=
  match names.map (fun n => s!"`{n}`") with
  | [only] => only
  | [one, other] => s!"{one} or {other}"
  | quoted => "one of " ++ ", ".intercalate quoted

def DecodeError.message : DecodeError → String
  | .wrongType found expected => s!"invalid type: {found}, expected {expected}"
  | .wrongValue found expected => s!"invalid value: {found}, expected {expected}"
  | .malformed fault text => s!"{fault}: {Text.quoted text}"
  | .unknownVariant name alternatives =>
    s!"unknown variant `{name}`, expected {alternativesText alternatives}"
  | .noVariant union => s!"data did not match any variant of untagged enum {union}"
  | .tooShort length expected => s!"invalid length {length}, expected {expected}"
  | .tooLong length _ => s!"invalid length {length}, expected fewer elements in array"
  | .tooLongInPart length fields =>
    s!"invalid length {length}, expected {elementCount fields} in sequence"
  | .missingField name => s!"missing field `{name}`"

/-- The fault as it is told when the record that has it is part of another. -/
def DecodeError.inPart : DecodeError → DecodeError
  | .tooLong length fields => .tooLongInPart length fields
  | e => e

/-- What a message calls a value. -/
def Value.described : Value → String
  | .null => "null"
  | .bool b => s!"boolean `{b}`"
  | .number (.integer i) => s!"integer `{i}`"
  | .number (.real x) => s!"floating point `{x.text}`"
  | .string s => "string " ++ Text.quoted s
  | .array _ => "sequence"
  | .object _ => "map"

namespace Decode

/-- Fails because the value is of another type than the expected one. -/
def wrongType {α : Type} (v : Value) (expected : String) : Except DecodeError α :=
  .error (.wrongType v.described expected)

def text : Value → Except DecodeError String
  | .string s => .ok s
  | v => wrongType v "a string"

def boolean : Value → Except DecodeError Bool
  | .bool b => .ok b
  | v => wrongType v "a boolean"

/-- An integer from `low` to `high`, the bounds of the named kind of integer. -/
def integer (kind : String) (low high : Int) : Value → Except DecodeError Int
  | .number (.integer i) =>
    if low ≤ i ∧ i ≤ high then .ok i
    else .error (.wrongValue (Value.number (.integer i)).described kind)
  | v => wrongType v kind

/-- A natural number below `size`, the bound of the named kind of integer. -/
def natural (kind : String) (size : Nat) (v : Value) : Except DecodeError Nat :=
  (integer kind 0 (size - 1) v).map Int.toNat

/-- An integer of 32 bits. -/
def int32 : Value → Except DecodeError Int :=
  integer "i32" Int32.minValue.toInt Int32.maxValue.toInt

/-- A natural number of 32 bits. -/
def nat32 : Value → Except DecodeError Nat :=
  natural "u32" UInt32.size

/-- A count, a line or a column: any natural number.  The numbers of a text that are too large to
stay exact are no integers any more. -/
def count : Value → Except DecodeError Nat
  | .number (.integer i) =>
    if 0 ≤ i then .ok i.toNat
    else .error (.wrongValue (Value.number (.integer i)).described "usize")
  | v => wrongType v "usize"

/-- An object of texts. -/
def dictionary : Value → Except DecodeError (Dict String)
  | .object members => do
    let bindings ← members.mapM (fun m => (text m.2).map (fun s => (m.1, s)))
    .ok (Dict.ofList bindings)
  | v => wrongType v "a map"

def list {α : Type} (item : Value → Except DecodeError α) : Value → Except DecodeError (List α)
  | .array items => items.mapM item
  | v => wrongType v "a sequence"

/-- `null` stands for none. -/
def optional {α : Type} (some? : Value → Except DecodeError α) :
    Value → Except DecodeError (Option α)
  | .null => .ok none
  | v => (some? v).map some

/-- One of a few names, each standing for a value.  A name may also be the only member of an object,
with the value `null`. -/
def variant {α : Type} (alternatives : List (String × α)) (v : Value) : Except DecodeError α :=
  match v with
  | .string s => named s
  | .object [(s, payload)] => do
    let a ← named s
    match payload with
    | .null => .ok a
    | _ => wrongType payload "unit"
  | .object _ => .error (.wrongValue v.described "map with a single key")
  | _ => wrongType v "string or map"
where
  /-- The value a name stands for. -/
  named (s : String) : Except DecodeError α :=
    match alternatives.lookup s with
    | some a => .ok a
    | none => .error (.unknownVariant s (alternatives.map (·.1)))

end Decode

/-- A field of a record, and the value that stands in for it when an object has no such member or an
array ends before it. -/
structure Field (α : Type) where
  name : String
  read : Value → Except DecodeError α
  ifAbsent : Option α
  ifShort : Option α

namespace Field

variable {α : Type}

/-- A field that has to be there. -/
def required (name : String) (read : Value → Except DecodeError α) : Field α :=
  ⟨name, read, none, none⟩

/-- A field whose value may be `null` or, in an object, missing. -/
def optional (name : String) (read : Value → Except DecodeError α) : Field (Option α) :=
  ⟨name, Decode.optional read, some none, none⟩

/-- A field with a default. -/
def withDefault (name : String) (read : Value → Except DecodeError α) (default : α) : Field α :=
  ⟨name, read, some default, some default⟩

end Field

/-- A way to read the fields of a record.  `checks` is what the members of an object have to pass,
in the order in which they stand; only then is a missing one complained about. -/
structure Record (α : Type) where
  checks : List (String × (Value → Except DecodeError Unit))
  ofMembers : List (String × Value) → Except DecodeError α
  ofItems : (expected : String) → List Value → Except DecodeError (α × List Value)

namespace Record

variable {α β : Type}

/-- The record without fields. -/
def pure (a : α) : Record α :=
  ⟨[], fun _ => .ok a, fun _ items => .ok (a, items)⟩

/-- The same fields, read to something else. -/
def map (f : α → β) (r : Record α) : Record β where
  checks := r.checks
  ofMembers members := (r.ofMembers members).map f
  ofItems expected items := (r.ofItems expected items).map (fun (a, rest) => (f a, rest))

/-- One more field, after those of `fields`. -/
def field (fields : Record (α → β)) (f : Field α) : Record β where
  checks := fields.checks ++ [(f.name, fun v => (f.read v).map (fun _ => ()))]
  ofMembers members := do
    let build ← fields.ofMembers members
    match Entries.get? f.name members, f.ifAbsent with
    | some v, _ => (f.read v).map build
    | none, some a => .ok (build a)
    | none, none => .error (.missingField f.name)
  ofItems expected items := do
    let (build, items) ← fields.ofItems expected items
    match items, f.ifShort with
    | v :: rest, _ => (f.read v).map (fun a => (build a, rest))
    | [], some a => .ok (build a, [])
    | [], none => .error (.tooShort fields.checks.length expected)

/-- The first fault among the members that are fields. -/
def check (r : Record α) (members : List (String × Value)) : Except DecodeError Unit :=
  members.forM (fun m => match r.checks.lookup m.1 with
    | some accepts => accepts m.2
    | none => .ok ())

/-- What the members of an object say. -/
def ofObject (r : Record α) (members : List (String × Value)) : Except DecodeError α := do
  r.check members
  r.ofMembers members

/-- Reads the record called `name`. -/
def decode (name : String) (r : Record α) (v : Value) : Except DecodeError α :=
  match v with
  | .object members => r.ofObject members
  | .array items => do
    let fields := r.checks.length
    let (a, rest) ← r.ofItems s!"struct {name} with {elementCount fields}" items
    if rest.isEmpty then .ok a else .error (.tooLong items.length fields)
  | _ => Decode.wrongType v s!"struct {name}"

/-- Reads the record called `name`, among whose members are those of other parts.  It has to be an
object, and its own fields are looked at before the parts. -/
def decodeWith (name : String) (r : Record α)
    (parts : List (List (String × Value) → Except DecodeError Unit)) (v : Value) :
    Except DecodeError α :=
  match v with
  | .object members => do
    let a ← r.ofObject members
    parts.forM (fun part => (part members).mapError DecodeError.inPart)
    return a
  | _ => Decode.wrongType v s!"struct {name}"

end Record

end HttpScript.Json
