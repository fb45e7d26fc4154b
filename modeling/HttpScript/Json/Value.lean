/-
Module: HttpScript.Json.Value
Purpose: JSON values.
Main exports: Value, Number, Value.member?, Value.item?, Value.ofMembers
-/
import HttpScript.Dict
import HttpScript.Json.Binary64

namespace HttpScript.Json

/-- A number.  Integers of up to 64 bits, signed or not, stay exact; every other number, and every
one written with a fraction or an exponent, is a binary floating-point number. -/
inductive Number where
  | integer (i : Int)
  | real (x : Binary64)
deriving Repr, DecidableEq, Inhabited

/-- A value.  The members of an object are sorted by name, each name once. -/
inductive Value where
  | null
  | bool (b : Bool)
  | number (n : Number)
  | string (s : String)
  | array (items : List Value)
  | object (members : List (String × Value))
deriving Repr, Inhabited

namespace Value

def nat (n : Nat) : Value :=
  .number (.integer n)

/-- The text, or `null` for none. -/
def optional : Option String → Value
  | some s => .string s
  | none => .null

/-- The object with the given members, a later one replacing an earlier one of the same name. -/
def ofMembers (members : List (String × Value)) : Value :=
  .object (Dict.ofList members).entries

/-- An object of texts. -/
def ofDict (d : Dict String) : Value :=
  .object (d.entries.map (fun e => (e.1, .string e.2)))

/-- The member of an object. -/
def member? (v : Value) (name : String) : Option Value :=
  match v with
  | .object members => Entries.get? name members
  | _ => none

/-- The item of an array. -/
def item? (v : Value) (index : Nat) : Option Value :=
  match v with
  | .array items => items[index]?
  | _ => none

end Value

end HttpScript.Json
