/-
Module: HttpScript.Json.Printer
Purpose: The compact text of a JSON value.
Main exports: Value.text, Number.text, Binary64.text
-/
import HttpScript.Json.Shortest
import HttpScript.Json.Value

namespace HttpScript.Json

/-- The digits of a positive decimal with the point after `point` of them.  Numbers from `10 ^ 16`
up and below `10 ^ -5` are written with an exponent, all others positionally with a fraction. -/
def Decimal.layout (digits : List Char) (point : Int) : List Char :=
  let n : Int := digits.length
  if 0 < point ∧ point ≤ 16 then
    if n ≤ point then digits ++ List.replicate (point - n).toNat '0' ++ ['.', '0']
    else digits.take point.toNat ++ '.' :: digits.drop point.toNat
  else if -5 < point ∧ point ≤ 0 then
    ['0', '.'] ++ List.replicate (-point).toNat '0' ++ digits
  else
    let exponent := point - 1
    let mark := if exponent < 0 then ['e', '-'] else ['e', '+']
    let fraction := match digits.drop 1 with
      | [] => []
      | rest => '.' :: rest
    digits.take 1 ++ fraction ++ mark ++ Nat.toDigits 10 exponent.natAbs

/-- The shortest text that reads back as the number, always with a fraction or an exponent. -/
def Binary64.text (x : Binary64) : String :=
  let magnitude :=
    if x.isZero then ['0', '.', '0']
    else
      let d := x.shortest
      let digits := Nat.toDigits 10 d.digits
      Decimal.layout digits (digits.length + d.exponent)
  String.ofList (if x.negative then '-' :: magnitude else magnitude)

def Number.text : Number → String
  | .integer i => toString i
  | .real x => x.text

/-- One character of a string: only quotes, backslashes and control characters are escaped. -/
def escapeChar (c : Char) : List Char :=
  if c = '"' then ['\\', '"']
  else if c = '\\' then ['\\', '\\']
  else if c = '\x08' then ['\\', 'b']
  else if c = '\t' then ['\\', 't']
  else if c = '\n' then ['\\', 'n']
  else if c = '\x0c' then ['\\', 'f']
  else if c = '\r' then ['\\', 'r']
  else if c.toNat < 0x20 then
    ['\\', 'u', '0', '0', Nat.digitChar (c.toNat / 16), Nat.digitChar (c.toNat % 16)]
  else [c]

def escape (s : String) : String :=
  String.ofList ('"' :: (s.toList.flatMap escapeChar ++ ['"']))

mutual

/-- The compact text: no blanks, members in the order of their names. -/
def Value.text : Value → String
  | .null => "null"
  | .bool true => "true"
  | .bool false => "false"
  | .number n => n.text
  | .string s => escape s
  | .array items => "[" ++ Value.itemsText items ++ "]"
  | .object members => "\x7b" ++ Value.membersText members ++ "\x7d"

/-- Items with commas between them. -/
def Value.itemsText : List Value → String
  | [] => ""
  | [v] => v.text
  | v :: w :: rest => v.text ++ "," ++ Value.itemsText (w :: rest)

/-- Members with commas between them. -/
def Value.membersText : List (String × Value) → String
  | [] => ""
  | [(k, v)] => escape k ++ ":" ++ v.text
  | (k, v) :: m :: rest => escape k ++ ":" ++ v.text ++ "," ++ Value.membersText (m :: rest)

end

end HttpScript.Json
