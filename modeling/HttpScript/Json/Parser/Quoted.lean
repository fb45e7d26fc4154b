/-
Module: HttpScript.Json.Parser.Quoted
Purpose: Reading the strings of a JSON text, with their escapes.
Main exports: Parser.string
-/
import HttpScript.Json.Fault
import HttpScript.Text.Digits

namespace HttpScript.Json.Parser

/-- The value of a byte that is a hexadecimal digit. -/
def hexByte? (b : UInt8) : Option Nat :=
  Text.hexValue? (Char.ofNat b.toNat)

/-- Four hexadecimal digits.  A fault lies behind the four bytes that should have been digits. -/
def hexEscape (s : List Char) : Except Fault (Taken Nat) :=
  match Text.Utf8.encode (s.take 4) with
  | a :: b :: c :: d :: _ =>
    match hexByte? a, hexByte? b, hexByte? c, hexByte? d with
    | some a, some b, some c, some d => .ok (((a * 16 + b) * 16 + c) * 16 + d, s.drop 4)
    | _, _, _, _ => .error ⟨.invalidEscape, s, 4⟩
  | _ => faultHere .eofInString []

/-- The second half of a character written as two escapes. -/
def lowSurrogate (high : Nat) (s : List Char) : Except Fault (Taken Char) :=
  match s with
  | [] => faultHere .eofInString []
  | ['\\'] => faultHere .eofInString []
  | '\\' :: 'u' :: rest => do
    let (low, rest) ← hexEscape rest
    if 0xDC00 ≤ low ∧ low ≤ 0xDFFF then
      .ok (Char.ofNat ((high - 0xD800) * 0x400 + (low - 0xDC00) + 0x10000), rest)
    else faultHere .loneSurrogate rest
  | '\\' :: rest => .error ⟨.endOfHexEscape, rest, 1⟩
  | _ => .error ⟨.endOfHexEscape, s, 1⟩

/-- What follows the letter of a hexadecimal escape. -/
def unicodeEscape (s : List Char) : Except Fault (Taken Char) := do
  let (n, rest) ← hexEscape s
  if 0xDC00 ≤ n ∧ n ≤ 0xDFFF then faultHere .loneSurrogate rest
  else if 0xD800 ≤ n ∧ n ≤ 0xDBFF then lowSurrogate n rest
  else .ok (Char.ofNat n, rest)

/-- What follows a backslash. -/
def escapeSequence (s : List Char) : Except Fault (Taken Char) :=
  match s with
  | [] => faultHere .eofInString []
  | c :: rest =>
    match c with
    | '"' => .ok ('"', rest)
    | '\\' => .ok ('\\', rest)
    | '/' => .ok ('/', rest)
    | 'b' => .ok ('\x08', rest)
    | 'f' => .ok ('\x0c', rest)
    | 'n' => .ok ('\n', rest)
    | 'r' => .ok ('\r', rest)
    | 't' => .ok ('\t', rest)
    | 'u' => unicodeEscape rest
    | _ => .error ⟨.invalidEscape, s, 1⟩

/-- The rest of a string of which the opening quote has been read.  Each round takes at least one
character, so a text has fewer rounds than characters. -/
def stringBody : Nat → List Char → Except Fault (Taken (List Char))
  | 0, s => faultHere .eofInString s
  | _, [] => faultHere .eofInString []
  | fuel + 1, c :: rest =>
    if c = '"' then .ok ([], rest)
    else if c = '\\' then do
      let (e, rest) ← escapeSequence rest
      let (more, rest) ← stringBody fuel rest
      .ok (e :: more, rest)
    else if c.toNat < 0x20 then .error ⟨.controlCharacter, c :: rest, 1⟩
    else do
      let (more, rest) ← stringBody fuel rest
      .ok (c :: more, rest)

def string (s : List Char) : Except Fault (Taken String) := do
  let (chars, rest) ← stringBody (s.length + 1) s
  .ok (String.ofList chars, rest)

end HttpScript.Json.Parser
