/-
Module: HttpScript.Json.Parser
Purpose: Reading JSON text.  Nesting is limited, so a text of brackets cannot ask for a deep
  recursion.
Main exports: parse
-/
import HttpScript.Json.Parser.Number
import HttpScript.Json.Parser.Quoted

namespace HttpScript.Json

namespace Parser

/-! ### Blanks and words -/

def isSpace (c : Char) : Bool :=
  c == ' ' || c == '\n' || c == '\t' || c == '\r'

def skipSpace (s : List Char) : List Char :=
  s.dropWhile isSpace

/-- The rest of a word of which the first letter has been read. -/
def ident (value : Value) : List Char → List Char → Except Fault (Taken Value)
  | [], s => .ok (value, s)
  | _ :: _, [] => faultHere .eofInValue []
  | expected :: more, c :: rest =>
    if c = expected then ident value more rest else .error ⟨.expectedIdent, c :: rest, 1⟩

/-! ### Arrays and objects -/

/-- Items after the first, up to the closing bracket.  Each round takes at least a comma. -/
def items (element : List Char → Except Fault (Taken Value)) :
    Nat → List Char → Except Fault (Taken (List Value))
  | 0, s => faultHere .eofInList s
  | fuel + 1, s =>
    match skipSpace s with
    | [] => faultAtNext .eofInList []
    | ']' :: rest => .ok ([], rest)
    | ',' :: rest =>
      match skipSpace rest with
      | [] => faultAtNext .eofInValue []
      | ']' :: rest => faultAtNext .trailingComma (']' :: rest)
      | rest => do
        let (v, rest) ← element rest
        let (more, rest) ← items element fuel rest
        .ok (v :: more, rest)
    | rest => faultAtNext .expectedListCommaOrEnd rest

/-- The rest of an array of which the opening bracket has been read. -/
def array (element : List Char → Except Fault (Taken Value)) (s : List Char) :
    Except Fault (Taken (List Value)) :=
  match skipSpace s with
  | [] => faultAtNext .eofInList []
  | ']' :: rest => .ok ([], rest)
  | rest => do
    let (v, rest) ← element rest
    let (more, rest) ← items element (rest.length + 1) rest
    .ok (v :: more, rest)

/-- A member, from the quote that opens its name. -/
def member (element : List Char → Except Fault (Taken Value)) (s : List Char) :
    Except Fault (Taken (String × Value)) := do
  let (name, rest) ← string (s.drop 1)
  match skipSpace rest with
  | [] => faultAtNext .eofInObject []
  | ':' :: rest => do
    let (v, rest) ← element rest
    .ok ((name, v), rest)
  | rest => faultAtNext .expectedColon rest

/-- Members after the first, up to the closing brace.  Each round takes at least a comma. -/
def members (element : List Char → Except Fault (Taken Value)) :
    Nat → List Char → Except Fault (Taken (List (String × Value)))
  | 0, s => faultHere .eofInObject s
  | fuel + 1, s =>
    match skipSpace s with
    | [] => faultAtNext .eofInObject []
    | '\x7d' :: rest => .ok ([], rest)
    | ',' :: rest =>
      match skipSpace rest with
      | [] => faultAtNext .eofInValue []
      | '\x7d' :: rest => faultAtNext .trailingComma ('\x7d' :: rest)
      | '"' :: rest => do
        let (m, rest) ← member element ('"' :: rest)
        let (more, rest) ← members element fuel rest
        .ok (m :: more, rest)
      | rest => faultAtNext .keyMustBeString rest
    | rest => faultAtNext .expectedObjectCommaOrEnd rest

/-- The rest of an object of which the opening brace has been read. -/
def object (element : List Char → Except Fault (Taken Value)) (s : List Char) :
    Except Fault (Taken (List (String × Value))) :=
  match skipSpace s with
  | [] => faultAtNext .eofInObject []
  | '\x7d' :: rest => .ok ([], rest)
  | '"' :: rest => do
    let (m, rest) ← member element ('"' :: rest)
    let (more, rest) ← members element (rest.length + 1) rest
    .ok (m :: more, rest)
  | rest => faultAtNext .keyMustBeString rest

/-- A value with at most `depth` brackets open around anything in it. -/
def value : Nat → List Char → Except Fault (Taken Value)
  | depth, s =>
    match skipSpace s with
    | [] => faultAtNext .eofInValue []
    | 'n' :: rest => ident .null ['u', 'l', 'l'] rest
    | 't' :: rest => ident (.bool true) ['r', 'u', 'e'] rest
    | 'f' :: rest => ident (.bool false) ['a', 'l', 's', 'e'] rest
    | '-' :: rest => (number true rest).map (fun r => (.number r.1, r.2))
    | '"' :: rest => (string rest).map (fun r => (.string r.1, r.2))
    | '[' :: rest =>
      match depth with
      | 0 => faultAtNext .recursionLimit ('[' :: rest)
      | depth + 1 => (array (value depth) rest).map (fun r => (.array r.1, r.2))
    | '\x7b' :: rest =>
      match depth with
      | 0 => faultAtNext .recursionLimit ('\x7b' :: rest)
      | depth + 1 => (object (value depth) rest).map (fun r => (.ofMembers r.1, r.2))
    | c :: rest =>
      if c.isDigit then (number false (c :: rest)).map (fun r => (.number r.1, r.2))
      else faultAtNext .expectedValue (c :: rest)

end Parser

/-- How many brackets may be open at once. -/
def maxDepth : Nat := 127

/-- The value of a JSON text. -/
def parse (text : List Char) : Except Fault Value := do
  let (v, rest) ← Parser.value maxDepth text
  match Parser.skipSpace rest with
  | [] => .ok v
  | rest => .error ⟨.trailingCharacters, rest, 1⟩

end HttpScript.Json
