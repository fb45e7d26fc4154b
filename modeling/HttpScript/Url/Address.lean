/-
Module: HttpScript.Url.Address
Purpose: Internet addresses in the place of a host name.
Main exports: endsInNumber, ipv4?, ipv6?
-/
import HttpScript.Text.Digits

namespace HttpScript.Url.Address

open Text

/-! ### Four-part addresses -/

/-- A number that may be written in base ten, sixteen or eight. -/
def number? (s : List Char) : Option Nat :=
  match s with
  | [] => none
  | '0' :: 'x' :: rest => numeral? 16 rest
  | '0' :: 'X' :: rest => numeral? 16 rest
  | '0' :: d :: rest => numeral? 8 (d :: rest)
  | _ => numeral? 10 s

/-- The labels of a name; one dot may close it. -/
def labels (host : List Char) : List (List Char) :=
  let all := host.splitOn '.'
  if all.getLast? = some [] ∧ 1 < all.length then all.dropLast else all

/-- Whether a name has to be read as an address. -/
def endsInNumber (host : List Char) : Bool :=
  match (labels host).getLast? with
  | none => false
  | some last =>
    (!last.isEmpty && last.all Char.isDigit) || (last.head? == some '0' && (number? last).isSome)

/-- The four numbers of an address, of which the last part may stand for several. -/
def ipv4? (host : List Char) : Option String := do
  let parts ← (labels host).mapM number?
  let last ← parts.getLast?
  let first := parts.dropLast
  -- how much the last part may stand for
  let room := Nat.pow 256 (4 - first.length)
  if 3 < first.length ∨ first.any (255 < ·) ∨ room ≤ last then none
  else
    let n := first.foldl (fun n part => n * 256 + part) 0 * room + last
    some (".".intercalate
      ([n / 256 / 256 / 256, n / 256 / 256 % 256, n / 256 % 256, n % 256].map toString))

/-! ### Eight-part addresses -/

/-- A part: one to four hexadecimal digits. -/
def piece? (s : List Char) : Option Nat :=
  if s.isEmpty ∨ 4 < s.length then none else numeral? 16 s

/-- A decimal number below 256 without leading zeros. -/
def octet? (s : List Char) : Option Nat :=
  if s.isEmpty ∨ !s.all Char.isDigit ∨ (1 < s.length ∧ s.head? = some '0') then none
  else (numeral? 10 s).filter (· < 256)

/-- Parts between colons; the last one may be a four-part address, which fills two. -/
def pieces? : List (List Char) → Option (List Nat)
  | [] => some []
  | [last] =>
    if last.contains '.' then do
      let octets ← (last.splitOn '.').mapM octet?
      match octets with
      | [a, b, c, d] => some [a * 256 + b, c * 256 + d]
      | _ => none
    else (piece? last).map ([·])
  | s :: rest => do
    let n ← piece? s
    let more ← pieces? rest
    some (n :: more)

/-- The text on both sides of the first double colon. -/
def splitAtGap : List Char → Option (List Char × List Char)
  | [] => none
  | [_] => none
  | a :: b :: rest =>
    if a = ':' ∧ b = ':' then some ([], rest)
    else (splitAtGap (b :: rest)).map (fun p => (a :: p.1, p.2))

def side? (s : List Char) : Option (List Nat) :=
  if s.isEmpty then some [] else pieces? (s.splitOn ':')

/-- The eight parts of an address. -/
def parts? (s : List Char) : Option (List Nat) :=
  match splitAtGap s with
  | some (before, after) => do
    if before.contains '.' then none
    let front ← side? before
    let back ← side? after
    if front.length + back.length < 8 then
      some (front ++ List.replicate (8 - front.length - back.length) 0 ++ back)
    else none
  | none => do
    let all ← pieces? (s.splitOn ':')
    if all.length = 8 then some all else none

/-- The start and length of the longest run of zeros, the first of several. -/
def longestRun (parts : List Nat) : Nat × Nat :=
  (List.range parts.length).foldl
    (fun best i =>
      let run := ((parts.drop i).takeWhile (· == 0)).length
      if best.2 < run then (i, run) else best)
    (0, 0)

def hex (n : Nat) : String :=
  String.ofList (hexDigits n)

/-- The shortest text of an address: the longest run of at least two zeros is left out. -/
def ipv6Text (parts : List Nat) : String :=
  let (start, run) := longestRun parts
  if run < 2 then ":".intercalate (parts.map hex)
  else ":".intercalate ((parts.take start).map hex) ++ "::" ++
    ":".intercalate ((parts.drop (start + run)).map hex)

/-- The text of an address written between brackets. -/
def ipv6? (s : List Char) : Option String :=
  (parts? s).map (fun parts => "[" ++ ipv6Text parts ++ "]")

end HttpScript.Url.Address
