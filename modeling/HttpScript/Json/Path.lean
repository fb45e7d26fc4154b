/-
Module: HttpScript.Json.Path
Purpose: Paths into JSON values, written as a dollar sign followed by names and indices.
Main exports: Step, Step.ofPath?, Step.take?, Value.follow?
-/
import HttpScript.Json.Value
import HttpScript.Text.Blank
import HttpScript.Text.Digits

namespace HttpScript.Json

/-- One step into a value. -/
inductive Step where
  | field (name : String)
  | index (n : Nat)
deriving Repr, DecidableEq

namespace Step

/-- The largest index. -/
def maxIndex : Nat := UInt64.size - 1

/-- A decimal index, perhaps with a plus sign. -/
def index? (s : List Char) : Option Nat :=
  let digits := match s with
    | '+' :: rest => rest
    | _ => s
  if digits.isEmpty then none else (Text.numeral? 10 digits).filter (· ≤ maxIndex)

/-- A text between two quotes of one kind. -/
def unquote? (quote : Char) (s : List Char) : Option (List Char) :=
  (Text.dropLead? [quote] s).bind (Text.dropTail? [quote])

/-- What stands between brackets: an index, or a name in quotes. -/
def bracketed? (inner : List Char) : Option Step :=
  let inner := Text.trim inner
  match index? inner with
  | some n => some (.index n)
  | none => ((unquote? '\'' inner).orElse (fun _ => unquote? '"' inner)).map
    (fun name => .field (String.ofList name))

/-- The step of a name that is complete, if it has any characters. -/
def named (name : List Char) : List Step :=
  if name.isEmpty then [] else [.field (String.ofList name)]

/-- The steps of a path, of which `name` is the part of a name that has been read.  A dot ends a
name, and where there is none to end, it has to be followed by one. -/
def steps (name : List Char) (s : List Char) : Option (List Step) :=
  match s with
  | [] => some (named name)
  | '.' :: rest =>
    if name.isEmpty ∧ (rest.isEmpty ∨ rest.head? = some '.' ∨ rest.head? = some '[') then none
    else (steps [] rest).map (named name ++ ·)
  | '[' :: rest =>
    match _h : rest.dropWhile (· ≠ ']') with
    | [] => none
    | _ :: after => do
      let step ← bracketed? (rest.takeWhile (· ≠ ']'))
      let more ← steps [] after
      some (named name ++ step :: more)
  | ']' :: _ => none
  | c :: rest => steps (name ++ [c]) rest
termination_by s.length
decreasing_by
  · simp
  · have := (List.dropWhile_sublist (· ≠ ']') (l := rest)).length_le
    rw [_h] at this
    simp only [List.length_cons] at this ⊢
    omega
  · simp

/-- The steps of a path that starts at the root. -/
def ofPath? (path : List Char) : Option (List Step) :=
  match Text.trim path with
  | '$' :: rest => steps [] rest
  | _ => none

/-- Where a step leads: names into objects, indices into arrays. -/
def take? (v : Value) : Step → Option Value
  | .field name => v.member? name
  | .index n => v.item? n

end Step

/-- Where some steps lead. -/
def Value.follow? (v : Value) (steps : List Step) : Option Value :=
  steps.foldlM Step.take? v

end HttpScript.Json
