/-
Module: HttpScript.Http.Method
Purpose: The methods a request may have.
Main exports: Method, Method.name, Method.parse?
-/

namespace HttpScript.Http

inductive Method where
  | get
  | post
  | put
  | delete
  | patch
  | options
  | head
  | trace
  | connect
deriving Repr, DecidableEq, Inhabited

namespace Method

/-- Every method, in the order in which messages list them. -/
def all : List Method :=
  [.get, .post, .put, .delete, .patch, .options, .head, .trace, .connect]

theorem mem_all (m : Method) : m ∈ all := by
  cases m <;> decide

/-- The name on the request line. -/
def name : Method → String
  | .get => "GET"
  | .post => "POST"
  | .put => "PUT"
  | .delete => "DELETE"
  | .patch => "PATCH"
  | .options => "OPTIONS"
  | .head => "HEAD"
  | .trace => "TRACE"
  | .connect => "CONNECT"

/-- The letters of the ASCII alphabet in upper case that a character becomes in upper case.
Besides the ASCII letters these are the dotless i, the long and the sharp s and the ligatures of f
and s; all other characters are kept as they are, which makes them part of no method's name. -/
def upper (c : Char) : List Char :=
  match c.toNat with
  | 0x00DF => ['S', 'S']
  | 0x0131 => ['I']
  | 0x017F => ['S']
  | 0xFB00 => ['F', 'F']
  | 0xFB01 => ['F', 'I']
  | 0xFB02 => ['F', 'L']
  | 0xFB03 => ['F', 'F', 'I']
  | 0xFB04 => ['F', 'F', 'L']
  | 0xFB05 => ['S', 'T']
  | 0xFB06 => ['S', 'T']
  | _ => [c.toUpper]

/-- The method of a name in any case. -/
def parse? (s : List Char) : Option Method :=
  all.find? (fun m => m.name.toList == s.flatMap upper)

theorem name_ne_nil (m : Method) : m.name.toList ≠ [] := by
  cases m <;> decide

theorem parse?_name (m : Method) : parse? m.name.toList = some m := by
  cases m <;> decide

end Method

end HttpScript.Http
