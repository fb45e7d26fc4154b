/-
Module: HttpScript.Script.Directive
Purpose: The directives of a script's text, in the order of its lines.  Lines are taken one after
  the other: an include or a file variable takes one line, anything else opens a block that reaches
  to the next boundary and holds at most one request.
Main exports: FileVariable, RequestBlock, Directive, block?, directives, scan
-/
import HttpScript.Position
import HttpScript.Script.Line

namespace HttpScript.Script

/-- A file variable and the line that defines it. -/
structure FileVariable where
  range : Range
  key : String
  value : String
deriving Repr, DecidableEq

/-- An include before its path is resolved. -/
structure IncludeDirective where
  /-- The whole line. -/
  range : Range
  /-- The path on the line. -/
  pathRange : Range
  path : String
deriving Repr, DecidableEq

/-- The lines of a request, without comments. -/
structure RequestBlock where
  /-- From the first to the last line that is neither blank nor a comment. -/
  range : Range
  text : String
  /-- The name that a comment of the block gives it. -/
  name : Option String
deriving Repr, DecidableEq

inductive Directive where
  | inclusion (d : IncludeDirective)
  | variable (v : FileVariable)
  | request (b : RequestBlock)
deriving Repr, DecidableEq

/-- The include directive on a line. -/
def includeDirective? (line : NumberedLine) : Option IncludeDirective :=
  (includeLine? line.2).map (fun i =>
    { range := .wholeLine line.1 line.2
      pathRange := .span line.1 i.lead i.path
      path := String.ofList i.path })

/-- The file variable on a line. -/
def fileVariable? (line : NumberedLine) : Option FileVariable :=
  (variableLine? line.2).map (fun v =>
    { range := .wholeLine line.1 line.2
      key := String.ofList v.key
      value := String.ofList v.value })

/-- The lines of a block that make up its request: no comments, and no blank lines at either end. -/
def retained (block : List NumberedLine) : List NumberedLine :=
  let lines := block.filter (fun l => !isComment l.2)
  let fromFirst := lines.dropWhile (fun l => Text.isBlankLine l.2)
  (fromFirst.reverse.dropWhile (fun l => Text.isBlankLine l.2)).reverse

/-- The name of a block's request: the last one that a comment gives. -/
def blockName? (block : List NumberedLine) : Option String :=
  (block.filterMap (fun l => requestName? l.2)).getLast?.map String.ofList

/-- The request of a block, if there is more in it than comments and blank lines. -/
def block? (block : List NumberedLine) : Option RequestBlock :=
  let lines := retained block
  match lines.head?, lines.getLast? with
  | some first, some last =>
    some {
      range := (Range.wholeLine first.1 first.2).union (.wholeLine last.1 last.2)
      text := String.ofList (Text.joinLines (lines.map (·.2)))
      name := blockName? block }
  | _, _ => none

/-- The directives of some lines.  A boundary that is no directive ends nothing and starts nothing.
-/
def directives : List NumberedLine → List Directive
  | [] => []
  | line :: rest =>
    if Text.isBlankLine line.2 then directives rest
    else match includeDirective? line with
      | some d => .inclusion d :: directives rest
      | none => match fileVariable? line with
        | some v => .variable v :: directives rest
        | none =>
          if isBoundary line.2 then directives rest
          else
            let more := rest.takeWhile (fun l => !isBoundary l.2)
            let after := rest.dropWhile (fun l => !isBoundary l.2)
            ((block? (line :: more)).map Directive.request).toList ++ directives after
termination_by lines => lines.length
decreasing_by
  all_goals simp only [List.length_cons]
  · omega
  · omega
  · omega
  · omega
  · exact Nat.lt_succ_of_le (List.dropWhile_sublist _).length_le

/-- The directives of a text. -/
def scan (text : String) : List Directive :=
  directives (numberedLines 0 text.toList)

end HttpScript.Script
