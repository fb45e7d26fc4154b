/-
Module: HttpScript.Variable.Reference
Purpose: References to variables in a text: a name between double braces, with perhaps a path after
  a dot.  The search knows nothing of the form of a script, so references in comments, headers and
  bodies are all found.
Main exports: Reference, Reference.path, References, token?, references
-/
import HttpScript.Position
import HttpScript.Text.Blank
import HttpScript.Text.Lines
import HttpScript.Variable.Name

namespace HttpScript.Variable

/-- One reference. -/
structure Reference where
  name : String
  /-- The whole reference with its braces. -/
  text : String
  line : Nat
  /-- Where the name stands. -/
  range : Range
deriving Repr, DecidableEq

/-! ### References on a line -/

/-- A reference at the start of a text. -/
structure Token where
  name : List Char
  /-- The dot and the path after the name, or nothing. -/
  path : List Char
  /-- What follows the reference. -/
  after : List Char
deriving Repr, DecidableEq

namespace Token

def opening : List Char := ['\x7b', '\x7b']

def closing : List Char := ['\x7d', '\x7d']

/-- The text of the reference. -/
def text (t : Token) : List Char :=
  opening ++ t.name ++ t.path ++ closing

end Token

/-- The text before and after the first pair of closing braces. -/
def splitAtClosing : List Char → Option (List Char × List Char)
  | '\x7d' :: '\x7d' :: after => some ([], after)
  | c :: rest => (splitAtClosing rest).map (fun p => (c :: p.1, p.2))
  | [] => none

/-- The reference at the start of a text: the name is as long as it can be, and the path ends at the
first pair of closing braces. -/
def token? (s : List Char) : Option Token :=
  match s with
  | '\x7b' :: '\x7b' :: inner =>
    let name := inner.takeWhile isNameChar
    if name.isEmpty then none
    else match inner.dropWhile isNameChar with
      | '\x7d' :: '\x7d' :: after => some ⟨name, [], after⟩
      | '.' :: path => (splitAtClosing path).map (fun p => ⟨name, '.' :: p.1, p.2⟩)
      | _ => none
  | _ => none

theorem splitAtClosing_eq {s before after : List Char}
    (h : splitAtClosing s = some (before, after)) : s = before ++ Token.closing ++ after := by
  induction s using splitAtClosing.induct generalizing before with
  | case1 rest => simp_all [splitAtClosing, Token.closing]
  | case2 c rest hne ih =>
    rw [splitAtClosing] at h
    · obtain ⟨⟨b, a⟩, hb, hp⟩ := Option.map_eq_some_iff.mp h
      obtain ⟨rfl, rfl⟩ := Prod.mk.inj hp
      simp [ih hb]
    · exact hne
  | case3 => simp [splitAtClosing] at h

/-- A reference and what follows it make up the text. -/
theorem token?_eq {s : List Char} {t : Token} (h : token? s = some t) : s = t.text ++ t.after := by
  unfold token? at h
  split at h
  · next inner =>
    have parts := List.takeWhile_append_dropWhile (p := isNameChar) (l := inner)
    dsimp only at h
    split at h
    · cases h
    · split at h
      · next after he =>
        cases h
        rw [he] at parts
        exact congrArg (Token.opening ++ ·) (by simpa [Token.closing] using parts.symm)
      · next path he =>
        obtain ⟨⟨before, after⟩, hp, ht⟩ := Option.map_eq_some_iff.mp h
        subst ht
        rw [he, splitAtClosing_eq hp] at parts
        exact congrArg (Token.opening ++ ·) (by simpa using parts.symm)
      · cases h
  · cases h

theorem token?_name_ne_nil {s : List Char} {t : Token} (h : token? s = some t) : t.name ≠ [] := by
  unfold token? at h
  split at h
  · next inner =>
    dsimp only at h
    split at h
    · cases h
    · next hname =>
      have hne : inner.takeWhile isNameChar ≠ [] := by simpa using hname
      split at h
      · cases h
        exact hne
      · obtain ⟨_, -, rfl⟩ := Option.map_eq_some_iff.mp h
        exact hne
      · cases h
  · cases h

theorem token?_after_length {s : List Char} {t : Token} (h : token? s = some t) :
    t.after.length < s.length := by
  have size := congrArg List.length (token?_eq h)
  simp only [Token.text, Token.opening, List.length_append, List.length_cons] at size
  omega

/-- The references of a line from a column on, from left to right and without overlap. -/
def referencesFrom (line column : Nat) (s : List Char) : List Reference :=
  match s with
  | [] => []
  | c :: rest =>
    match _h : token? (c :: rest) with
    | some t =>
      let start := column + Text.units Token.opening
      { name := String.ofList t.name
        text := String.ofList t.text
        line := line
        range := .onLine line start (start + Text.units t.name) } ::
        referencesFrom line (column + Text.units t.text) t.after
    | none => referencesFrom line (column + Text.unitsOf c) rest
termination_by s.length
decreasing_by
  · exact token?_after_length _h
  · simp

/-- Every reference of a text, in reading order. -/
def occurrences (text : String) : List Reference :=
  (Text.pieces text.toList).zipIdx.flatMap (fun l => referencesFrom l.2 0 l.1)

namespace Reference

/-- The path after the name, without braces and without the dot. -/
def path (r : Reference) : String :=
  let text := r.text.toList
  let inner := ((Text.dropLead? Token.opening text).bind (Text.dropTail? Token.closing)).getD text
  let rest := (Text.dropLead? r.name.toList inner).getD inner
  String.ofList ((Text.dropLead? ['.'] rest).getD rest)

end Reference

/-! ### References by name -/

/-- References grouped by name: names in the order of their first reference, references of one name
in reading order. -/
structure References where
  groups : List (String × List Reference)
deriving Repr, DecidableEq

namespace References

def empty : References := ⟨[]⟩

/-- Adds a reference after all others. -/
def push (rs : References) (r : Reference) : References :=
  if rs.groups.any (·.1 == r.name) then
    ⟨rs.groups.map (fun g => if g.1 = r.name then (g.1, g.2 ++ [r]) else g)⟩
  else ⟨rs.groups ++ [(r.name, [r])]⟩

def ofList (rs : List Reference) : References :=
  rs.foldl push empty

/-- The references of a name, if there are any. -/
def get? (rs : References) (name : String) : Option (List Reference) :=
  rs.groups.lookup name

/-- How many names are referred to. -/
def size (rs : References) : Nat :=
  rs.groups.length

end References

/-- The references of a text. -/
def references (text : String) : References :=
  .ofList (occurrences text)

end HttpScript.Variable
