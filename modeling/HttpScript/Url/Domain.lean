/-
Module: HttpScript.Url.Domain
Purpose: Internationalized domain names: the ASCII form of a name, and which names have one.  Labels
  that are already encoded are held to the same rules as the others.
Main exports: ascii?
-/
import HttpScript.Text.Composed
import HttpScript.Url.Domain.Direction
import HttpScript.Url.Domain.Joining
import HttpScript.Url.Domain.Mapping
import HttpScript.Url.Punycode

namespace HttpScript.Url.Domain

open Text

def isAscii (c : Char) : Bool := c.toNat < 128

/-- The name with every character replaced by what it stands for. -/
def mapped? (name : List Char) : Option (List Char) :=
  if name.all isAscii then some (name.map Char.toLower)
  else (name.mapM image?).map (fun images => composed images.flatten)

/-! ### Labels -/

/-- The most characters that may have to be encoded in one label. -/
def maxLength : Nat := 1000

/-- The most characters that may have to be decoded in one label. -/
def maxEncodedLength : Nat := 2000

/-- The text of a label.  An encoded one has to stand for characters beyond ASCII that could have
been written in its place. -/
def labelText? (label : List Char) : Option (List Char) :=
  if Punycode.mark.isPrefixOf label then
    let encoded := label.drop Punycode.mark.length
    if encoded.all isAscii ∧ encoded.getLast?.any (· ≠ '-') ∧ encoded.length ≤ maxEncodedLength then
      (Punycode.decode? encoded).filter (fun text => text.all isAllowed && composed text == text)
    else none
  else some label

def zeroWidthNonJoiner : Char := Char.ofNat 0x200C

def zeroWidthJoiner : Char := Char.ofNat 0x200D

/-- Whether the first character that is not passed over has a property. -/
def meets (property : Char → Bool) (s : List Char) : Bool :=
  (s.dropWhile isTransparent).head?.any property

/-- Whether a joiner makes a difference where it stands: after a virama, or, where it keeps letters
apart, between letters that would be joined.  What stands before it is given backwards. -/
def joinerFits (c : Char) (before after : List Char) : Bool :=
  before.head?.any isVirama
    || (c == zeroWidthNonJoiner && meets joinsNext before && meets joinsPrevious after)

/-- Whether all joiners of the second part of a text fit. -/
def joinersFit (before : List Char) : List Char → Bool
  | [] => true
  | c :: rest =>
    (!(c == zeroWidthNonJoiner || c == zeroWidthJoiner) || joinerFits c before rest)
      && joinersFit (c :: before) rest

/-- A text that may be a label: it does not begin with a mark and is not too long to encode. -/
def isLabel (text : List Char) : Bool :=
  !text.head?.any isMark && joinersFit [] text
    && (text.all isAscii || text.length ≤ maxLength)

/-! ### Directions -/

/-- A label with something that is written from right to left. -/
def hasRightToLeft (text : List Char) : Bool :=
  text.any (fun c => direction c == .rightToLeft || direction c == .arabicNumber)

/-- Whether a label stays in one piece next to labels of another direction: it begins with a letter,
goes on in the direction of this letter, ends in a letter or number, and has numbers of one kind. -/
def keepsDirection (text : List Char) : Bool :=
  match text.map direction with
  | [] => true
  | first :: rest =>
    let backwards := rest.reverse.dropWhile (· == .mark)
    let endsIn (ends : List Direction) : Bool := backwards.head?.all ends.contains
    match first with
    | .leftToRight =>
      endsIn [.leftToRight, .europeanNumber]
        && !backwards.any [.rightToLeft, .arabicNumber].contains
    | .rightToLeft =>
      endsIn [.rightToLeft, .europeanNumber, .arabicNumber]
        && !backwards.contains .leftToRight
        && !(backwards.contains .europeanNumber && backwards.contains .arabicNumber)
    | _ => false

/-! ### Names -/

/-- The ASCII form of a name, if it has one. -/
def ascii? (name : List Char) : Option (List Char) := do
  let labels := (← mapped? name).splitOn '.'
  let texts ← labels.mapM labelText?
  guard (texts.all isLabel && (!texts.any hasRightToLeft || texts.all keepsDirection))
  return ['.'].intercalate (labels.map Punycode.asciiLabel)

end HttpScript.Url.Domain
