/-
Module: HttpScript.Text.Composed
Purpose: The composed form of text.  Characters are taken apart, the marks on each are put into
  their canonical order, and what belongs together is put together again, so texts that look the
  same and mean the same become the same.
Main exports: decomposed, composed
-/
import HttpScript.Text.CombiningClass
import HttpScript.Text.Decomposition

namespace HttpScript.Text

/-! ### Syllables of Hangul

A syllable has a lead, a vowel and perhaps a tail, and the code points of the syllables count
through all of them in this order. -/

namespace Hangul

def firstSyllable : Nat := 0xAC00
def firstLead : Nat := 0x1100
def firstVowel : Nat := 0x1161

/-- One before the first tail: a syllable may have none. -/
def noTail : Nat := 0x11A7

def leads : Nat := 19
def vowels : Nat := 21
def tails : Nat := 28

/-- The parts of a syllable. -/
def parts? (n : Nat) : Option (List Nat) :=
  let index := n - firstSyllable
  if firstSyllable ≤ n ∧ index < leads * vowels * tails then
    let lead := firstLead + index / (vowels * tails)
    let vowel := firstVowel + index / tails % vowels
    some (if index % tails = 0 then [lead, vowel] else [lead, vowel, noTail + index % tails])
  else none

/-- The syllable of a lead and a vowel, or of a syllable without a tail and its tail. -/
def syllable? (a b : Nat) : Option Nat :=
  if firstLead ≤ a ∧ a < firstLead + leads ∧ firstVowel ≤ b ∧ b < firstVowel + vowels then
    some (firstSyllable + ((a - firstLead) * vowels + (b - firstVowel)) * tails)
  else if firstSyllable ≤ a ∧ a < firstSyllable + leads * vowels * tails
      ∧ (a - firstSyllable) % tails = 0 ∧ noTail < b ∧ b < noTail + tails then
    some (a + (b - noTail))
  else none

end Hangul

/-! ### Taking apart -/

/-- What a character consists of. -/
def charParts (c : Char) : List Char :=
  match Hangul.parts? c.toNat with
  | some parts => parts.map Char.ofNat
  | none => ((composites.lookup c.toNat).or (replacements.lookup c.toNat)).getD [c]

/-- Puts a character before marks that are in order, behind those of a smaller class. -/
def insertMark (c : Char) : List Char → List Char
  | [] => [c]
  | d :: rest =>
    if 0 < combiningClass d ∧ combiningClass d < combiningClass c then d :: insertMark c rest
    else c :: d :: rest

/-- The characters a text consists of, its marks in order.  Marks of one class keep theirs. -/
def decomposed (s : List Char) : List Char :=
  (s.flatMap charParts).foldr insertMark []

/-! ### Putting together -/

/-- The character that consists of two others. -/
def composite? (a b : Char) : Option Char :=
  match Hangul.syllable? a.toNat b.toNat with
  | some n => some (Char.ofNat n)
  | none =>
    let parts := charParts a ++ [b]
    (composites.find? (fun e => e.2 == parts)).map (fun e => Char.ofNat e.1)

/-- A text while it is put together: what is done, the character that can still take marks, and the
marks behind it that it did not take.  The lists have the latest character first. -/
structure Composing where
  done : List Char
  open? : Option Char
  marks : List Char

namespace Composing

def start : Composing := ⟨[], none, []⟩

/-- One more character.  A mark is taken unless one of its own class stands in between. -/
def add (s : Composing) (c : Char) : Composing :=
  match s.open? with
  | none =>
    if combiningClass c = 0 then { s with open? := some c } else { s with done := c :: s.done }
  | some a =>
    let isNear := s.marks.head?.all (fun m => combiningClass m < combiningClass c)
    match if isNear then composite? a c else none with
    | some both => { s with open? := some both }
    | none =>
      if combiningClass c = 0 then ⟨s.marks ++ a :: s.done, some c, []⟩
      else { s with marks := c :: s.marks }

def finish (s : Composing) : List Char :=
  (s.marks ++ s.open?.toList ++ s.done).reverse

end Composing

/-- The composed form of a text. -/
def composed (s : List Char) : List Char :=
  ((decomposed s).foldl Composing.add .start).finish

end HttpScript.Text
