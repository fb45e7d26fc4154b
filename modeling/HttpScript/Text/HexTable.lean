/-
Module: HttpScript.Text.HexTable
Purpose: Tables that give characters a text each, written down in hexadecimal code points.  A word
  with a colon names the character for the next word; the words after that are for the characters
  that follow it.  Dots stand between the code points of one text.
Main exports: HexTable, HexTable.read
-/
import HttpScript.Text.Digits

namespace HttpScript.Text

/-- Characters by code point, each with its text. -/
abbrev HexTable := List (Nat × List Char)

namespace HexTable

/-- The characters of one word. -/
def wordText (word : List Char) : List Char :=
  (word.splitOn '.').map (fun digits => Char.ofNat ((numeral? 16 digits).getD 0))

/-- One more word of a table, with the code point it may be for and the entries so far, the latest
first. -/
def addWord (state : Nat × HexTable) (word : List Char) : Nat × HexTable :=
  if word.getLast? = some ':' then ((numeral? 16 word.dropLast).getD 0, state.2)
  else (state.1 + 1, (state.1, wordText word) :: state.2)

/-- The table that a text writes down. -/
def read (s : String) : HexTable :=
  let words := (s.toList.splitOnP (fun c => c == ' ' || c == '\n')).filter (!·.isEmpty)
  (words.foldl addWord (0, [])).2.reverse

end HexTable

end HttpScript.Text
