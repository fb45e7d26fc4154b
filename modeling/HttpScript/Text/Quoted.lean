/-
Module: HttpScript.Text.Quoted
Purpose: Text between double quotes with everything escaped that would not be seen on its own.
  Error messages quote the text they complain about this way.
Main exports: quoted
-/
import HttpScript.Text.Digits
import HttpScript.Text.Visible

namespace HttpScript.Text

/-- One character of quoted text. -/
def quotedChar (c : Char) : List Char :=
  if c = '\x00' then ['\\', '0']
  else if c = '\t' then ['\\', 't']
  else if c = '\r' then ['\\', 'r']
  else if c = '\n' then ['\\', 'n']
  else if c = '"' then ['\\', '"']
  else if c = '\\' then ['\\', '\\']
  else if isVisible c then [c]
  else ['\\', 'u', '\x7b'] ++ hexDigits c.toNat ++ ['\x7d']

/-- The text between double quotes. -/
def quoted (s : String) : String :=
  String.ofList ('"' :: (s.toList.flatMap quotedChar ++ ['"']))

end HttpScript.Text
