/-
Module: HttpScript.Url.Percent
Purpose: Percent-encoding: which bytes each part of a URL has to encode, and the encoding and
  decoding of byte sequences.
Main exports: EncodeSet, encode, encodeText, decode
-/
import HttpScript.Text.Digits
import HttpScript.Text.Utf8

namespace HttpScript.Url.Percent

/-- The bytes that have to be encoded in some part of a URL. -/
abbrev EncodeSet := UInt8 → Bool

/-- A set given by some ASCII characters and all bytes that are controls or not ASCII. -/
def ofChars (chars : List Char) : EncodeSet :=
  fun b => b < 0x20 || 0x7E < b || chars.any (fun c => c.toNat == b.toNat)

def controls : EncodeSet := ofChars []

def fragment : EncodeSet := ofChars [' ', '"', '<', '>', '`']

def query : EncodeSet := ofChars [' ', '"', '#', '<', '>']

/-- In schemes with fixed syntax a query encodes the single quote as well. -/
def specialQuery : EncodeSet := ofChars [' ', '"', '#', '<', '>', '\'']

def path : EncodeSet := ofChars [' ', '"', '<', '>', '`', '#', '?', '\x7b', '\x7d']

def userinfo : EncodeSet :=
  ofChars [' ', '"', '<', '>', '`', '#', '?', '\x7b', '\x7d', '/', ':', ';', '=', '@', '[', '\\',
    ']', '^', '|']

/-- What a file name encodes when it becomes one segment of a path: the percent sign too, so that
decoding gives the name back. -/
def fileName : EncodeSet :=
  ofChars [' ', '"', '<', '>', '`', '#', '?', '\x7b', '\x7d', '/', '%', '\\']

/-- A hexadecimal digit in upper case. -/
def hexDigit (n : Nat) : Char :=
  (Nat.digitChar n).toUpper

def encodeByte (set : EncodeSet) (b : UInt8) : List Char :=
  if set b then ['%', hexDigit (b.toNat / 16), hexDigit (b.toNat % 16)]
  else [Char.ofNat b.toNat]

def encode (set : EncodeSet) (bytes : List UInt8) : List Char :=
  bytes.flatMap (encodeByte set)

/-- The encoding of a text's UTF-8. -/
def encodeText (set : EncodeSet) (s : List Char) : List Char :=
  encode set (Text.Utf8.encode s)

/-- The bytes an encoded text stands for.  A percent sign without two digits after it stands for
itself. -/
def decode : List Char → List UInt8
  | [] => []
  | '%' :: a :: b :: rest =>
    match Text.hexValue? a, Text.hexValue? b with
    | some high, some low => UInt8.ofNat (high * 16 + low) :: decode rest
    | _, _ => 0x25 :: decode (a :: b :: rest)
  | c :: rest => String.utf8EncodeChar c ++ decode rest

end HttpScript.Url.Percent
