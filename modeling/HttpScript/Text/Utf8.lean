/-
Module: HttpScript.Text.Utf8
Purpose: UTF-8, read strictly and leniently.  File names and percent-decoded URL text are byte
  sequences that need not be UTF-8: they are shown with U+FFFD for what cannot be read, while a
  file's content is refused as a whole.
Main exports: encode, decode?, decodeLossy
-/

namespace HttpScript.Text.Utf8

/-- The bytes of a text. -/
def encode (s : List Char) : List UInt8 :=
  s.flatMap String.utf8EncodeChar

/-- A continuation byte between two bounds, the second byte of a character being the one whose range
depends on the first. -/
def within (low high b : UInt8) : Bool :=
  low ≤ b && b ≤ high

/-- How many continuation bytes a first byte asks for, and the range of the first of them. -/
inductive Lead where
  | single
  | multi (more : Nat) (low high : UInt8)
  | invalid
deriving Repr, DecidableEq

/-- Overlong forms, surrogates and values above U+10FFFF are shut out by the range of the second
byte. -/
def lead (b : UInt8) : Lead :=
  if b < 0x80 then .single
  else if within 0xC2 0xDF b then .multi 1 0x80 0xBF
  else if b = 0xE0 then .multi 2 0xA0 0xBF
  else if b = 0xED then .multi 2 0x80 0x9F
  else if within 0xE1 0xEF b then .multi 2 0x80 0xBF
  else if b = 0xF0 then .multi 3 0x90 0xBF
  else if within 0xF1 0xF3 b then .multi 3 0x80 0xBF
  else if b = 0xF4 then .multi 3 0x80 0x8F
  else .invalid

/-- The longest run of at most `more` continuation bytes, the first of them in the given range. -/
def continuation : Nat → UInt8 → UInt8 → List UInt8 → List UInt8
  | 0, _, _, _ => []
  | _ + 1, _, _, [] => []
  | more + 1, low, high, b :: rest =>
    if within low high b then b :: continuation more 0x80 0xBF rest else []

/-- The payload bits of a first byte. -/
def payload (more : Nat) (b : UInt8) : Nat :=
  b.toNat % Nat.pow 2 (6 - more)

/-- One character or one unreadable run taken off the front, with the number of bytes it took.  An
unreadable run is a first byte with the continuation bytes that could have followed it. -/
def step (b : UInt8) (rest : List UInt8) : Option Char × Nat :=
  match lead b with
  | .single => (some (Char.ofNat b.toNat), 1)
  | .invalid => (none, 1)
  | .multi more low high =>
    let tail := continuation more low high rest
    if tail.length = more then
      (some (Char.ofNat (tail.foldl (fun n t => n * 64 + t.toNat % 64) (payload more b))),
        tail.length + 1)
    else (none, tail.length + 1)

theorem step_pos (b : UInt8) (rest : List UInt8) : 0 < (step b rest).2 := by
  unfold step
  split
  · exact Nat.one_pos
  · exact Nat.one_pos
  · dsimp only
    split <;> exact Nat.succ_pos _

/-- The characters and unreadable runs of a byte sequence, in order. -/
def readings : List UInt8 → List (Option Char)
  | [] => []
  | b :: rest => (step b rest).1 :: readings (rest.drop ((step b rest).2 - 1))
termination_by bytes => bytes.length
decreasing_by simp only [List.length_drop, List.length_cons]; omega

/-- The text, when every byte belongs to a character. -/
def decode? (bytes : List UInt8) : Option (List Char) :=
  (readings bytes).mapM id

/-- The text, with U+FFFD for each unreadable run. -/
def decodeLossy (bytes : List UInt8) : List Char :=
  (readings bytes).map (fun r => r.getD '\uFFFD')

end HttpScript.Text.Utf8
