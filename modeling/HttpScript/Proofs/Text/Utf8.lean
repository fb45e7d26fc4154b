/-
Module: HttpScript.Proofs.Text.Utf8
Purpose: A byte sequence is read as a text exactly if it is the UTF-8 of this text.  The range of
  the second byte leaves no overlong form and no surrogate, so a character has no other bytes than
  its own.
Main exports: Text.Utf8.lead_form, Text.Utf8.cons_eq_of_step, Text.Utf8.readings_utf8EncodeChar,
  Text.Utf8.decode?_eq_some_iff, FilePath.isSome_text?_iff, FilePath.ofString_text
-/
import Mathlib.Tactic.SplitIfs
import HttpScript.FilePath

namespace HttpScript

namespace Text.Utf8

/-! ### The bytes of a character -/

section Characters

variable {n : Nat}

theorem val_ofNat (h : n.isValidChar) : (Char.ofNat n).val.toNat = n := by
  have haux : Char.ofNat n = Char.ofNatAux n h := dif_pos h
  rw [haux]
  rfl

theorem utf8EncodeChar_one (h : n < 0x80) :
    String.utf8EncodeChar (Char.ofNat n) = [UInt8.ofNat n] := by
  simp only [String.utf8EncodeChar, val_ofNat (n := n) (.inl (by omega))]
  rw [if_pos (by omega)]

theorem utf8EncodeChar_two (hlow : 0x80 ≤ n) (hhigh : n < 0x800) :
    String.utf8EncodeChar (Char.ofNat n) =
      [UInt8.ofNat (n / 64 + 0xC0), UInt8.ofNat (n % 64 + 0x80)] := by
  have hlead : n / 64 % 32 = n / 64 := Nat.mod_eq_of_lt (by omega)
  simp only [String.utf8EncodeChar, val_ofNat (n := n) (.inl (by omega)), hlead]
  rw [if_neg (by omega), if_pos (by omega)]

theorem utf8EncodeChar_three (hvalid : n.isValidChar) (hlow : 0x800 ≤ n) (hhigh : n < 0x10000) :
    String.utf8EncodeChar (Char.ofNat n) =
      [UInt8.ofNat (n / 4096 + 0xE0), UInt8.ofNat (n / 64 % 64 + 0x80),
        UInt8.ofNat (n % 64 + 0x80)] := by
  have hlead : n / 4096 % 16 = n / 4096 := Nat.mod_eq_of_lt (by omega)
  simp only [String.utf8EncodeChar, val_ofNat hvalid, hlead]
  rw [if_neg (by omega), if_neg (by omega), if_pos (by omega)]

theorem utf8EncodeChar_four (hlow : 0x10000 ≤ n) (hhigh : n < 0x110000) :
    String.utf8EncodeChar (Char.ofNat n) =
      [UInt8.ofNat (n / 262144 + 0xF0), UInt8.ofNat (n / 4096 % 64 + 0x80),
        UInt8.ofNat (n / 64 % 64 + 0x80), UInt8.ofNat (n % 64 + 0x80)] := by
  have hlead : n / 262144 % 8 = n / 262144 := Nat.mod_eq_of_lt (by omega)
  simp only [String.utf8EncodeChar, val_ofNat (n := n) (.inr ⟨by omega, hhigh⟩), hlead]
  rw [if_neg (by omega), if_neg (by omega), if_neg (by omega)]

end Characters

/-! ### One step of reading -/

variable {b low high : UInt8} {more : Nat} {bytes rest : List UInt8} {c : Char}

/-- The bounds of a first byte, for each number of continuation bytes, and the range of the next
byte. -/
inductive Lead.Bounds (b low high : UInt8) : Nat → Prop where
  | two (lead_low : 0xC2 ≤ b.toNat) (lead_high : b.toNat ≤ 0xDF) (low_eq : low.toNat = 0x80)
      (high_eq : high.toNat = 0xBF) : Bounds b low high 1
  /-- Overlong forms begin with 0xE0, and surrogates with 0xED. -/
  | three (lead_low : 0xE0 ≤ b.toNat) (lead_high : b.toNat ≤ 0xEF)
      (not_overlong : b.toNat = 0xE0 → low.toNat = 0xA0)
      (low_eq : b.toNat ≠ 0xE0 → low.toNat = 0x80)
      (not_surrogate : b.toNat = 0xED → high.toNat = 0x9F)
      (high_eq : b.toNat ≠ 0xED → high.toNat = 0xBF) : Bounds b low high 2
  /-- Overlong forms begin with 0xF0, and values that are too large with 0xF4. -/
  | four (lead_low : 0xF0 ≤ b.toNat) (lead_high : b.toNat ≤ 0xF4)
      (not_overlong : b.toNat = 0xF0 → low.toNat = 0x90)
      (low_eq : b.toNat ≠ 0xF0 → low.toNat = 0x80)
      (not_too_large : b.toNat = 0xF4 → high.toNat = 0x8F)
      (high_eq : b.toNat ≠ 0xF4 → high.toNat = 0xBF) : Bounds b low high 3

theorem within_iff : within low high b = true ↔ low.toNat ≤ b.toNat ∧ b.toNat ≤ high.toNat := by
  simp [within, UInt8.le_iff_toNat_le]

/-- What a first byte says, by its range. -/
inductive Lead.Form (b : UInt8) : Lead → Prop where
  | single (h : b.toNat < 0x80) : Form b .single
  | multi {more : Nat} {low high : UInt8} (bounds : Bounds b low high more) :
      Form b (.multi more low high)
  | invalid (h : 0x80 ≤ b.toNat) (h' : b.toNat < 0xC2 ∨ 0xF4 < b.toNat) : Form b .invalid

theorem lead_form (b : UInt8) : Lead.Form b (lead b) := by
  unfold lead
  simp only [within_iff, UInt8.lt_iff_toNat_lt, ← UInt8.toNat_inj, UInt8.reduceToNat]
  split_ifs with hsingle htwo hE0 hED hthree hF0 hfour hF4
  · exact .single hsingle
  · exact .multi (.two htwo.1 htwo.2 rfl rfl)
  · exact .multi (.three (by omega) (by omega) (fun _ => rfl) (absurd hE0)
      (fun h => absurd h (by omega)) (fun _ => rfl))
  · exact .multi (.three (by omega) (by omega) (fun h => absurd h hE0) (fun _ => rfl)
      (fun _ => rfl) (absurd hED))
  · exact .multi (.three (by omega) hthree.2 (fun h => absurd h hE0) (fun _ => rfl)
      (fun h => absurd h hED) (fun _ => rfl))
  · exact .multi (.four (by omega) (by omega) (fun _ => rfl) (absurd hF0)
      (fun h => absurd h (by omega)) (fun _ => rfl))
  · exact .multi (.four (by omega) (by omega) (fun h => absurd h hF0) (fun _ => rfl)
      (fun h => absurd h (by omega)) (fun _ => rfl))
  · exact .multi (.four (by omega) (by omega) (fun h => absurd h hF0) (fun _ => rfl)
      (fun _ => rfl) (absurd hF4))
  · exact .invalid (by omega) (by omega)

/-- As many continuation bytes as there should be are a byte in the given range and the others. -/
theorem exists_of_length_continuation
    (h : (continuation (more + 1) low high bytes).length = more + 1) :
    ∃ t rest, bytes = t :: rest ∧ low.toNat ≤ t.toNat ∧ t.toNat ≤ high.toNat ∧
      continuation (more + 1) low high bytes = t :: continuation more 0x80 0xBF rest ∧
      (continuation more 0x80 0xBF rest).length = more := by
  cases bytes with
  | nil => cases h
  | cons t rest =>
      rw [continuation] at h ⊢
      split at h
      next hwithin =>
        obtain ⟨hlow, hhigh⟩ := within_iff.mp hwithin
        rw [if_pos hwithin]
        exact ⟨t, rest, rfl, hlow, hhigh, rfl, Nat.succ.inj h⟩
      next => cases h

theorem ofNat_eq {n : Nat} (h : n = b.toNat) : UInt8.ofNat n = b := by
  rw [h, UInt8.ofNat_toNat]

/-- The character that is made of a first byte and as many continuation bytes as it asks for has
these bytes. -/
theorem utf8EncodeChar_of_bounds (hbounds : Lead.Bounds b low high more)
    (hlength : (continuation more low high bytes).length = more) :
    String.utf8EncodeChar (Char.ofNat ((continuation more low high bytes).foldl
      (fun n t => n * 64 + t.toNat % 64) (payload more b))) ++ bytes.drop more = b :: bytes := by
  cases hbounds with
  | two hb hb' hlow hhigh =>
      obtain ⟨t, rest, rfl, ht, ht', heq, -⟩ := exists_of_length_continuation hlength
      have hpayload : payload 1 b = b.toNat - 0xC0 := by
        change b.toNat % 32 = _
        omega
      rw [heq, continuation, hpayload]
      simp only [List.foldl_cons, List.foldl_nil]
      rw [utf8EncodeChar_two (by omega) (by omega), ofNat_eq (b := b) (by omega),
        ofNat_eq (b := t) (by omega)]
      rfl
  | three hb hb' hoverlong hlow hsurrogate hhigh =>
      obtain ⟨t, rest, rfl, ht, ht', heq, hmore⟩ := exists_of_length_continuation hlength
      obtain ⟨u, rest, rfl, hu, hu', hequ, -⟩ := exists_of_length_continuation hmore
      change 0x80 ≤ u.toNat at hu
      change u.toNat ≤ 0xBF at hu'
      have hpayload : payload 2 b = b.toNat - 0xE0 := by
        change b.toNat % 16 = _
        omega
      have hvalid : (((b.toNat - 0xE0) * 64 + t.toNat % 64) * 64 + u.toNat % 64).isValidChar := by
        unfold Nat.isValidChar
        omega
      rw [heq, hequ, continuation, hpayload]
      simp only [List.foldl_cons, List.foldl_nil]
      rw [utf8EncodeChar_three hvalid (by omega) (by omega), ofNat_eq (b := b) (by omega),
        ofNat_eq (b := t) (by omega), ofNat_eq (b := u) (by omega)]
      rfl
  | four hb hb' hoverlong hlow hlarge hhigh =>
      obtain ⟨t, rest, rfl, ht, ht', heq, hmore⟩ := exists_of_length_continuation hlength
      obtain ⟨u, rest, rfl, hu, hu', hequ, hmore'⟩ := exists_of_length_continuation hmore
      obtain ⟨v, rest, rfl, hv, hv', heqv, -⟩ := exists_of_length_continuation hmore'
      change 0x80 ≤ u.toNat at hu
      change u.toNat ≤ 0xBF at hu'
      change 0x80 ≤ v.toNat at hv
      change v.toNat ≤ 0xBF at hv'
      have hpayload : payload 3 b = b.toNat - 0xF0 := by
        change b.toNat % 8 = _
        omega
      rw [heq, hequ, heqv, continuation, hpayload]
      simp only [List.foldl_cons, List.foldl_nil]
      rw [utf8EncodeChar_four (by omega) (by omega), ofNat_eq (b := b) (by omega),
        ofNat_eq (b := t) (by omega), ofNat_eq (b := u) (by omega), ofNat_eq (b := v) (by omega)]
      rfl

/-- A character that is read is the character of the bytes it took. -/
theorem cons_eq_of_step (h : (step b rest).1 = some c) :
    b :: rest = String.utf8EncodeChar c ++ rest.drop ((step b rest).2 - 1) := by
  have hform := lead_form b
  unfold step at h ⊢
  generalize lead b = l at h hform ⊢
  cases hform with
  | single hb =>
      obtain rfl := Option.some.inj h
      rw [utf8EncodeChar_one hb, UInt8.ofNat_toNat]
      rfl
  | multi hbounds =>
      dsimp only at h ⊢
      split at h
      next hlength =>
        obtain rfl := Option.some.inj h
        rw [if_pos hlength, Nat.add_sub_cancel, hlength]
        exact (utf8EncodeChar_of_bounds hbounds hlength).symm
      next => cases h
  | invalid => cases h

/-! ### Reading what is written -/

theorem readings_of_step {tail : List UInt8}
    (h : step b (tail ++ rest) = (some c, tail.length + 1)) :
    readings (b :: (tail ++ rest)) = some c :: readings rest := by
  rw [readings, h, Nat.add_sub_cancel, List.drop_left]

theorem exists_lead_eq_multi (h : 0xC2 ≤ b.toNat) (h' : b.toNat ≤ 0xF4) :
    ∃ more low high, lead b = .multi more low high ∧ Lead.Bounds b low high more := by
  have hform := lead_form b
  generalize lead b = l at hform ⊢
  cases hform with
  | single => omega
  | multi hbounds => exact ⟨_, _, _, rfl, hbounds⟩
  | invalid => omega

theorem continuation_cons {t : UInt8} (h : low.toNat ≤ t.toNat) (h' : t.toNat ≤ high.toNat)
    (more : Nat) (rest : List UInt8) :
    continuation (more + 1) low high (t :: rest) = t :: continuation more 0x80 0xBF rest := by
  rw [continuation, if_pos (within_iff.mpr ⟨h, h'⟩)]

theorem step_of_continuation {tail : List UInt8} (hlead : lead b = .multi more low high)
    (htail : continuation more low high (tail ++ rest) = tail) (hlength : tail.length = more)
    (hc : tail.foldl (fun n t => n * 64 + t.toNat % 64) (payload more b) = c.toNat) :
    step b (tail ++ rest) = (some c, tail.length + 1) := by
  rw [step, hlead]
  dsimp only
  rw [htail, if_pos hlength, hc, Char.ofNat_toNat]

variable {t u v : UInt8}

theorem readings_one (hb : b.toNat < 0x80) (hc : b.toNat = c.toNat) :
    readings (b :: rest) = some c :: readings rest := by
  have hstep : step b ([] ++ rest) = (some c, 1) := by
    have hform := lead_form b
    unfold step
    generalize lead b = l at hform ⊢
    cases hform with
    | single => rw [hc, Char.ofNat_toNat]
    | multi hbounds => cases hbounds <;> omega
    | invalid => omega
  exact readings_of_step hstep

theorem readings_two (hb : 0xC2 ≤ b.toNat) (hb' : b.toNat ≤ 0xDF) (ht : 0x80 ≤ t.toNat)
    (ht' : t.toNat ≤ 0xBF) (hc : b.toNat % 32 * 64 + t.toNat % 64 = c.toNat) :
    readings (b :: t :: rest) = some c :: readings rest := by
  obtain ⟨more, low, high, hlead, hbounds⟩ := exists_lead_eq_multi hb (by omega)
  cases hbounds with
  | two _ _ hlow hhigh =>
      have htail : continuation 1 low high ([t] ++ rest) = [t] :=
        continuation_cons (by omega) (by omega) 0 rest
      exact readings_of_step (step_of_continuation hlead htail rfl hc)
  | three => omega
  | four => omega

theorem continuation_cons_inner (ht : 0x80 ≤ t.toNat) (ht' : t.toNat ≤ 0xBF) (more : Nat)
    (rest : List UInt8) :
    continuation (more + 1) 0x80 0xBF (t :: rest) = t :: continuation more 0x80 0xBF rest := by
  apply continuation_cons
  · exact ht
  · exact ht'

theorem readings_three (hb : 0xE0 ≤ b.toNat) (hb' : b.toNat ≤ 0xEF) (ht : 0x80 ≤ t.toNat)
    (ht' : t.toNat ≤ 0xBF) (hu : 0x80 ≤ u.toNat) (hu' : u.toNat ≤ 0xBF)
    (hoverlong : b.toNat = 0xE0 → 0xA0 ≤ t.toNat) (hsurrogate : b.toNat = 0xED → t.toNat ≤ 0x9F)
    (hc : (b.toNat % 16 * 64 + t.toNat % 64) * 64 + u.toNat % 64 = c.toNat) :
    readings (b :: t :: u :: rest) = some c :: readings rest := by
  obtain ⟨more, low, high, hlead, hbounds⟩ := exists_lead_eq_multi (b := b) (by omega) (by omega)
  cases hbounds with
  | two => omega
  | three _ _ hlow hlow' hhigh hhigh' =>
      have htail : continuation 2 low high ([t, u] ++ rest) = [t, u] := by
        change continuation (1 + 1) low high (t :: u :: rest) = _
        rw [continuation_cons (by omega) (by omega), continuation_cons_inner hu hu', continuation]
      exact readings_of_step (step_of_continuation hlead htail rfl hc)
  | four => omega

theorem readings_four (hb : 0xF0 ≤ b.toNat) (hb' : b.toNat ≤ 0xF4) (ht : 0x80 ≤ t.toNat)
    (ht' : t.toNat ≤ 0xBF) (hu : 0x80 ≤ u.toNat) (hu' : u.toNat ≤ 0xBF) (hv : 0x80 ≤ v.toNat)
    (hv' : v.toNat ≤ 0xBF) (hoverlong : b.toNat = 0xF0 → 0x90 ≤ t.toNat)
    (hlarge : b.toNat = 0xF4 → t.toNat ≤ 0x8F)
    (hc : ((b.toNat % 8 * 64 + t.toNat % 64) * 64 + u.toNat % 64) * 64 + v.toNat % 64 = c.toNat) :
    readings (b :: t :: u :: v :: rest) = some c :: readings rest := by
  obtain ⟨more, low, high, hlead, hbounds⟩ := exists_lead_eq_multi (b := b) (by omega) (by omega)
  cases hbounds with
  | two => omega
  | three => omega
  | four _ _ hlow hlow' hhigh hhigh' =>
      have htail : continuation 3 low high ([t, u, v] ++ rest) = [t, u, v] := by
        change continuation (2 + 1) low high (t :: u :: v :: rest) = _
        rw [continuation_cons (by omega) (by omega), continuation_cons_inner hu hu',
          continuation_cons_inner hv hv', continuation]
      exact readings_of_step (step_of_continuation hlead htail rfl hc)

/-- The bytes of a character are read as this character. -/
theorem readings_utf8EncodeChar (c : Char) (rest : List UInt8) :
    readings (String.utf8EncodeChar c ++ rest) = some c :: readings rest := by
  obtain ⟨n, hvalid, rfl⟩ : ∃ n : Nat, n.isValidChar ∧ Char.ofNat n = c :=
    ⟨c.toNat, c.valid, Char.ofNat_toNat c⟩
  have hn : (Char.ofNat n).toNat = n := val_ofNat hvalid
  by_cases hone : n < 0x80
  · have hb := UInt8.toNat_ofNat_of_lt' (show n < 256 by omega)
    rw [utf8EncodeChar_one hone]
    apply readings_one
    all_goals omega
  by_cases htwo : n < 0x800
  · have hb := UInt8.toNat_ofNat_of_lt' (show n / 64 + 0xC0 < 256 by omega)
    have ht := UInt8.toNat_ofNat_of_lt' (show n % 64 + 0x80 < 256 by omega)
    rw [utf8EncodeChar_two (by omega) htwo]
    apply readings_two
    all_goals omega
  by_cases hthree : n < 0x10000
  · have hb := UInt8.toNat_ofNat_of_lt' (show n / 4096 + 0xE0 < 256 by omega)
    have ht := UInt8.toNat_ofNat_of_lt' (show n / 64 % 64 + 0x80 < 256 by omega)
    have hu := UInt8.toNat_ofNat_of_lt' (show n % 64 + 0x80 < 256 by omega)
    rw [utf8EncodeChar_three hvalid (by omega) hthree]
    unfold Nat.isValidChar at hvalid
    apply readings_three
    all_goals omega
  · have hlarge : n < 0x110000 := by
      unfold Nat.isValidChar at hvalid
      omega
    have hb := UInt8.toNat_ofNat_of_lt' (show n / 262144 + 0xF0 < 256 by omega)
    have ht := UInt8.toNat_ofNat_of_lt' (show n / 4096 % 64 + 0x80 < 256 by omega)
    have hu := UInt8.toNat_ofNat_of_lt' (show n / 64 % 64 + 0x80 < 256 by omega)
    have hv := UInt8.toNat_ofNat_of_lt' (show n % 64 + 0x80 < 256 by omega)
    rw [utf8EncodeChar_four (by omega) hlarge]
    apply readings_four
    all_goals omega

/-! ### Whole texts -/

theorem encode_of_readings {chars : List Char} (h : readings bytes = chars.map some) :
    encode chars = bytes := by
  induction bytes using readings.induct generalizing chars with
  | case1 =>
      rw [readings, eq_comm, List.map_eq_nil_iff] at h
      rw [h]
      rfl
  | case2 b rest ih =>
      rw [readings] at h
      cases chars with
      | nil => cases h
      | cons c chars =>
          obtain ⟨hstep, hrest⟩ := List.cons.inj h
          rw [cons_eq_of_step hstep, encode, List.flatMap_cons]
          exact congrArg (String.utf8EncodeChar c ++ ·) (ih hrest)

theorem readings_encode (chars : List Char) : readings (encode chars) = chars.map some := by
  induction chars with
  | nil => rw [encode, List.flatMap_nil, readings, List.map_nil]
  | cons c chars ih =>
      rw [encode, List.flatMap_cons, readings_utf8EncodeChar, List.map_cons, ← ih]
      rfl

theorem mapM_id_eq_some_iff {α : Type} {l : List (Option α)} {r : List α} :
    l.mapM id = some r ↔ l = r.map some := by
  constructor
  · intro h
    induction l generalizing r with
    | nil =>
        obtain rfl := Option.some.inj h
        rfl
    | cons a l ih =>
        rw [List.mapM_cons] at h
        obtain ⟨x, rfl, hmore⟩ := Option.bind_eq_some_iff.mp h
        obtain ⟨xs, hxs, hr⟩ := Option.bind_eq_some_iff.mp hmore
        obtain rfl := Option.some.inj hr
        rw [ih hxs]
        rfl
  · rintro rfl
    rw [List.mapM_map]
    exact (List.mapM_pure (f := id)).trans (congrArg some (List.map_id r))

variable {chars : List Char}

/-- The bytes that are read as a text are those it is written as. -/
theorem decode?_eq_some_iff : decode? bytes = some chars ↔ encode chars = bytes := by
  rw [decode?, mapM_id_eq_some_iff]
  constructor
  · exact encode_of_readings
  · rintro rfl
    exact readings_encode chars

theorem decodeLossy_encode (chars : List Char) : decodeLossy (encode chars) = chars := by
  rw [decodeLossy, readings_encode, List.map_map]
  exact List.map_id chars

end Text.Utf8

namespace FilePath

/-- A file name is text if it is the name of a text. -/
theorem isSome_text?_iff {p : FilePath} : p.text?.isSome = true ↔ ∃ name, ofString name = p := by
  rw [text?, Option.isSome_map, Option.isSome_iff_exists]
  constructor
  · rintro ⟨chars, hchars⟩
    refine ⟨String.ofList chars, ?_⟩
    rw [ofString, String.toList_ofList, Text.Utf8.decode?_eq_some_iff.mp hchars]
  · rintro ⟨name, rfl⟩
    exact ⟨name.toList, Text.Utf8.decode?_eq_some_iff.mpr rfl⟩

/-- A file name that is text is the name of this text. -/
theorem ofString_text {p : FilePath} (h : p.text?.isSome = true) : ofString p.text = p := by
  obtain ⟨name, rfl⟩ := isSome_text?_iff.mp h
  rw [text, ofString, ofString, Text.Utf8.decodeLossy_encode, String.ofList_toList]

end FilePath

end HttpScript
