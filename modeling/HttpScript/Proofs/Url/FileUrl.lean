/-
Module: HttpScript.Proofs.Url.FileUrl
Purpose: The URL of a file leads back to the file.  Percent-encoding loses nothing, so the segments
  of the URL hold the components of the path; a slash that is put behind a drive letter changes the
  spelling and not the place.  Hence files with the same URL are the same.
Main exports: Percent.decode_encode, pathBytes_eq_decode, toFilePath?_ofFilePath?,
  place_eq_of_ofFilePath?
-/
import HttpScript.Proofs.FilePath.Place
import HttpScript.Proofs.Text.Utf8
import HttpScript.Url.FileUrl

namespace HttpScript.Url

namespace Percent

/-! ### Decoding undoes encoding -/

theorem hexValue?_hexDigit : ∀ n < 16, Text.hexValue? (hexDigit n) = some n := by
  decide

theorem ofNat_ne_percent : ∀ n < 128, n ≠ 0x25 → Char.ofNat n ≠ '%' := by
  decide

/-- A character other than the percent sign stands for its UTF-8. -/
theorem decode_cons_of_ne {c : Char} (h : c ≠ '%') (rest : List Char) :
    decode (c :: rest) = String.utf8EncodeChar c ++ decode rest := by
  rw [decode]
  rintro a b more rfl
  exact absurd rfl h

/-- A set that encodes the percent sign and everything that is not ASCII. -/
structure IsReversible (set : EncodeSet) : Prop where
  percent : set 0x25 = true
  ascii : ∀ b, set b = false → b.toNat < 128

theorem decode_encodeByte_append {set : EncodeSet} (h : IsReversible set) (b : UInt8)
    (rest : List Char) : decode (encodeByte set b ++ rest) = b :: decode rest := by
  have hb : b.toNat < 256 := b.toNat_lt
  cases hset : set b with
  | true =>
      have hhigh := hexValue?_hexDigit (b.toNat / 16) (by omega)
      have hlow := hexValue?_hexDigit (b.toNat % 16) (by omega)
      have hvalue : b.toNat / 16 * 16 + b.toNat % 16 = b.toNat := by omega
      simp [encodeByte, hset, decode, hhigh, hlow, hvalue]
  | false =>
      have hlt := h.ascii b hset
      have hne : b.toNat ≠ 0x25 := by
        intro heq
        have hpercent : b = 0x25 := UInt8.toNat_inj.mp heq
        simp [hpercent, h.percent] at hset
      have hchar := decode_cons_of_ne (ofNat_ne_percent b.toNat hlt hne) rest
      simp [encodeByte, hset, hchar, Text.Utf8.utf8EncodeChar_one hlt]

theorem decode_encode {set : EncodeSet} (h : IsReversible set) (bytes : List UInt8) :
    decode (encode set bytes) = bytes := by
  induction bytes with
  | nil => rfl
  | cons b bytes ih =>
      have hcons : encode set (b :: bytes) = encodeByte set b ++ encode set bytes := rfl
      rw [hcons, decode_encodeByte_append h, ih]

/-- A percent sign without two digits behind it stands for itself. -/
theorem decode_percent_cons {rest : List Char}
    (h : ∀ a b more, rest = a :: b :: more → Text.hexValue? a = none ∨ Text.hexValue? b = none) :
    decode ('%' :: rest) = 0x25 :: decode rest := by
  match rest, h with
  | [], _ => rfl
  | [a], _ => rfl
  | a :: b :: more, h =>
      rcases h a b more rfl with ha | hb
      · simp [decode, ha]
      · simp [decode, hb]

theorem decode_slash_cons (rest : List Char) :
    decode ('/' :: rest) = FilePath.slash :: decode rest :=
  decode_cons_of_ne (by decide) rest

/-- A slash is part of no encoding, so what stands before it and behind it is decoded apart. -/
theorem decode_append_slash_cons (before after : List Char) :
    decode (before ++ '/' :: after) = decode before ++ FilePath.slash :: decode after := by
  induction before using decode.induct with
  | case1 => exact decode_slash_cons after
  | case2 a b rest high low hhigh hlow ih => simp [decode, hhigh, hlow, ih]
  | case3 a b rest hnone ih =>
      have hdigits : Text.hexValue? a = none ∨ Text.hexValue? b = none := by
        cases ha : Text.hexValue? a with
        | none => exact .inl rfl
        | some high =>
            cases hb : Text.hexValue? b with
            | none => exact .inr rfl
            | some low => exact (hnone high low ha hb).elim
      have hboth : ∀ more, decode ('%' :: a :: b :: more) = 0x25 :: decode (a :: b :: more) := by
        intro more
        apply decode_percent_cons
        rintro a' b' more' ⟨⟩
        exact hdigits
      rw [hboth rest]
      exact (hboth (rest ++ '/' :: after)).trans (congrArg (0x25 :: ·) ih)
  | case4 c rest hshort ih =>
      by_cases hc : c = '%'
      · subst hc
        -- Fewer than two characters follow the percent sign, and the slash is no digit.
        have hfirst : decode ('%' :: rest) = 0x25 :: decode rest := by
          apply decode_percent_cons
          rintro a b more rfl
          exact (hshort a b more rfl rfl).elim
        have hboth : decode ('%' :: (rest ++ '/' :: after))
            = 0x25 :: decode (rest ++ '/' :: after) := by
          apply decode_percent_cons
          intro a b more heq
          match rest, hshort with
          | [], _ =>
              rw [List.nil_append] at heq
              exact .inl ((List.cons.inj heq).1 ▸ by decide)
          | [x], _ =>
              rw [List.singleton_append] at heq
              exact .inr ((List.cons.inj (List.cons.inj heq).2).1 ▸ by decide)
          | x :: y :: more', hshort => exact (hshort x y more' rfl rfl).elim
        rw [hfirst, List.cons_append, List.cons_append, hboth, ih]
      · rw [List.cons_append, decode_cons_of_ne hc, decode_cons_of_ne hc, ih, List.append_assoc]

theorem isReversible_fileName : IsReversible fileName where
  percent := by decide
  ascii b h := by
    have hle : ¬ 0x7E < b := by
      intro hlt
      simp [fileName, ofChars, hlt] at h
    have hle' : b.toNat ≤ 0x7E := UInt8.le_iff_toNat_le.mp (UInt8.not_lt.mp hle)
    omega

end Percent

/-! ### From a path to its URL and back -/

theorem decode_segmentOf (c : Component) : Percent.decode (segmentOf c).toList = c.bytes := by
  rw [segmentOf, String.toList_ofList, Percent.decode_encode Percent.isReversible_fileName]

/-- Segments of a URL are written like the components of an absolute path. -/
theorem pathBytes_map_segmentOf (c : Component) (rest : List Component) :
    pathBytes ((c :: rest).map segmentOf) = (FilePath.ofComponents true (c :: rest)).bytes := by
  induction rest generalizing c with
  | nil => simp [pathBytes, decode_segmentOf, FilePath.ofComponents]
  | cons d rest ih =>
      have htail := ih d
      simp only [pathBytes, FilePath.ofComponents] at htail ⊢
      rw [List.map_cons, List.flatMap_cons, htail, decode_segmentOf]
      simp [List.map_cons, List.intercalate_cons_cons]

/-- The path of a URL is decoded as one text, wherever its segments end. -/
theorem pathBytes_eq_decode (segments : List String) :
    pathBytes segments
      = Percent.decode ((segments.map String.toList).flatMap ('/' :: ·)) := by
  induction segments with
  | nil => rfl
  | cons s rest ih =>
      rw [List.map_cons, List.flatMap_cons, List.cons_append, Percent.decode_slash_cons]
      rw [pathBytes, List.flatMap_cons, ← pathBytes, ih, List.cons_append]
      cases rest with
      | nil => simp [Percent.decode]
      | cons t rest =>
          rw [List.map_cons, List.flatMap_cons, List.cons_append, Percent.decode_slash_cons,
            Percent.decode_append_slash_cons]

/-- The segments of a file's URL. -/
def fileSegments (p : FilePath) : List String :=
  match p.components with
  | [] => [""]
  | components => components.map segmentOf

theorem ofFilePath?_of_isAbsolute {p : FilePath} (h : p.isAbsolute = true) :
    ofFilePath? p = some ⟨"file", some ⟨"", "", none⟩, .segments (fileSegments p), none, none⟩ := by
  rw [ofFilePath?, if_pos h]
  rfl

theorem isAbsolute_of_ofFilePath? {p : FilePath} {u : Url} (h : ofFilePath? p = some u) :
    p.isAbsolute = true := by
  cases hp : p.isAbsolute with
  | true => rfl
  | false => simp [ofFilePath?, hp] at h

theorem ofFilePath?_eq_none_iff {p : FilePath} :
    ofFilePath? p = none ↔ p.isAbsolute = false := by
  simp [ofFilePath?]

/-- Only the place of a file counts for its URL. -/
theorem ofFilePath?_congr {p q : FilePath} (h : p.place = q.place) :
    ofFilePath? p = ofFilePath? q := by
  unfold ofFilePath?
  rw [FilePath.isAbsolute_eq_of_place_eq h, FilePath.components_eq_of_place_eq h]

theorem pathBytes_fileSegments (p : FilePath) :
    pathBytes (fileSegments p) = (FilePath.ofComponents true p.components).bytes := by
  unfold fileSegments
  cases p.components with
  | nil => rfl
  | cons c rest => exact pathBytes_map_segmentOf c rest

/-- A slash at the end of a name leads to the same place. -/
theorem place_append_slash {bytes : List UInt8} (h : bytes ≠ []) :
    (⟨bytes ++ [FilePath.slash]⟩ : FilePath).place = (⟨bytes⟩ : FilePath).place := by
  have habs : (⟨bytes ++ [FilePath.slash]⟩ : FilePath).isAbsolute
      = (⟨bytes⟩ : FilePath).isAbsolute := by
    cases bytes with
    | nil => exact absurd rfl h
    | cons b rest => rfl
  simp only [FilePath.place, FilePath.components, FilePath.parts_append_slash, habs]

/-- The file of a file's URL is that file, but perhaps for a slash at the end. -/
theorem toFilePath?_ofFilePath? {p : FilePath} {u : Url} (h : ofFilePath? p = some u) :
    ∃ q, u.toFilePath? = some q ∧ q.place = p.place := by
  have habs := isAbsolute_of_ofFilePath? h
  rw [ofFilePath?_of_isAbsolute habs] at h
  obtain rfl := Option.some.inj h
  have hplace : (FilePath.ofComponents true p.components).place = p.place := by
    rw [FilePath.place_ofComponents true (FilePath.isStep_of_isAbsolute habs), FilePath.place, habs]
  refine ⟨_, rfl, ?_⟩
  rw [pathBytes_fileSegments]
  split
  · rw [place_append_slash (by simp [FilePath.ofComponents])]
    exact hplace
  · exact hplace

/-- Files with the same URL are the same. -/
theorem place_eq_of_ofFilePath? {p q : FilePath} {u : Url} (hp : ofFilePath? p = some u)
    (hq : ofFilePath? q = some u) : p.place = q.place := by
  obtain ⟨r, hr, hrp⟩ := toFilePath?_ofFilePath? hp
  obtain ⟨s, hs, hsq⟩ := toFilePath?_ofFilePath? hq
  obtain rfl : r = s := Option.some.inj (hr.symm.trans hs)
  exact hrp.symm.trans hsq

/-- The file of a URL is named by an absolute path, unless the URL has no segments at all. -/
theorem components_eq_nil_of_toFilePath? {u : Url} {p : FilePath} (h : u.toFilePath? = some p)
    (hp : p.isAbsolute = false) : p.components = [] := by
  unfold toFilePath? at h
  split at h
  · next segments _ _ _ =>
      cases segments with
      | nil =>
          obtain rfl := Option.some.inj h
          rfl
      | cons s rest =>
          obtain rfl := Option.some.inj h
          exfalso
          revert hp
          simp only [pathBytes, List.flatMap_cons, List.cons_append]
          split <;> simp [FilePath.isAbsolute]
  · simp at h

end HttpScript.Url
