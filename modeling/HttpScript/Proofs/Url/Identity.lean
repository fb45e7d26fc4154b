/-
Module: HttpScript.Proofs.Url.Identity
Purpose: A document is known by the text of its URI.  A URL that was read has a scheme without a
  colon, and a host that does not begin with a slash; so among the URLs that documents go by, the
  one that is written like the URL of a file is the URL of that file.
Main exports: IsCanonical, IsRead, isRead_of_parse, IsRead.toFilePath?_eq_of_text_eq,
  IsCanonical.eq_of_text_eq
-/
import HttpScript.Proofs.Url.FileUrl
import HttpScript.Url.Parser
import Mathlib.Data.List.TakeDrop
import Mathlib.Data.List.TakeWhile

namespace HttpScript.Url

/-- The URLs that documents go by: a file goes by the URL of its path, and anything else by a URL
that was read. -/
inductive IsCanonical (u : Url) : Prop where
  | ofFile {p : FilePath} (hpath : u.toFilePath? = some p) (huri : ofFilePath? p = some u)
  | noFile (hpath : u.toFilePath? = none) {s : String} (hread : parse s = .ok u)

/-! ### Texts of URLs -/

theorem exists_toList_text (u : Url) : ∃ rest, u.text.toList = u.scheme.toList ++ ':' :: rest := by
  simp only [text, String.toList_append, List.append_assoc]
  exact ⟨_, rfl⟩

theorem exists_toList_text_of_host {u : Url} {host : String}
    (h : u.authority = some ⟨"", host, none⟩) :
    ∃ rest, u.text.toList = u.scheme.toList ++ ':' :: '/' :: '/' :: (host.toList ++ rest) := by
  simp only [text, h, Authority.text, String.toList_append, List.append_assoc]
  exact ⟨_, rfl⟩

/-- The URL of a file, from its segments. -/
theorem toList_text_of_segments (segments : List String) :
    (⟨"file", some ⟨"", "", none⟩, .segments segments, none, none⟩ : Url).text.toList
      = "file://".toList ++ (segments.map String.toList).flatMap ('/' :: ·) := by
  simp [text, Authority.text, dotBeforePath, UrlPath.text, String.toList_join, List.flatMap_map]

/-- The part before the first colon is determined. -/
theorem eq_of_append_colon {a b x y : List Char} (ha : ':' ∉ a) (hb : ':' ∉ b)
    (h : a ++ ':' :: x = b ++ ':' :: y) : a = b := by
  have hfront : ∀ {s t : List Char}, ':' ∉ s → (s ++ ':' :: t).takeWhile (· ≠ ':') = s := by
    intro s t hs
    rw [List.takeWhile_append_of_pos]
    · simp
    · intro c hc
      have hne : c ≠ ':' := by
        rintro rfl
        exact hs hc
      simpa using hne
  rw [← hfront (t := x) ha, h, hfront hb]

/-! ### Segments of files -/

theorem flatMap_slash_eq (ls : List (List Char)) :
    ls.flatMap ('/' :: ·) = ['/'].intercalate ([] :: ls) := by
  induction ls with
  | nil => rfl
  | cons l ls ih =>
      rw [List.flatMap_cons, ih, List.intercalate_cons_cons]
      cases ls with
      | nil => simp
      | cons m ls => simp [List.intercalate_cons_cons]

/-- Segments without slashes are found again between the slashes. -/
theorem eq_of_flatMap_slash_eq {a b : List (List Char)} (ha : ∀ l ∈ a, '/' ∉ l)
    (hb : ∀ l ∈ b, '/' ∉ l) (h : a.flatMap ('/' :: ·) = b.flatMap ('/' :: ·)) : a = b := by
  have hsplit : ∀ {ls : List (List Char)}, (∀ l ∈ ls, '/' ∉ l) →
      (ls.flatMap ('/' :: ·)).splitOn '/' = [] :: ls := by
    intro ls hls
    rw [flatMap_slash_eq, List.splitOn_intercalate '/' _ (List.cons_ne_nil _ _)]
    intro l hl
    rcases List.mem_cons.mp hl with rfl | hl
    · exact List.not_mem_nil
    · exact hls l hl
  have hcons : ([] : List Char) :: a = [] :: b := by
    rw [← hsplit ha, h, hsplit hb]
  exact (List.cons.inj hcons).2

namespace Percent

theorem toNat_ofNat : ∀ n < 128, (Char.ofNat n).toNat = n := by
  decide

/-- No encoding holds a character that is encoded, but for those that encodings are written with. -/
theorem notMem_encode {set : EncodeSet} (h : IsReversible set) {c : Char}
    (hset : set (UInt8.ofNat c.toNat) = true) (hpercent : c ≠ '%')
    (hdigit : ∀ n < 16, hexDigit n ≠ c) (bytes : List UInt8) : c ∉ encode set bytes := by
  intro hmem
  obtain ⟨b, -, hb⟩ := List.mem_flatMap.mp hmem
  unfold encodeByte at hb
  split at hb
  · have hlt : b.toNat < 256 := b.toNat_lt
    have hhigh := hdigit (b.toNat / 16) (by omega)
    have hlow := hdigit (b.toNat % 16) (by omega)
    simp [hpercent, hhigh.symm, hlow.symm] at hb
  · next hplain =>
      rw [List.mem_singleton] at hb
      rw [hb, toNat_ofNat _ (h.ascii b (by simpa using hplain)), UInt8.ofNat_toNat] at hset
      exact hplain hset

theorem notMem_encode_fileName {c : Char} (hc : c ∈ ['/', '?', '#']) (bytes : List UInt8) :
    c ∉ encode fileName bytes := by
  have hset : fileName (UInt8.ofNat c.toNat) = true := by
    simp only [List.mem_cons, List.not_mem_nil, or_false] at hc
    rcases hc with rfl | rfl | rfl
    · decide
    · decide
    · decide
  have hpercent : '%' ∉ ['/', '?', '#'] := by decide
  have hdigit : ∀ n < 16, hexDigit n ∉ ['/', '?', '#'] := by decide
  apply notMem_encode isReversible_fileName hset
  · rintro rfl
    exact hpercent hc
  · rintro n hn rfl
    exact hdigit n hn hc

end Percent

/-- Neither a slash nor the marks of a query and of a fragment stand in a segment. -/
theorem notMem_fileSegments {p : FilePath} {c : Char} (hc : c ∈ ['/', '?', '#']) :
    ∀ l ∈ (fileSegments p).map String.toList, c ∉ l := by
  intro l hl
  obtain ⟨s, hs, rfl⟩ := List.mem_map.mp hl
  unfold fileSegments at hs
  split at hs
  · obtain rfl := List.mem_singleton.mp hs
    exact List.not_mem_nil
  · obtain ⟨d, -, rfl⟩ := List.mem_map.mp hs
    rw [segmentOf, String.toList_ofList]
    exact Percent.notMem_encode_fileName hc d.bytes

theorem fileSegments_ne_nil (p : FilePath) : fileSegments p ≠ [] := by
  unfold fileSegments
  cases p.components with
  | nil => exact List.cons_ne_nil _ _
  | cons c rest => exact List.cons_ne_nil _ _

/-! ### What is read -/

/-- What holds of the parts of a URL that was read. -/
structure IsRead (u : Url) : Prop where
  scheme : ':' ∉ u.scheme.toList
  file : u.scheme = "file" → ∃ host segments, u.authority = some ⟨"", host, none⟩ ∧
    u.path = .segments segments ∧ host.toList.head? ≠ some '/'

theorem toLower_ne_colon {c : Char} (h : isSchemeChar c = true) : c.toLower ≠ ':' := by
  intro hc
  unfold Char.toLower at hc
  split at hc
  · next hupper =>
      have hval := congrArg (fun c : Char => c.val.toNat) hc
      have hlow := UInt32.le_iff_toNat_le.mp hupper.1
      have hhigh := UInt32.le_iff_toNat_le.mp hupper.2
      simp at hval hlow hhigh
      omega
  · subst hc
    exact absurd h (by decide)

theorem colon_notMem_of_scheme? {s rest : List Char} {scheme : String}
    (h : scheme? s = some (scheme, rest)) : ':' ∉ scheme.toList := by
  unfold scheme? at h
  split at h
  · next c more rest' hspan =>
      split at h
      · simp only [Option.some.injEq, Prod.mk.injEq] at h
        obtain ⟨rfl, -⟩ := h
        rw [List.span_eq_takeWhile_dropWhile, Prod.mk.injEq] at hspan
        rw [String.toList_ofList]
        intro hmem
        obtain ⟨d, hd, hcolon⟩ := List.mem_map.mp hmem
        rw [← hspan.1] at hd
        exact toLower_ne_colon (List.mem_takeWhile_imp hd) hcolon
      · cases h
  · cases h

theorem slash_notMem_toString (n : Nat) : '/' ∉ (toString n).toList := by
  intro hmem
  have hdigits : '/' ∈ Nat.toDigits 10 n := by simpa using hmem
  exact absurd (Nat.isDigit_of_mem_toDigits (by decide) (by decide) hdigits) (by decide)

theorem slash_notMem_dotted (a b c d : Nat) :
    '/' ∉ (".".intercalate ([a, b, c, d].map toString)).toList := by
  simp only [String.toList_intercalate, List.map_cons, List.map_nil, List.intercalate_cons_cons,
    List.intercalate_singleton, List.mem_append, slash_notMem_toString, false_or, or_false, not_or]
  decide

theorem head?_ipv4? {name : List Char} {address : String}
    (h : Address.ipv4? name = some address) : address.toList.head? ≠ some '/' := by
  simp only [Address.ipv4?, Option.bind_eq_bind, Option.bind_eq_some_iff] at h
  obtain ⟨parts, -, last, -, h⟩ := h
  split at h
  · cases h
  · obtain rfl := Option.some.inj h
    intro hhead
    exact slash_notMem_dotted _ _ _ _ (List.mem_of_mem_head? hhead)

/-- An address of four parts begins with a digit, one of eight parts with a bracket, and a name
with something that no name is refused for. -/
theorem head?_hostName {name : List Char} {host : String} (h : hostName name = .ok host) :
    host.toList.head? ≠ some '/' := by
  unfold hostName at h
  split at h
  · next result hbracketed =>
      subst h
      unfold bracketed? at hbracketed
      split at hbracketed
      · split at hbracketed
        · split at hbracketed
          · next address haddress =>
              obtain rfl := Except.ok.inj (Option.some.inj hbracketed)
              obtain ⟨parts, -, rfl⟩ := Option.map_eq_some_iff.mp haddress
              simp
          · cases Option.some.inj hbracketed
        · cases Option.some.inj hbracketed
      · cases hbracketed
  · split at h
    · cases h
    · next ascii _ =>
        split at h
        · cases h
        · next hallowed =>
            split at h
            · cases h
            · split at h
              · split at h
                · next address haddress =>
                    obtain rfl := Except.ok.inj h
                    exact head?_ipv4? haddress
                · cases h
              · obtain rfl := Except.ok.inj h
                rw [String.toList_ofList]
                intro hhead
                have hmem : '/' ∈ ascii := List.mem_of_mem_head? hhead
                exact hallowed (List.any_eq_true.mpr ⟨'/', hmem, by decide⟩)

theorem head?_fileHost {s : List Char} {host : String} {path : List String} {rest : List Char}
    (h : fileHost s = .ok (host, path, rest)) : host.toList.head? ≠ some '/' := by
  unfold fileHost at h
  split at h
  simp only [bind, Except.bind, pure, Except.pure] at h
  split at h
  · obtain rfl := (Prod.mk.inj (Except.ok.inj h)).1
    simp
  · split at h
    · obtain rfl := (Prod.mk.inj (Except.ok.inj h)).1
      simp
    · split at h
      · cases h
      · next found hfound =>
          split at h
          · obtain rfl := (Prod.mk.inj (Except.ok.inj h)).1
            simp
          · obtain rfl := (Prod.mk.inj (Except.ok.inj h)).1
            -- A drive letter at the start of the path takes the place of the host.
            split
            · simp
            · exact head?_hostName hfound

theorem isRead_fileUrl {s : List Char} {u : Url} (h : fileUrl s = .ok u) : u.IsRead := by
  have hform : ∃ host segments rest, host.toList.head? ≠ some '/' ∧
      u = ofParts .file "file" (some ⟨"", host, none⟩) (.segments segments) rest := by
    unfold fileUrl at h
    simp only [bind, Except.bind, pure, Except.pure] at h
    split at h
    · exact ⟨_, _, _, by simp [fileUrl.hostless], (Except.ok.inj h).symm⟩
    · split at h
      · exact ⟨_, _, _, by simp [fileUrl.hostless], (Except.ok.inj h).symm⟩
      · split at h
        · cases h
        · next found hfound =>
            exact ⟨_, _, _, head?_fileHost hfound, (Except.ok.inj h).symm⟩
  obtain ⟨host, segments, rest, hhost, rfl⟩ := hform
  have hcolon : ':' ∉ "file".toList := by decide
  exact ⟨hcolon, fun _ => ⟨host, segments, rfl, rfl, hhost⟩⟩

theorem scheme_of_webUrl {kind : SchemeKind} {scheme : String} {s : List Char} {u : Url}
    (h : webUrl kind scheme s = .ok u) : u.scheme = scheme := by
  unfold webUrl at h
  simp only [bind, Except.bind, pure, Except.pure] at h
  split at h
  · cases h
  · obtain rfl := Except.ok.inj h
    rfl

theorem scheme_of_otherUrl {scheme : String} {s : List Char} {u : Url}
    (h : otherUrl scheme s = .ok u) : u.scheme = scheme := by
  unfold otherUrl at h
  simp only [bind, Except.bind, pure, Except.pure] at h
  split at h
  · split at h
    · cases h
    · obtain rfl := Except.ok.inj h
      rfl
  · obtain rfl := Except.ok.inj h
    rfl
  · obtain rfl := Except.ok.inj h
    rfl

theorem isRead_of_parse {s : String} {u : Url} (h : parse s = .ok u) : u.IsRead := by
  unfold parse at h
  simp only at h
  split at h
  · cases h
  · next scheme rest hscheme =>
      have hcolon := colon_notMem_of_scheme? hscheme
      split at h
      · exact isRead_fileUrl h
      · next defaultPort hkind =>
          obtain rfl := scheme_of_webUrl h
          refine ⟨hcolon, fun hfile => ?_⟩
          rw [hfile] at hkind
          cases hkind
      · next hkind =>
          obtain rfl := scheme_of_otherUrl h
          refine ⟨hcolon, fun hfile => ?_⟩
          rw [hfile] at hkind
          cases hkind

/-! ### One text, one document -/

/-- A URL that was read and is written like the URL of a file has no host, and segments for a
path. -/
theorem IsRead.exists_segments {u v : Url} {p : FilePath} (hu : u.IsRead)
    (hv : ofFilePath? p = some v) (htext : u.text = v.text) :
    u.scheme = "file" ∧ u.authority = some ⟨"", "", none⟩ ∧
      ∃ segments, u.path = .segments segments := by
  rw [ofFilePath?_of_isAbsolute (isAbsolute_of_ofFilePath? hv)] at hv
  obtain rfl := Option.some.inj hv
  have hlist := congrArg String.toList htext
  rw [toList_text_of_segments] at hlist
  have hscheme : u.scheme = "file" := by
    obtain ⟨rest, hrest⟩ := exists_toList_text u
    rw [hrest] at hlist
    exact String.toList_inj.mp (eq_of_append_colon hu.scheme (by decide) hlist)
  obtain ⟨host, segments, hauthority, hsegments, hhead⟩ := hu.file hscheme
  obtain ⟨rest, hrest⟩ := exists_toList_text_of_host hauthority
  rw [hrest, hscheme] at hlist
  obtain ⟨first, more, hfirst⟩ := List.exists_cons_of_ne_nil (fileSegments_ne_nil p)
  have hslash : host.toList ++ rest = '/' :: (first.toList ++
      (more.map String.toList).flatMap ('/' :: ·)) := by
    simpa [hfirst] using hlist
  have hhost : host = "" := by
    cases hchars : host.toList with
    | nil => exact String.toList_eq_nil_iff.mp hchars
    | cons c chars =>
        rw [hchars, List.cons_append] at hslash
        rw [hchars, (List.cons.inj hslash).1] at hhead
        exact absurd rfl hhead
  subst hhost
  exact ⟨hscheme, hauthority, segments, hsegments⟩

/-- A file that was read from another machine is not written like a file of this one. -/
theorem IsRead.not_text_eq {u v : Url} {p : FilePath} (hu : u.IsRead)
    (hpath : u.toFilePath? = none) (hv : ofFilePath? p = some v) : u.text ≠ v.text := by
  intro htext
  obtain ⟨hscheme, hauthority, segments, hsegments⟩ := hu.exists_segments hv htext
  simp [toFilePath?, hscheme, hauthority, hsegments] at hpath

/-- What stands behind the path of a URL is marked by a character that no path of a file has. -/
theorem exists_toList_text_of_segments {u : Url} {segments : List String}
    (hscheme : u.scheme = "file") (hauthority : u.authority = some ⟨"", "", none⟩)
    (hpath : u.path = .segments segments) :
    ∃ tail, u.text.toList
        = "file://".toList ++ ((segments.map String.toList).flatMap ('/' :: ·) ++ tail) ∧
      (tail = [] ∨ ∃ c ∈ ['?', '#'], c ∈ tail) := by
  obtain ⟨scheme, authority, path, query, fragment⟩ := u
  subst hscheme hauthority hpath
  have hform : ∀ query fragment, (⟨"file", some ⟨"", "", none⟩, .segments segments, query,
      fragment⟩ : Url).text.toList = "file://".toList ++
        ((segments.map String.toList).flatMap ('/' :: ·) ++
          ((query.map ("?" ++ ·)).getD "" ++ (fragment.map ("#" ++ ·)).getD "").toList) := by
    intro query fragment
    cases query <;> cases fragment <;>
      simp [text, Authority.text, dotBeforePath, UrlPath.text, String.toList_join, List.flatMap_map]
  refine ⟨_, hform query fragment, ?_⟩
  cases query with
  | some q => exact .inr ⟨'?', by decide, by simp⟩
  | none =>
      cases fragment with
      | some f => exact .inr ⟨'#', by decide, by simp⟩
      | none => exact .inl (by simp)

/-- A URL that was read and is written like the URL of a file is of that file. -/
theorem IsRead.toFilePath?_eq_of_text_eq {u v : Url} {p : FilePath} (hu : u.IsRead)
    (hv : ofFilePath? p = some v) (htext : u.text = v.text) : u.toFilePath? = v.toFilePath? := by
  obtain ⟨hscheme, hauthority, segments, hsegments⟩ := hu.exists_segments hv htext
  obtain ⟨tail, hlist, htail⟩ := exists_toList_text_of_segments hscheme hauthority hsegments
  rw [ofFilePath?_of_isAbsolute (isAbsolute_of_ofFilePath? hv)] at hv
  obtain rfl := Option.some.inj hv
  rw [htext, toList_text_of_segments] at hlist
  have hpaths := List.append_cancel_left hlist
  have hnil : tail = [] := by
    rcases htail with hnil | ⟨c, hc, hmem⟩
    · exact hnil
    · have hpath : c ∈ ((fileSegments p).map String.toList).flatMap ('/' :: ·) := by
        rw [hpaths]
        exact List.mem_append_right _ hmem
      obtain ⟨l, hl, hcl⟩ := List.mem_flatMap.mp hpath
      rcases List.mem_cons.mp hcl with rfl | hcl
      · exact absurd hc (by decide)
      · exact absurd hcl (notMem_fileSegments (List.mem_cons_of_mem _ hc) l hl)
  rw [hnil, List.append_nil] at hpaths
  have hbytes : pathBytes segments = pathBytes (fileSegments p) := by
    rw [pathBytes_eq_decode, pathBytes_eq_decode, hpaths]
  simp only [toFilePath?, hscheme, hauthority, hsegments, hbytes]

/-- Among the URLs of documents, the one that is written like the URL of a file is that URL. -/
theorem IsCanonical.eq_of_text_eq {u v : Url} {p : FilePath} (hu : u.IsCanonical)
    (hv : ofFilePath? p = some v) (htext : u.text = v.text) : u = v := by
  cases hu with
  | noFile hpath hread => exact absurd htext ((isRead_of_parse hread).not_text_eq hpath hv)
  | @ofFile q _ huri =>
      rw [ofFilePath?_of_isAbsolute (isAbsolute_of_ofFilePath? huri)] at huri
      rw [ofFilePath?_of_isAbsolute (isAbsolute_of_ofFilePath? hv)] at hv
      obtain rfl := Option.some.inj huri
      obtain rfl := Option.some.inj hv
      have hlist := congrArg String.toList htext
      rw [toList_text_of_segments, toList_text_of_segments] at hlist
      have hsegments := eq_of_flatMap_slash_eq (notMem_fileSegments (by decide))
        (notMem_fileSegments (by decide))
        (List.append_cancel_left hlist)
      rw [(List.map_inj_right (fun _ _ h => String.toList_inj.mp h)).mp hsegments]

end HttpScript.Url
