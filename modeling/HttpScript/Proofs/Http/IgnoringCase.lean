/-
Module: HttpScript.Proofs.Http.IgnoringCase
Purpose: Names up to the case of ASCII letters.  The ASCII words that name a method are the nine names
  in any case, and where no two headers have the same name in this sense, a header that is looked up
  is the one there is.
Main exports: sameIgnoringCase_iff, Method.parse?_eq_some_iff, Method.parse?_eq_some_iff_of_ascii,
  Method.parse?_of_sameIgnoringCase, NamesApart, headerValue?_eq_some_iff
-/
import HttpScript.Http.Message
import Mathlib

namespace HttpScript.Http

theorem sameIgnoringCase_iff {a b : String} :
    sameIgnoringCase a b = true ↔ a.toList.map Char.toLower = b.toList.map Char.toLower :=
  beq_iff_eq

/-! ### Methods -/

namespace Method

variable {word : List Char} {m : Method}

/-- A word names a method if in upper case it is the method's name. -/
theorem parse?_eq_some_iff : parse? word = some m ↔ word.flatMap upper = m.name.toList := by
  constructor
  · intro h
    rw [parse?] at h
    have hname := List.find?_some h
    exact (beq_iff_eq.mp hname).symm
  · intro h
    rw [parse?, h]
    cases m <;> decide

theorem toNat_lt_of_isAlpha {c : Char} (h : c.isAlpha = true) : c.toNat < 128 := by
  simp only [Char.isAlpha, Char.isUpper, Char.isLower, Bool.or_eq_true, Bool.and_eq_true,
    decide_eq_true_eq, UInt32.le_iff_toNat_le] at h
  have htoNat : c.toNat = c.val.toNat := rfl
  rcases h with ⟨-, hle⟩ | ⟨-, hle⟩
  · exact htoNat ▸ Nat.lt_of_le_of_lt hle (by decide)
  · exact htoNat ▸ Nat.lt_of_le_of_lt hle (by decide)

theorem upper_of_lt {c : Char} (h : c.toNat < 128) : upper c = [c.toUpper] := by
  unfold upper
  split
  all_goals first | rfl | omega

theorem flatMap_upper_of_ascii (h : ∀ c ∈ word, c.toNat < 128) :
    word.flatMap upper = word.map Char.toUpper := by
  rw [List.map_eq_flatMap]
  exact List.flatMap_congr (fun c hc => upper_of_lt (h c hc))

/-- Names of methods are in upper case, so it does not matter which case is compared. -/
theorem map_toUpper_eq_iff :
    word.map Char.toUpper = m.name.toList ↔ sameIgnoringCase (String.ofList word) m.name = true := by
  rw [sameIgnoringCase_iff, String.toList_ofList]
  constructor
  · intro h
    rw [← h, List.map_map]
    exact List.map_congr_left (fun c _ => (Char.toLower_toUpper_eq_toLower c).symm)
  · intro h
    calc word.map Char.toUpper
        = (word.map Char.toLower).map Char.toUpper := by
          rw [List.map_map]
          exact List.map_congr_left (fun c _ => (Char.toUpper_toLower_eq_toUpper c).symm)
      _ = (m.name.toList.map Char.toLower).map Char.toUpper := by rw [h]
      _ = m.name.toList := by cases m <;> decide

/-- What is a method's name in some case consists of letters. -/
theorem letters_of_sameIgnoringCase (h : sameIgnoringCase (String.ofList word) m.name = true) :
    ∀ c ∈ word, c.isAlpha = true := by
  have hname : ∀ c ∈ m.name.toList.map Char.toUpper, c.isAlpha = true := by
    rw [← List.all_eq_true]
    cases m <;> decide
  intro c hc
  have hupper : c.toUpper ∈ m.name.toList := by
    rw [← map_toUpper_eq_iff.mpr h]
    exact List.mem_map_of_mem hc
  rw [← Char.isAlpha_toUpper_eq_isAlpha, ← Char.isAlpha_toUpper_eq_isAlpha]
  exact hname _ (List.mem_map_of_mem hupper)

/-- Of ASCII words, the names of methods in any case name methods. -/
theorem parse?_eq_some_iff_of_ascii (h : ∀ c ∈ word, c.toNat < 128) :
    parse? word = some m ↔ sameIgnoringCase (String.ofList word) m.name = true := by
  rw [parse?_eq_some_iff, flatMap_upper_of_ascii h, map_toUpper_eq_iff]

theorem parse?_of_sameIgnoringCase (h : sameIgnoringCase (String.ofList word) m.name = true) :
    parse? word = some m := by
  have hletters := letters_of_sameIgnoringCase h
  exact (parse?_eq_some_iff_of_ascii fun c hc => toNat_lt_of_isAlpha (hletters c hc)).mpr h

end Method

/-! ### Headers -/

/-- No two names are the same up to case. -/
def NamesApart (headers : Dict String) : Prop :=
  headers.entries.Pairwise (fun a b => sameIgnoringCase a.1 b.1 = false)

instance (headers : Dict String) : Decidable (NamesApart headers) :=
  inferInstanceAs (Decidable (List.Pairwise _ _))

/-- The value looked up is that of the header with the name in any case. -/
theorem headerValue?_eq_some_iff {headers : Dict String} (h : NamesApart headers)
    {name value : String} :
    headerValue? headers name = some value ↔
      ∃ k, (k, value) ∈ headers.entries ∧ sameIgnoringCase k name = true := by
  rw [headerValue?, Option.map_eq_some_iff]
  constructor
  · rintro ⟨⟨k, v⟩, hfind, rfl⟩
    have hsame := List.find?_some hfind
    exact ⟨k, List.mem_of_find?_eq_some hfind, hsame⟩
  · rintro ⟨k, hmem, hsame⟩
    obtain ⟨before, after, hsplit⟩ := List.append_of_mem hmem
    refine ⟨(k, value), ?_, rfl⟩
    rw [List.find?_eq_some_iff_append]
    refine ⟨hsame, before, after, hsplit, ?_⟩
    intro e he
    have hapart : sameIgnoringCase e.1 k = false := by
      rw [NamesApart, hsplit, List.pairwise_append] at h
      exact h.2.2 e he (k, value) List.mem_cons_self
    rw [Bool.not_eq_true', ← Bool.not_eq_true, sameIgnoringCase_iff]
    intro hother
    rw [← Bool.not_eq_true, sameIgnoringCase_iff] at hapart
    exact hapart (hother.trans (sameIgnoringCase_iff.mp hsame).symm)

end HttpScript.Http
