/-
Module: HttpScript.UriMap
Purpose: Finite maps from documents to values, listed in the order of the documents' URIs.
Main exports: UriMap, UriMap.get?_insert, UriMap.get?_erase, UriMap.mem_toList_insert,
  UriMap.mem_toList_erase, UriMap.eq_of_mem_toList
-/
import HttpScript.Dict
import HttpScript.Url.Basic

namespace HttpScript

universe u

/-- Values of documents, kept under the text of the document's URI. -/
structure UriMap (α : Type u) where
  byText : Dict (Url × α)
  /-- Every value lies under the URI it is kept with. -/
  keyed : ∀ e ∈ byText.entries, e.1 = e.2.1.text
deriving DecidableEq

namespace UriMap

variable {α : Type u}

def empty : UriMap α := ⟨{}, by rintro e ⟨⟩⟩

instance : EmptyCollection (UriMap α) := ⟨empty⟩
instance : Inhabited (UriMap α) := ⟨empty⟩

instance [Repr α] : Repr (UriMap α) := ⟨fun m n => reprPrec m.byText n⟩

def insert (m : UriMap α) (uri : Url) (value : α) : UriMap α where
  byText := m.byText.insert uri.text (uri, value)
  keyed e he := by
    rcases Entries.mem_insert he with rfl | he
    · rfl
    · exact m.keyed e he

def erase (m : UriMap α) (uri : Url) : UriMap α where
  byText := m.byText.erase uri.text
  keyed e he := m.keyed e (List.mem_filter.mp he).1

def get? (m : UriMap α) (uri : Url) : Option α :=
  (m.byText.get? uri.text).map (·.2)

def contains (m : UriMap α) (uri : Url) : Bool :=
  m.byText.contains uri.text

/-- Documents and their values, ordered by the documents' URIs. -/
def toList (m : UriMap α) : List (Url × α) :=
  m.byText.entries.map (·.2)

def size (m : UriMap α) : Nat :=
  m.byText.size

/-! ### Looking up -/

@[simp] theorem get?_insert (m : UriMap α) (uri u : Url) (value : α) :
    (m.insert uri value).get? u = if u.text = uri.text then some value else m.get? u := by
  simp only [get?, insert, Dict.get?_insert]
  split <;> rfl

@[simp] theorem get?_erase (m : UriMap α) (uri u : Url) :
    (m.erase uri).get? u = if u.text = uri.text then none else m.get? u := by
  simp only [get?, erase, Dict.get?_erase]
  split <;> rfl

/-- A value is found by the text of a URI. -/
theorem get?_congr (m : UriMap α) {u u' : Url} (h : u.text = u'.text) : m.get? u = m.get? u' := by
  rw [get?, get?, h]

theorem contains_eq_isSome (m : UriMap α) (uri : Url) : m.contains uri = (m.get? uri).isSome := by
  rw [contains, get?, Dict.contains, Option.isSome_map]

/-! ### Listing -/

/-- A document is listed with what is kept under its URI. -/
theorem mem_toList_iff {m : UriMap α} {e : Url × α} :
    e ∈ m.toList ↔ m.byText.get? e.1.text = some e := by
  rw [toList, List.mem_map]
  constructor
  · rintro ⟨entry, hentry, rfl⟩
    rw [← m.keyed entry hentry]
    exact Dict.mem_entries_iff.mp hentry
  · intro h
    exact ⟨(e.1.text, e), Dict.mem_entries_iff.mpr h, rfl⟩

theorem mem_toList_insert {m : UriMap α} {uri : Url} {value : α} {e : Url × α} :
    e ∈ (m.insert uri value).toList ↔ e = (uri, value) ∨ e ∈ m.toList ∧ e.1.text ≠ uri.text := by
  rw [mem_toList_iff, mem_toList_iff, insert, Dict.get?_insert]
  by_cases htext : e.1.text = uri.text
  · simp [htext, eq_comm]
  · have hne : e ≠ (uri, value) := by
      rintro rfl
      exact htext rfl
    simp [htext, hne]

theorem mem_toList_erase {m : UriMap α} {uri : Url} {e : Url × α} :
    e ∈ (m.erase uri).toList ↔ e ∈ m.toList ∧ e.1.text ≠ uri.text := by
  rw [mem_toList_iff, mem_toList_iff, erase, Dict.get?_erase]
  by_cases htext : e.1.text = uri.text <;> simp [htext]

/-- One URI, one entry. -/
theorem eq_of_mem_toList {m : UriMap α} {e e' : Url × α} (h : e ∈ m.toList) (h' : e' ∈ m.toList)
    (htext : e.1.text = e'.1.text) : e = e' := by
  rw [mem_toList_iff, htext, mem_toList_iff.mp h'] at h
  exact (Option.some.inj h).symm

theorem get?_of_mem_toList {m : UriMap α} {e : Url × α} (h : e ∈ m.toList) :
    m.get? e.1 = some e.2 := by
  rw [get?, mem_toList_iff.mp h]
  rfl

theorem exists_mem_toList_of_get? {m : UriMap α} {uri : Url} {value : α}
    (h : m.get? uri = some value) : ∃ u, u.text = uri.text ∧ (u, value) ∈ m.toList := by
  obtain ⟨⟨u, v⟩, hentry, rfl⟩ := Option.map_eq_some_iff.mp h
  have hkeyed : uri.text = u.text := m.keyed (uri.text, u, v) (Dict.mem_entries_iff.mpr hentry)
  exact ⟨u, hkeyed.symm, mem_toList_iff.mpr (hkeyed ▸ hentry)⟩

theorem nodup_texts (m : UriMap α) : (m.toList.map (·.1.text)).Nodup := by
  have hkeys : m.toList.map (·.1.text) = m.byText.keys := by
    rw [toList, List.map_map]
    exact List.map_congr_left (fun e he => (m.keyed e he).symm)
  rw [hkeys]
  exact m.byText.nodup_keys

end UriMap

end HttpScript
