/-
Module: HttpScript.Server.Buffers
Purpose: The documents open in an editor.  An included document that is open is read from its
  buffer, whatever the disk holds.
Main exports: Buffers, Buffers.load, Buffers.mem_all_insert, Buffers.mem_all_erase,
  Buffers.eq_of_mem_all
-/
import HttpScript.Script.Loader
import HttpScript.TextDocument
import HttpScript.UriMap

namespace HttpScript.Server

/-- Texts of open documents. -/
structure Buffers where
  texts : UriMap String
deriving Repr, DecidableEq

namespace Buffers

def empty : Buffers := ⟨{}⟩

instance : EmptyCollection Buffers := ⟨empty⟩
instance : Inhabited Buffers := ⟨empty⟩

/-- Opens a document, or replaces its text. -/
def insert (b : Buffers) (uri : Url) (text : String) : Buffers :=
  ⟨b.texts.insert uri text⟩

/-- Replaces the text of an open document. -/
def update? (b : Buffers) (uri : Url) (text : String) : Option Buffers :=
  if b.texts.contains uri then some (b.insert uri text) else none

/-- The document, if it is open. -/
def get? (b : Buffers) (uri : Url) : Option TextDocument :=
  (b.texts.get? uri).map (⟨uri, ·⟩)

/-- Closes a document. -/
def erase (b : Buffers) (uri : Url) : Buffers :=
  ⟨b.texts.erase uri⟩

/-- Every open document, ordered by URI. -/
def all (b : Buffers) : List TextDocument :=
  b.texts.toList.map (fun e => ⟨e.1, e.2⟩)

def size (b : Buffers) : Nat :=
  b.texts.size

/-- What is said about a document that would have to be open. -/
def notFoundMessage (uri : Url) : String :=
  s!"Document not found: {uri.text}"

/-- Loads a document from its buffer, or else from the disk. -/
def load (b : Buffers) (disk : Script.Disk) : Script.Loader := fun path =>
  match (Url.ofFilePath? path).bind b.texts.get? with
  | some text => .ok text
  | none => disk.load path

/-! ### Which documents are open -/

@[simp] theorem get?_insert (b : Buffers) (uri u : Url) (text : String) :
    (b.insert uri text).get? u = if u.text = uri.text then some ⟨u, text⟩ else b.get? u := by
  simp only [get?, insert, UriMap.get?_insert]
  split <;> rfl

@[simp] theorem get?_erase (b : Buffers) (uri u : Url) :
    (b.erase uri).get? u = if u.text = uri.text then none else b.get? u := by
  simp only [get?, erase, UriMap.get?_erase]
  split <;> rfl

/-- A document is open by the text of its URI. -/
theorem get?_eq_none_congr {b : Buffers} {u u' : Url} (h : u.text = u'.text) :
    b.get? u = none ↔ b.get? u' = none := by
  simp [get?, UriMap.get?, h]

theorem mem_all_iff {b : Buffers} {d : TextDocument} :
    d ∈ b.all ↔ (d.uri, d.text) ∈ b.texts.toList := by
  rw [all, List.mem_map]
  constructor
  · rintro ⟨e, he, rfl⟩
    exact he
  · intro h
    exact ⟨_, h, rfl⟩

theorem mem_all_insert {b : Buffers} {uri : Url} {text : String} {d : TextDocument} :
    d ∈ (b.insert uri text).all ↔ d = ⟨uri, text⟩ ∨ d ∈ b.all ∧ d.uri.text ≠ uri.text := by
  have heq : d = ⟨uri, text⟩ ↔ (d.uri, d.text) = (uri, text) := by
    cases d
    simp
  rw [mem_all_iff, mem_all_iff, heq]
  exact UriMap.mem_toList_insert

theorem mem_all_erase {b : Buffers} {uri : Url} {d : TextDocument} :
    d ∈ (b.erase uri).all ↔ d ∈ b.all ∧ d.uri.text ≠ uri.text := by
  rw [mem_all_iff, mem_all_iff]
  exact UriMap.mem_toList_erase

theorem get?_texts_of_mem_all {b : Buffers} {d : TextDocument} (h : d ∈ b.all) :
    b.texts.get? d.uri = some d.text := by
  have hlisted := UriMap.get?_of_mem_toList (mem_all_iff.mp h)
  exact hlisted

theorem get?_of_mem_all {b : Buffers} {d : TextDocument} (h : d ∈ b.all) :
    b.get? d.uri = some d := by
  rw [get?, get?_texts_of_mem_all h]
  rfl

/-- No two open documents have the same URI. -/
theorem eq_of_mem_all {b : Buffers} {d d' : TextDocument} (h : d ∈ b.all) (h' : d' ∈ b.all)
    (htext : d.uri.text = d'.uri.text) : d = d' := by
  have heq := UriMap.eq_of_mem_toList (mem_all_iff.mp h) (mem_all_iff.mp h') htext
  obtain ⟨huri, htexts⟩ := Prod.mk.inj heq
  cases d
  cases d'
  simp_all

theorem nodup_texts_all (b : Buffers) : (b.all.map (·.uri.text)).Nodup := by
  rw [all, List.map_map]
  exact b.texts.nodup_texts

end Buffers

end HttpScript.Server
