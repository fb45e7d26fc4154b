/-
Module: HttpScript.Variable.Capture
Purpose: The last exchange of each named request.  Names belong to documents: the same name in
  another document is another request.
Main exports: CaptureKey, Capture, Captures
-/
import HttpScript.Http.Message
import HttpScript.Url.Basic

namespace HttpScript.Variable

/-- A named request of a document. -/
structure CaptureKey where
  name : String
  document : Url
deriving Repr, DecidableEq

/-- A request and the response to it. -/
structure Capture where
  request : Http.Request
  response : Http.Response
deriving Repr, DecidableEq

/-- At most one exchange for each named request. -/
structure Captures where
  entries : List (CaptureKey × Capture)
deriving Repr

namespace Captures

def empty : Captures := ⟨[]⟩

instance : EmptyCollection Captures := ⟨empty⟩
instance : Inhabited Captures := ⟨empty⟩

/-- Forgets the exchange of a request. -/
def erase (cs : Captures) (key : CaptureKey) : Captures :=
  ⟨cs.entries.filter (fun e => e.1 ≠ key)⟩

/-- Keeps an exchange in place of the one before it. -/
def insert (cs : Captures) (key : CaptureKey) (capture : Capture) : Captures :=
  ⟨(key, capture) :: (cs.erase key).entries⟩

def get? (cs : Captures) (key : CaptureKey) : Option Capture :=
  cs.entries.lookup key

def contains (cs : Captures) (key : CaptureKey) : Bool :=
  (cs.get? key).isSome

/-- Forgets all exchanges of a document's requests. -/
def eraseDocument (cs : Captures) (document : Url) : Captures :=
  ⟨cs.entries.filter (fun e => e.1.document ≠ document)⟩

def size (cs : Captures) : Nat :=
  cs.entries.length

theorem get?_erase_of_ne {cs : Captures} {key other : CaptureKey} (h : other ≠ key) :
    (cs.erase key).get? other = cs.get? other := by
  have hentries : ∀ entries : List (CaptureKey × Capture),
      (entries.filter (fun e => e.1 ≠ key)).lookup other = entries.lookup other := by
    intro entries
    induction entries with
    | nil => rfl
    | cons e entries ih =>
      obtain ⟨k, capture⟩ := e
      by_cases hkey : k = key
      · have hother : (other == k) = false := by simpa [hkey] using h
        rw [List.filter_cons_of_neg (by simpa using hkey), List.lookup_cons, hother, ih]
      · rw [List.filter_cons_of_pos (by simpa using hkey), List.lookup_cons, List.lookup_cons, ih]
  exact hentries cs.entries

theorem get?_insert_of_ne {cs : Captures} {key other : CaptureKey} {capture : Capture}
    (h : other ≠ key) : (cs.insert key capture).get? other = cs.get? other := by
  have hother : (other == key) = false := by simpa using h
  have hrest : (cs.insert key capture).get? other = (cs.erase key).get? other := by
    simp only [insert, get?, List.lookup_cons, hother]
  exact hrest.trans (get?_erase_of_ne h)

end Captures

end HttpScript.Variable
