/-
Module: HttpScript.Proofs.Variable.ResolvedSide
Purpose: What a path into an exchange can end in, and what of the exchange decides it.  Whether a
  path is one at all is decided by its text alone.  A path that begins with a side is resolved from
  the headers and the body of that side, so nothing on the other side ever shows in the result.
Main exports: Resolution.Understood, resolve_understood, resolve_of_not_spelled, Capture.AgreesOn,
  resolve_congr, resolve_outcome
-/
import HttpScript.Proofs.Variable.CapturedValue

namespace HttpScript.Variable

open Text Json PathForm

/-! ### Outcomes -/

/-- A success has a value and nothing to tell, a warning and an error something to tell and no value.
-/
def Resolution.IsComplete (r : Resolution) : Prop :=
  (r.state = .success ∧ r.value.isSome = true ∧ r.message = none) ∨
    ((r.state = .warning ∨ r.state = .error) ∧ r.value = none ∧ r.message.isSome = true)

/-- A value alone, or a warning alone. -/
inductive Resolution.Understood : Resolution → Prop where
  | success (value : String) : Understood ⟨.success, some value, none⟩
  | warning (message : String) : Understood ⟨.warning, none, some message⟩

variable {c c' : Capture} {side : Side} {path : String} {form : PathForm}

theorem Resolution.Understood.isComplete {r : Resolution} (h : r.Understood) : r.IsComplete := by
  cases h with
  | success value => exact .inl ⟨rfl, rfl, rfl⟩
  | warning message => exact .inr ⟨.inl rfl, rfl, rfl⟩

theorem Resolution.Understood.state_ne_error {r : Resolution} (h : r.Understood) :
    r.state ≠ .error := by
  cases h with
  | success value => exact nofun
  | warning message => exact nofun

theorem resolveHeader_understood (c : Capture) (side : Side) (name : List Char) :
    (resolveHeader c side name).Understood := by
  unfold resolveHeader
  split
  · exact .warning _
  · simp only
    split
    · exact .success _
    · exact .warning _

theorem resolveJson_understood (side : Side) (body : String) (path : List Char) :
    (resolveJson side body path).Understood := by
  unfold resolveJson
  simp only
  split
  · exact .warning _
  · split
    · exact .warning _
    · split
      · exact .success _
      · exact .warning _

theorem resolveBody_understood (c : Capture) (side : Side) (path : List Char) :
    (resolveBody c side path).Understood := by
  unfold resolveBody
  split
  · exact .warning _
  · split
    · exact .warning _
    · split
      · exact .success _
      · split
        · exact resolveJson_understood side _ path
        · exact .warning _

/-- A path that spells a form is understood. -/
theorem resolve_understood (c : Capture) (h : Spelled path.toList form) :
    (resolve c path).Understood := by
  rw [resolve, h.parse?_eq]
  cases form with
  | empty => exact .warning _
  | side side => exact .warning _
  | part side part selector =>
      cases part with
      | headers => exact resolveHeader_understood c side selector
      | body => exact resolveBody_understood c side selector

/-- What is told of a text that is no path. -/
def noPathMessage (path : String) : String :=
  s!"Invalid request variable reference '{path}'. Expected 'request' or 'response' " ++
    "followed by 'headers' or 'body'"

/-- The exchange has no part in refusing a text that is no path. -/
theorem resolve_of_not_spelled (c : Capture) (h : ¬∃ form, Spelled path.toList form) :
    resolve c path = ⟨.error, none, some (noPathMessage path)⟩ := by
  rw [resolve, parse?_eq_none_iff.mpr h]
  rfl

/-! ### One side of two exchanges -/

/-- On this side the exchanges have the same body, and headers of the same values under the same
names, where names are the same in any case of their letters. -/
structure Capture.AgreesOn (side : Side) (c c' : Capture) : Prop where
  body_eq : c.body? side = c'.body? side
  headers_iff : ∀ name value,
    (∃ k, (k, value) ∈ (c.headers side).entries ∧ Http.sameIgnoringCase k name = true) ↔
      ∃ k, (k, value) ∈ (c'.headers side).entries ∧ Http.sameIgnoringCase k name = true

/-- Names that are told apart by more than their case. -/
theorem headerValue?_congr {headers headers' : Dict String} (h : Http.NamesApart headers)
    (h' : Http.NamesApart headers') {name : String}
    (hiff : ∀ value, (∃ k, (k, value) ∈ headers.entries ∧ Http.sameIgnoringCase k name = true) ↔
      ∃ k, (k, value) ∈ headers'.entries ∧ Http.sameIgnoringCase k name = true) :
    Http.headerValue? headers name = Http.headerValue? headers' name := by
  apply Option.ext
  intro value
  rw [Http.headerValue?_eq_some_iff h, Http.headerValue?_eq_some_iff h']
  exact hiff value

theorem contentType?_eq_headerValue? (c : Capture) (side : Side) :
    c.contentType? side = Http.headerValue? (c.headers side) "content-type" := by
  cases side with
  | request => rfl
  | response => rfl

section Agreement

variable (h : Http.NamesApart (c.headers side)) (h' : Http.NamesApart (c'.headers side))
  (hagree : c.AgreesOn side c')
include h h' hagree

theorem headerValue?_of_agreesOn (name : String) :
    Http.headerValue? (c.headers side) name = Http.headerValue? (c'.headers side) name :=
  headerValue?_congr h h' (hagree.headers_iff name)

theorem resolveHeader_congr (name : List Char) :
    resolveHeader c side name = resolveHeader c' side name := by
  simp only [resolveHeader, headerValue?_of_agreesOn h h' hagree]

theorem resolveBody_congr (path : List Char) :
    resolveBody c side path = resolveBody c' side path := by
  unfold resolveBody
  rw [hagree.body_eq, contentType?_eq_headerValue?, contentType?_eq_headerValue?,
    headerValue?_of_agreesOn h h' hagree]

/-- A path that begins with a side is resolved from what the exchanges agree on. -/
theorem resolve_congr (hside : sideName side <+: path.toList) :
    resolve c path = resolve c' path := by
  by_cases hform : ∃ form, Spelled path.toList form
  · obtain ⟨form, hform⟩ := hform
    rw [resolve, resolve, hform.parse?_eq]
    obtain rfl | ⟨part, selector, rfl⟩ := hform.form_of_side hside
    · rfl
    · cases part with
      | headers => exact resolveHeader_congr h h' hagree selector
      | body => exact resolveBody_congr h h' hagree selector
  · rw [resolve_of_not_spelled c hform, resolve_of_not_spelled c' hform]

end Agreement

/-! ### All paths -/

/-- A path ends in a value, or in a warning or an error that says why there is none.  It is an error
exactly if it spells no form, with the same message whatever the exchange.  A path that begins with a
side is resolved from the headers and the body of that side alone. -/
theorem resolve_outcome (path : String) :
    (∀ c, (resolve c path).IsComplete) ∧
    (∀ c, (resolve c path).state = .error ↔ ¬∃ form, Spelled path.toList form) ∧
    (∀ c, (resolve c path).state = .error →
      ∀ c', resolve c' path = ⟨.error, none, some (noPathMessage path)⟩) ∧
    ∀ side c c', sideName side <+: path.toList → Http.NamesApart (c.headers side) →
      Http.NamesApart (c'.headers side) → c.AgreesOn side c' →
      resolve c path = resolve c' path := by
  have herror : ∀ c, (resolve c path).state = .error ↔ ¬∃ form, Spelled path.toList form := by
    intro c
    constructor
    · rintro hstate ⟨form, hform⟩
      exact (resolve_understood c hform).state_ne_error hstate
    · intro hform
      rw [resolve_of_not_spelled c hform]
  refine ⟨?_, herror, ?_, ?_⟩
  · intro c
    by_cases hform : ∃ form, Spelled path.toList form
    · obtain ⟨form, hform⟩ := hform
      exact (resolve_understood c hform).isComplete
    · rw [resolve_of_not_spelled c hform]
      exact .inr ⟨.inr rfl, rfl, rfl⟩
  · intro c hstate c'
    exact resolve_of_not_spelled c' ((herror c).mp hstate)
  · intro side c c' hside h h' hagree
    exact resolve_congr h h' hagree hside

/-- The same answer to another request, with the name of its header in another case. -/
def otherOrder : Capture where
  request := .setBody (.new "search" .post "https://shop.example/search") "tea"
  response := .setBody (.addHeader (.new 201 "Created") "CONTENT-TYPE" "application/hal+json; v=1")
    lastOrder.response.body

theorem agreesOn_otherOrder : lastOrder.AgreesOn .response otherOrder := by
  refine ⟨rfl, fun name value => ?_⟩
  have hname : Http.sameIgnoringCase "content-Type" name =
      Http.sameIgnoringCase "CONTENT-TYPE" name := by
    simp only [Http.sameIgnoringCase]
    exact congrArg (· == _) (by decide)
  have hentries : (lastOrder.headers .response).entries =
      [("content-Type", "application/hal+json; v=1")] := rfl
  have hentries' : (otherOrder.headers .response).entries =
      [("CONTENT-TYPE", "application/hal+json; v=1")] := rfl
  simp only [hentries, hentries', List.mem_singleton, Prod.mk.injEq, and_assoc, exists_eq_left,
    hname]

theorem resolve_outcome_otherOrder :
    lastOrder.AgreesOn .response otherOrder ∧
      resolve otherOrder "response.headers.Content-Type" =
        resolve lastOrder "response.headers.Content-Type" ∧
      (resolve lastOrder "request.body.*").state = .warning ∧
      resolve otherOrder "request.body.*" = .success "tea" ∧
      resolve otherOrder "response.cookies.id" =
        ⟨.error, none, some (noPathMessage "response.cookies.id")⟩ := by
  have hside : sideName .response <+: "response.headers.Content-Type".toList := by decide
  have hsame := (resolve_outcome "response.headers.Content-Type").2.2.2 .response lastOrder
    otherOrder hside (by decide) (by decide) agreesOn_otherOrder
  have herror := (resolve_outcome "response.cookies.id").2.2.1 lastOrder (by decide) otherOrder
  exact ⟨agreesOn_otherOrder, hsame.symm, by decide, by decide, herror⟩

end HttpScript.Variable
