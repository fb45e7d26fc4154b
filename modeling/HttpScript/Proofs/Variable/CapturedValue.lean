/-
Module: HttpScript.Proofs.Variable.CapturedValue
Purpose: Values inside the body of a captured response.  A path that is written step by step
  resolves to the value that these steps lead to in the JSON of the body, and with a warning where
  they lead to none.
Main exports: HasJsonType, resolve_responseBody, resolve_writtenPath
-/
import HttpScript.Proofs.Http.IgnoringCase
import HttpScript.Proofs.Json.PathWriting
import HttpScript.Proofs.Variable.CapturePathForm

namespace HttpScript.Variable

open Text Json

/-! ### Bodies -/

/-- Some header says that the body is JSON. -/
def HasJsonType (r : Http.Response) : Prop :=
  ∃ name contentType, (name, contentType) ∈ r.headers.entries ∧
    Http.sameIgnoringCase name "content-type" = true ∧ isJsonType contentType = true

variable {c : Capture} {selector : List Char} {json : Value}

theorem HasJsonType.contentType? {r : Http.Response} (h : HasJsonType r)
    (hapart : Http.NamesApart r.headers) : r.contentType?.any isJsonType = true := by
  obtain ⟨name, contentType, hmem, hname, htype⟩ := h
  have hvalue : r.contentType? = some contentType :=
    (Http.headerValue?_eq_some_iff hapart).mpr ⟨name, hmem, hname⟩
  rw [hvalue]
  exact htype

theorem resolve_responseBody (c : Capture) (h : '\n' ∉ selector) :
    resolve c ("response.body." ++ String.ofList selector) = resolveBody c .response selector := by
  have hpath : ("response.body." ++ String.ofList selector).toList =
      PathForm.sideName .response ++ '.' :: (PathForm.partName .body ++ '.' :: selector) := by
    simp only [String.toList_append, String.toList_ofList]
    rfl
  rw [resolve, hpath, (PathForm.Spelled.selector .response .body h).parse?_eq]

/-- What is read as JSON is not empty. -/
theorem body?_of_parse (h : Json.parse c.response.body.toList = .ok json) :
    c.body? .response = some c.response.body := by
  have hbody : c.response.body.isEmpty = false := by
    by_contra hempty
    have hnil : c.response.body = "" := String.isEmpty_iff.mp (by simpa using hempty)
    rw [hnil] at h
    cases h
  rw [Capture.body?, Option.filter_some, if_pos (by simp [hbody])]

/-- In a JSON body, steps are followed from its value. -/
theorem resolveBody_of_json (hapart : Http.NamesApart c.response.headers)
    (htype : HasJsonType c.response) (hjson : Json.parse c.response.body.toList = .ok json)
    {steps : List Step} (hsteps : Step.ofPath? selector = some steps) :
    resolveBody c .response selector =
      match json.follow? steps with
      | some v => .success (valueText v)
      | none => .warning s!"No value is resolved for JSONPath '{String.ofList selector}'" := by
  have hne : selector ≠ [] := by
    rintro rfl
    cases hsteps
  have hstar : selector ≠ ['*'] := by
    rintro rfl
    cases hsteps
  have hpath : resolveBody c .response selector =
      resolveJson .response c.response.body selector := by
    simp only [resolveBody, List.isEmpty_iff, hne, body?_of_parse hjson, hstar, if_false,
      Capture.contentType?, htype.contentType? hapart, if_true]
  rw [hpath]
  cases hfollow : json.follow? steps with
  | some v => simp only [resolveJson, hjson, hsteps, hfollow]
  | none => simp only [resolveJson, hjson, hsteps, hfollow]

/-- A path that is written step by step is read as its steps.  In the JSON body of a response it
resolves to the value that the steps lead to, and with a warning if they lead to none. -/
theorem resolve_writtenPath (written : List WrittenStep) (h : ∀ w ∈ written, w.Writable) :
    Step.ofPath? (pathText written) = some (written.map WrittenStep.step) ∧
    ∀ (c : Capture) (json : Value),
      (∀ name, .field name ∈ written.map WrittenStep.step → '\n' ∉ name.toList) →
      Http.NamesApart c.response.headers → HasJsonType c.response →
      Json.parse c.response.body.toList = .ok json →
      (∀ v, Leads (written.map WrittenStep.step) json v →
        resolve c ("response.body." ++ String.ofList (pathText written)) =
          .success (valueText v)) ∧
      ((¬∃ v, Leads (written.map WrittenStep.step) json v) →
        resolve c ("response.body." ++ String.ofList (pathText written)) =
          .warning s!"No value is resolved for JSONPath '{String.ofList (pathText written)}'") := by
  refine ⟨ofPath?_pathText h, fun c json hnames hapart htype hjson => ?_⟩
  rw [resolve_responseBody c (lineFeed_notMem_pathText hnames),
    resolveBody_of_json hapart htype hjson (ofPath?_pathText h)]
  constructor
  · intro v hv
    rw [follow?_eq_some_iff.mpr hv]
  · intro hnone
    have hfollow : json.follow? (written.map WrittenStep.step) = none := by
      rw [Option.eq_none_iff_forall_ne_some]
      intro v hv
      exact hnone ⟨v, follow?_eq_some_iff.mp hv⟩
    rw [hfollow]

/-- The last order of a customer, asked for and answered. -/
def lastOrder : Capture where
  request := .new "orders" .get "https://shop.example/orders/last"
  response := .setBody (.addHeader (.new 200 "OK") "content-Type" "application/hal+json; v=1")
    "\x7b\"order.items\":[\x7b\"short name\":\"tea\"\x7d]\x7d"

/-- A way to the name of the first item in it. -/
def firstItemName : List WrittenStep :=
  [.quoted .single "order.items", .index 0, .dotted "short name"]

theorem resolve_writtenPath_lastOrder :
    (∀ w ∈ firstItemName, w.Writable) ∧
      Step.ofPath? (pathText firstItemName) =
        some [.field "order.items", .index 0, .field "short name"] ∧
      resolve lastOrder "response.body.$['order.items'][0].short name" = .success "tea" := by
  have hwritable : ∀ w ∈ firstItemName, w.Writable := by decide
  obtain ⟨hread, hresolve⟩ := resolve_writtenPath firstItemName hwritable
  refine ⟨hwritable, hread, ?_⟩
  have hnames : ∀ name, .field name ∈ firstItemName.map WrittenStep.step → '\n' ∉ name.toList := by
    intro name hname
    obtain rfl | rfl : name = "order.items" ∨ name = "short name" := by
      simpa [firstItemName, WrittenStep.step] using hname
    · decide
    · decide
  have htype : HasJsonType lastOrder.response :=
    ⟨"content-Type", "application/hal+json; v=1", by decide, by decide, by decide⟩
  have hjson : Json.parse lastOrder.response.body.toList = .ok (.object
      [("order.items", .array [.object [("short name", .string "tea")]])]) := by rfl
  have hleads : Leads (firstItemName.map WrittenStep.step) (.object
      [("order.items", .array [.object [("short name", .string "tea")]])]) (.string "tea") :=
    .member rfl (.item rfl (.member rfl (.here _)))
  exact (hresolve lastOrder _ hnames (by decide) htype hjson).1 _ hleads

end HttpScript.Variable
