/-
Module: HttpScript.Proofs.Http.WireForm
Purpose: What a client is told of a request, a response or a complaint is all there is to it.  Each
  of them is read back from the JSON it is written as, and that JSON from its text; of a response
  without headers or body these may be left out.
Main exports: Http.Request.ofJson_toJson, Http.Response.ofJson_toJsonWithout,
  Diagnostic.ofJson_toJson, wire_form_read_back
-/
import HttpScript.Diagnostic.Basic
import HttpScript.Http.Wire
import HttpScript.Proofs.Json.ReadBack
import HttpScript.Proofs.Json.RecordReading
import HttpScript.Proofs.Text.Utf8

namespace HttpScript

open Json

/-! ### Members of written values -/

variable {v : Value} {depth : Nat}

theorem Json.Value.Exact.members (h : v.Exact (depth + 1)) :
    ∀ m ∈ v.members.entries, m.2.Exact depth := by
  cases h with
  | object members hmembers => rwa [Value.members, Dict.ofList_entries]
  | _ => exact List.forall_mem_nil _

theorem Json.Value.Exact.without (h : v.Exact (depth + 1)) (names : List String) :
    (Value.object (v.members.without names).entries).Exact (depth + 1) :=
  .object _ (fun m hm => h.members m (List.mem_of_mem_filter hm))

namespace Http

/-! ### Requests -/

theorem Method.ofJson_toJson (m : Method) : Method.ofJson m.toJson = .ok m := by
  cases m with
  | _ => rfl

namespace Request

theorem get?_members_toJson (r : Request) :
    r.toJson.members.get? "id" = some (.string r.id) ∧
    r.toJson.members.get? "method" = some r.method.toJson ∧
    r.toJson.members.get? "url" = some (.string r.url) ∧
    r.toJson.members.get? "http_version" = some (.optional r.httpVersion) ∧
    r.toJson.members.get? "headers" = some (.ofDict r.headers) ∧
    r.toJson.members.get? "body" = some (.optional r.body) ∧
    r.toJson.members.get? "line_number" = some (.nat r.lineNumber) ∧
    r.toJson.members.get? "file_path" = some (.string r.filePath.text) := by
  simp [toJson, Dict.ofList]

theorem ofJson_toJson {r : Request} (h : r.filePath.text?.isSome = true) :
    ofJson r.toJson = .ok r := by
  obtain ⟨hid, hmethod, hurl, hversion, hheaders, hbody, hline, hpath⟩ := get?_members_toJson r
  have hrecord : record.Gives r.toJson.members r :=
    Record.gives_pure _ Request.mk
      |>.field (.required hid (Decode.text_string r.id))
      |>.field (.required hmethod (Method.ofJson_toJson r.method))
      |>.field (.required hurl (Decode.text_string r.url))
      |>.field (.optional hversion (Decode.optional_text r.httpVersion))
      |>.field (.required hheaders (Decode.dictionary_ofDict r.headers))
      |>.field (.optional hbody (Decode.optional_text r.body))
      |>.field (.required hline (Decode.count_nat r.lineNumber))
      |>.field (.required hpath (congrArg Except.ok (FilePath.ofString_text h)))
  exact hrecord.decode_ofMembers "HttpRequest"

theorem exact_toJson {r : Request} (h : r.lineNumber < UInt64.size) (depth : Nat) :
    r.toJson.Exact (depth + 2) := by
  apply Value.exact_ofMembers
  simp only [List.forall_mem_cons]
  exact ⟨.string _, .string _, .string _, Value.exact_optional _, Value.exact_ofDict _,
    Value.exact_optional _, Value.exact_nat h, .string _, List.forall_mem_nil _⟩

end Request

/-! ### Responses -/

theorem statusOfJson_nat (status : UInt16) : statusOfJson (.nat status.toNat) = .ok status := by
  have hlt : status.toNat < 65536 := status.toNat_lt
  have hbounds : (0 : Int) ≤ status.toNat ∧ (status.toNat : Int) ≤ UInt16.size - 1 := by
    change _ ∧ _ ≤ (65536 : Int) - 1
    omega
  rw [statusOfJson, Value.nat, Decode.natural, Decode.integer, if_pos hbounds]
  exact congrArg Except.ok UInt16.ofNat_toNat

namespace Response

/-- A member of a written response that says nothing. -/
def IsSilent (r : Response) (name : String) : Prop :=
  name = "headers" ∧ r.headers = {} ∨ name = "body" ∧ r.body = ""

instance (r : Response) (name : String) : Decidable (r.IsSilent name) :=
  inferInstanceAs (Decidable (_ ∨ _))

/-- A written response without some of its members. -/
def toJsonWithout (r : Response) (leftOut : List String) : Value :=
  .object (r.toJson.members.without leftOut).entries

theorem toJsonWithout_nil (r : Response) : r.toJsonWithout [] = r.toJson := by
  rw [toJsonWithout, Dict.without_nil]
  exact (Value.ofMembers_eq _).symm

theorem get?_members_toJson (r : Response) :
    r.toJson.members.get? "status_code" = some (.nat r.statusCode.toNat) ∧
    r.toJson.members.get? "status_text" = some (.string r.statusText) ∧
    r.toJson.members.get? "headers" = some (.ofDict r.headers) ∧
    r.toJson.members.get? "body" = some (.string r.body) := by
  simp [toJson, Dict.ofList]

variable {r : Response} {leftOut : List String}

/-- What is left out says the same as what stands in for it. -/
theorem ofJson_toJsonWithout (h : ∀ name ∈ leftOut, r.IsSilent name) :
    ofJson (r.toJsonWithout leftOut) = .ok r := by
  obtain ⟨hcode, htext, hheaders, hbody⟩ := get?_members_toJson r
  have hmember : ∀ {name v}, r.toJson.members.get? name = some v →
      (r.toJson.members.without leftOut).get? name = if name ∈ leftOut then none else some v := by
    intro name v hv
    rw [Dict.get?_without, hv]
  have hkept : ∀ {name v}, r.toJson.members.get? name = some v → ¬r.IsSilent name →
      (r.toJson.members.without leftOut).get? name = some v := by
    intro name v hv hsilent
    rw [hmember hv, if_neg (fun hname => hsilent (h name hname))]
  have hrecord : record.Gives (r.toJson.members.without leftOut)
      ⟨r.statusCode, r.statusText, if "headers" ∈ leftOut then {} else r.headers,
        if "body" ∈ leftOut then "" else r.body⟩ :=
    Record.gives_pure _ Response.mk
      |>.field (.required (hkept hcode (by simp [IsSilent])) (statusOfJson_nat r.statusCode))
      |>.field (.required (hkept htext (by simp [IsSilent])) (Decode.text_string r.statusText))
      |>.field (.withDefault ∅ (hmember hheaders) (Decode.dictionary_ofDict r.headers))
      |>.field (.withDefault "" (hmember hbody) (Decode.text_string r.body))
  have hnoHeaders : "headers" ∈ leftOut → {} = r.headers := by
    intro hname
    have hempty : r.headers = {} := by simpa [IsSilent] using h "headers" hname
    exact hempty.symm
  have hnoBody : "body" ∈ leftOut → "" = r.body := by
    intro hname
    have hempty : r.body = "" := by simpa [IsSilent] using h "body" hname
    exact hempty.symm
  rw [ite_eq_right_iff.mpr hnoHeaders, ite_eq_right_iff.mpr hnoBody] at hrecord
  exact hrecord.decode "HttpResponse"

theorem exact_toJson (r : Response) (depth : Nat) : r.toJson.Exact (depth + 2) := by
  have hcode : r.statusCode.toNat < UInt64.size :=
    Nat.lt_trans r.statusCode.toNat_lt (by decide)
  apply Value.exact_ofMembers
  simp only [List.forall_mem_cons]
  exact ⟨Value.exact_nat hcode, .string _, Value.exact_ofDict _, .string _,
    List.forall_mem_nil _⟩

end Response

end Http

/-! ### Diagnostics -/

namespace Position

/-- Both numbers are of 64 bits. -/
def Bounded (p : Position) : Prop :=
  p.line < UInt64.size ∧ p.character < UInt64.size

theorem ofJson_toJson (p : Position) : ofJson p.toJson = .ok p := by
  have hmembers : p.toJson.members.get? "line" = some (.nat p.line) ∧
      p.toJson.members.get? "character" = some (.nat p.character) := by
    simp [toJson, Dict.ofList]
  have hrecord : record.Gives p.toJson.members p :=
    Record.gives_pure _ Position.mk
      |>.field (.required hmembers.1 (Decode.count_nat p.line))
      |>.field (.required hmembers.2 (Decode.count_nat p.character))
  exact hrecord.decode_ofMembers "Position"

theorem exact_toJson {p : Position} (h : p.Bounded) (depth : Nat) :
    p.toJson.Exact (depth + 1) := by
  apply Value.exact_ofMembers
  simp only [List.forall_mem_cons]
  exact ⟨Value.exact_nat h.1, Value.exact_nat h.2, List.forall_mem_nil _⟩

end Position

namespace Range

theorem ofJson_toJson (r : Range) : ofJson r.toJson = .ok r := by
  have hmembers : r.toJson.members.get? "start" = some r.start.toJson ∧
      r.toJson.members.get? "end" = some r.stop.toJson := by
    simp [toJson, Dict.ofList]
  have hrecord : record.Gives r.toJson.members r :=
    Record.gives_pure _ Range.mk
      |>.field (.required hmembers.1 r.start.ofJson_toJson)
      |>.field (.required hmembers.2 r.stop.ofJson_toJson)
  exact hrecord.decode_ofMembers "Range"

theorem exact_toJson {r : Range} (hstart : r.start.Bounded) (hstop : r.stop.Bounded)
    (depth : Nat) : r.toJson.Exact (depth + 2) := by
  apply Value.exact_ofMembers
  simp only [List.forall_mem_cons]
  exact ⟨Position.exact_toJson hstart depth, Position.exact_toJson hstop depth,
    List.forall_mem_nil _⟩

end Range

theorem Severity.ofJson_toJson (s : Severity) : Severity.ofJson s.toJson = .ok s := by
  cases s with
  | _ => rfl

namespace Diagnostic

theorem get?_members_toJson (d : Diagnostic) :
    d.toJson.members.get? "range" = some d.range.toJson ∧
    d.toJson.members.get? "severity" = some d.severity.toJson ∧
    d.toJson.members.get? "message" = some (.string d.message) ∧
    d.toJson.members.get? "code" = some (.optional d.code) ∧
    d.toJson.members.get? "suggestion" = some (.optional d.suggestion) := by
  simp [toJson, Dict.ofList]

theorem ofJson_toJson (d : Diagnostic) : ofJson d.toJson = .ok d := by
  obtain ⟨hrange, hseverity, hmessage, hcode, hsuggestion⟩ := get?_members_toJson d
  have hrecord : record.Gives d.toJson.members d :=
    Record.gives_pure _ Diagnostic.mk
      |>.field (.required hrange d.range.ofJson_toJson)
      |>.field (.required hseverity d.severity.ofJson_toJson)
      |>.field (.required hmessage (Decode.text_string d.message))
      |>.field (.optional hcode (Decode.optional_text d.code))
      |>.field (.optional hsuggestion (Decode.optional_text d.suggestion))
  exact hrecord.decode_ofMembers "Diagnostic"

theorem exact_toJson {d : Diagnostic} (hstart : d.range.start.Bounded)
    (hstop : d.range.stop.Bounded) (depth : Nat) : d.toJson.Exact (depth + 3) := by
  apply Value.exact_ofMembers
  simp only [List.forall_mem_cons]
  exact ⟨Range.exact_toJson hstart hstop depth, .string _, .string _, Value.exact_optional _,
    Value.exact_optional _, List.forall_mem_nil _⟩

end Diagnostic

/-! ### The whole wire form -/

/-- Requests, responses and diagnostics are read back from the JSON they are written as, and this
JSON is read back from its text.  Of a response without headers or body these may be left out. -/
theorem wire_form_read_back :
    (∀ r : Http.Request, r.filePath.text?.isSome = true →
      Http.Request.ofJson r.toJson = .ok r ∧
      (r.lineNumber < UInt64.size → parse r.toJson.text.toList = .ok r.toJson)) ∧
    (∀ r : Http.Response,
      Http.Response.ofJson r.toJson = .ok r ∧ parse r.toJson.text.toList = .ok r.toJson ∧
      ∀ leftOut, (∀ name ∈ leftOut, r.IsSilent name) →
        Http.Response.ofJson (r.toJsonWithout leftOut) = .ok r ∧
        parse (r.toJsonWithout leftOut).text.toList = .ok (r.toJsonWithout leftOut)) ∧
    ∀ d : Diagnostic,
      Diagnostic.ofJson d.toJson = .ok d ∧
      (d.range.start.Bounded → d.range.stop.Bounded →
        parse d.toJson.text.toList = .ok d.toJson) := by
  have hresponse : ∀ (r : Http.Response) leftOut, (∀ name ∈ leftOut, r.IsSilent name) →
      Http.Response.ofJson (r.toJsonWithout leftOut) = .ok r ∧
      parse (r.toJsonWithout leftOut).text.toList = .ok (r.toJsonWithout leftOut) := by
    intro r leftOut hsilent
    exact ⟨Http.Response.ofJson_toJsonWithout hsilent,
      ((r.exact_toJson 125).without leftOut).parse_text⟩
  refine ⟨?request, ?response, ?diagnostic⟩
  case request =>
    intro r hpath
    exact ⟨Http.Request.ofJson_toJson hpath,
      fun hline => (Http.Request.exact_toJson hline 125).parse_text⟩
  case response =>
    intro r
    have hwhole := hresponse r [] (List.forall_mem_nil _)
    rw [Http.Response.toJsonWithout_nil] at hwhole
    exact ⟨hwhole.1, hwhole.2, hresponse r⟩
  case diagnostic =>
    intro d
    exact ⟨d.ofJson_toJson,
      fun hstart hstop => (Diagnostic.exact_toJson hstart hstop 124).parse_text⟩

/-- A request with characters that are escaped, others of several bytes and the largest line. -/
def escapedRequest : Http.Request :=
  ⟨"é.http_line_3", .post, "\x7b\x7bhost\x7d\x7d/\"\\\t\u0001", some "HTTP/1.1",
    Dict.ofList [("X-Empty", ""), ("Accept", "*/*")], none, UInt64.size - 1,
    FilePath.ofString "/tmp/é/😀.http"⟩

/-- A response of which both members may be left out that any may be left out of. -/
def emptyResponse : Http.Response :=
  ⟨204, "No Content", {}, ""⟩

def farDiagnostic : Diagnostic :=
  ⟨Range.onLine 0 (UInt64.size - 2) (UInt64.size - 1), .warning, "\u2028\n", none, some ""⟩

theorem wire_form_read_back_escaped :
    escapedRequest.filePath.text?.isSome = true ∧
    escapedRequest.lineNumber < UInt64.size ∧
    Http.Request.ofJson escapedRequest.toJson = .ok escapedRequest ∧
    parse escapedRequest.toJson.text.toList = .ok escapedRequest.toJson ∧
    (∀ name ∈ ["headers", "body"], emptyResponse.IsSilent name) ∧
    Http.Response.ofJson (emptyResponse.toJsonWithout ["headers", "body"]) = .ok emptyResponse ∧
    farDiagnostic.range.start.Bounded ∧ farDiagnostic.range.stop.Bounded ∧
    Diagnostic.ofJson farDiagnostic.toJson = .ok farDiagnostic ∧
    parse farDiagnostic.toJson.text.toList = .ok farDiagnostic.toJson := by
  obtain ⟨hrequests, hresponses, hdiagnostics⟩ := wire_form_read_back
  have hpath : escapedRequest.filePath.text?.isSome = true :=
    FilePath.isSome_text?_iff.mpr ⟨_, rfl⟩
  have hline : escapedRequest.lineNumber < UInt64.size := by decide
  have hsilent : ∀ name ∈ ["headers", "body"], emptyResponse.IsSilent name := by decide
  have hstart : farDiagnostic.range.start.Bounded := ⟨by decide, by decide⟩
  have hstop : farDiagnostic.range.stop.Bounded := ⟨by decide, by decide⟩
  obtain ⟨hrequest, hrequestText⟩ := hrequests escapedRequest hpath
  obtain ⟨hdiagnostic, hdiagnosticText⟩ := hdiagnostics farDiagnostic
  have hresponse := ((hresponses emptyResponse).2.2 ["headers", "body"] hsilent).1
  exact ⟨hpath, hline, hrequest, hrequestText hline, hsilent, hresponse, hstart, hstop,
    hdiagnostic, hdiagnosticText hstart hstop⟩

end HttpScript
