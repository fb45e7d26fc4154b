/-
Module: HttpScript.Proofs.Server.History
Purpose: Sessions together with everything they have told the editor.  What the editor shows for a
  document is the last that was published about it.  Until the session ends, the editor shows
  nothing for a document that is not open, and the analyzer in use is the one for the settings in
  force, which have passed their check.
Main exports: Message, History, History.receive, History.receiveAll, History.Reachable,
  History.published?, History.shown, subjects, History.Consistent, History.consistent_of_reachable
-/
import HttpScript.Proofs.Server.Checking
import HttpScript.Server.Outgoing

namespace HttpScript.Server

open Script

/-- A message during a session: notice of an event, or a question for the lenses of a document. -/
inductive Message where
  | notice (event : Event)
  | lensQuestion (uri : Url)

/-- A session and what it has told the editor so far, in order. -/
structure History where
  session : Session
  told : List Output

/-- What an output says about a document, if it publishes anything about it. -/
def Output.complaints? (uri : Url) : Output → Option (List Diagnostic)
  | .log _ _ => none
  | .publish u ds => if u.text = uri.text then some ds else none

/-- The last that some outputs publish about a document. -/
def lastPublished? (uri : Url) (outputs : List Output) : Option (List Diagnostic) :=
  (outputs.filterMap (Output.complaints? uri)).getLast?

/-- The document that an output publishes about. -/
def Output.subject? : Output → Option Url
  | .log _ _ => none
  | .publish uri _ => some uri

/-- The documents that some outputs publish about, in order. -/
def subjects (outputs : List Output) : List Url :=
  outputs.filterMap Output.subject?

namespace History

/-- A session in which nothing has happened. -/
def new (settings : Settings) : History :=
  ⟨.new settings, []⟩

/-- The session after a message. -/
def receive (disk : Disk) (h : History) : Message → History
  | .notice event =>
    let (session, outputs) := h.session.handle disk event
    ⟨session, h.told ++ outputs⟩
  | .lensQuestion uri => ⟨h.session, h.told ++ (h.session.lensesOf disk uri).2⟩

/-- The complaints that were last published about a document. -/
def published? (h : History) (uri : Url) : Option (List Diagnostic) :=
  lastPublished? uri h.told

/-- The complaints about a document as the editor has them. -/
def shown (h : History) (uri : Url) : Option (List Json.Value) :=
  (h.published? uri).map (·.map (diagnosticJson uri))

/-- What messages can lead to, each with the disk as it is at that time. -/
inductive Reachable (allowed : Disk → Message → Prop) (settings : Settings) : History → Prop where
  | new : Reachable allowed settings (.new settings)
  | receive {h : History} (before : Reachable allowed settings h) {disk : Disk} {m : Message}
      (hm : allowed disk m) : Reachable allowed settings (h.receive disk m)

/-- The session after some messages, with the disk the same all along. -/
def receiveAll (disk : Disk) (h : History) (ms : List Message) : History :=
  ms.foldl (receive disk) h

theorem Reachable.receiveAll {allowed : Disk → Message → Prop} {settings : Settings} {h : History}
    (hreach : Reachable allowed settings h) {disk : Disk} {ms : List Message}
    (hms : ∀ m ∈ ms, allowed disk m) : Reachable allowed settings (h.receiveAll disk ms) := by
  induction ms generalizing h with
  | nil => exact hreach
  | cons m ms ih =>
      have hnext := hreach.receive (hms m List.mem_cons_self)
      exact ih hnext (fun m' hm' => hms m' (List.mem_cons_of_mem _ hm'))

end History

/-! ### What was published last -/

section Published

variable {disk : Disk} {s : Session} {d : TextDocument} {uri : Url}

theorem lastPublished?_append (uri : Url) (before after : List Output) :
    lastPublished? uri (before ++ after)
      = (lastPublished? uri after).or (lastPublished? uri before) := by
  rw [lastPublished?, List.filterMap_append, List.getLast?_append]
  rfl

/-- Nothing was published last where nothing was published. -/
theorem lastPublished?_eq_none {outputs : List Output}
    (h : ∀ o ∈ outputs, o.complaints? uri = none) : lastPublished? uri outputs = none := by
  rw [lastPublished?, List.filterMap_eq_nil_iff.mpr h]
  rfl

/-- What was published last was published. -/
theorem exists_publish_of_lastPublished? {outputs : List Output} {ds : List Diagnostic}
    (h : lastPublished? uri outputs = some ds) :
    ∃ u, u.text = uri.text ∧ Output.publish u ds ∈ outputs := by
  have hmem := List.mem_of_getLast? h
  obtain ⟨o, ho, hcomplaints⟩ := List.mem_filterMap.mp hmem
  cases o with
  | log level message => simp [Output.complaints?] at hcomplaints
  | publish u ds' =>
      simp only [Output.complaints?] at hcomplaints
      split at hcomplaints
      · next htext =>
          obtain rfl := Option.some.inj hcomplaints
          exact ⟨u, htext, ho⟩
      · cases hcomplaints

/-- A check speaks about the document that is checked. -/
theorem eq_uri_of_checkOutput {d : TextDocument} {u : Url} {ds : List Diagnostic}
    (h : Session.checkOutput disk s d = .publish u ds) : u = d.uri := by
  unfold Session.checkOutput at h
  split at h
  · split at h
    · exact (Output.publish.inj h).1.symm
    · cases h
  · exact (Output.publish.inj h).1.symm

/-- Checks of other documents publish nothing about a document. -/
theorem lastPublished?_checks_of_ne {documents : List TextDocument}
    (h : ∀ d ∈ documents, d.uri.text ≠ uri.text) :
    lastPublished? uri (documents.map (Session.checkOutput disk s)) = none := by
  cases hlast : lastPublished? uri (documents.map (Session.checkOutput disk s)) with
  | none => rfl
  | some ds =>
      exfalso
      obtain ⟨u, htext, hmem⟩ := exists_publish_of_lastPublished? hlast
      obtain ⟨d, hd, hcheck⟩ := List.mem_map.mp hmem
      obtain rfl := eq_uri_of_checkOutput hcheck
      exact h d hd htext

/-- What is checked once and due is published last. -/
theorem lastPublished?_checks_of_mem {documents : List TextDocument} {ds : List Diagnostic}
    (hd : d ∈ documents) (hunique : ∀ d' ∈ documents, d'.uri.text = d.uri.text → d' = d)
    (hcheck : Session.checkOutput disk s d = .publish d.uri ds) :
    lastPublished? d.uri (documents.map (Session.checkOutput disk s)) = some ds := by
  cases hlast : lastPublished? d.uri (documents.map (Session.checkOutput disk s)) with
  | none =>
      have hnone := List.filterMap_eq_nil_iff.mp (List.getLast?_eq_none_iff.mp hlast)
      have hown := hnone _ (List.mem_map.mpr ⟨d, hd, hcheck⟩)
      simp [Output.complaints?] at hown
  | some ds' =>
      obtain ⟨u, htext, hmem⟩ := exists_publish_of_lastPublished? hlast
      obtain ⟨d', hd', hcheck'⟩ := List.mem_map.mp hmem
      obtain rfl := eq_uri_of_checkOutput hcheck'
      obtain rfl := hunique d' hd' htext
      rw [hcheck] at hcheck'
      rw [(Output.publish.inj hcheck').2]

theorem lastPublished?_lensesOf (disk : Disk) (s : Session) (u uri : Url) :
    lastPublished? uri (s.lensesOf disk u).2 = none := by
  refine lastPublished?_eq_none ?_
  intro o ho
  unfold Session.lensesOf at ho
  split at ho
  · split at ho
    · obtain rfl := List.mem_singleton.mp ho
      rfl
    · split at ho <;> cases ho
  · cases ho

theorem mem_subjects_iff {outputs : List Output} :
    uri ∈ subjects outputs ↔ ∃ ds, Output.publish uri ds ∈ outputs := by
  rw [subjects, List.mem_filterMap]
  constructor
  · rintro ⟨o, ho, hsubject⟩
    cases o with
    | log level message => cases hsubject
    | publish u ds =>
        obtain rfl := Option.some.inj hsubject
        exact ⟨ds, ho⟩
  · rintro ⟨ds, hmem⟩
    exact ⟨_, hmem, rfl⟩

theorem subjects_append (before after : List Output) :
    subjects (before ++ after) = subjects before ++ subjects after :=
  List.filterMap_append

/-- Apart from the checks, only the closing of a document publishes. -/
theorem subjects_announced {event : Event} (h : ∀ u, event ≠ .closed u) :
    subjects (s.announced event) = [] := by
  refine List.eq_nil_iff_forall_not_mem.mpr ?_
  intro u hu
  obtain ⟨ds, hmem⟩ := mem_subjects_iff.mp hu
  exact h u (Session.eq_closed_of_publish_mem_announced hmem).1

/-- Each check publishes about its document, or nothing. -/
theorem subjects_checks_sublist (disk : Disk) (s : Session) (documents : List TextDocument) :
    (subjects (documents.map (Session.checkOutput disk s))).Sublist (documents.map (·.uri)) := by
  induction documents with
  | nil => exact .slnil
  | cons d rest ih =>
      rw [List.map_cons, List.map_cons, subjects]
      cases hcheck : Session.checkOutput disk s d with
      | log level message => exact ih.cons d.uri
      | publish u ds =>
          obtain rfl := eq_uri_of_checkOutput hcheck
          exact ih.cons_cons d.uri

end Published

namespace History

variable {disk : Disk} {h : History}

/-- What a history becomes by an event. -/
theorem exists_receive_notice_eq (disk : Disk) (h : History) (event : Event) :
    ∃ results, h.receive disk (.notice event) =
      ⟨(h.session.updated event).withResults results,
        h.told ++ (h.session.announced event ++
          (h.session.rechecked disk event).map
            (Session.checkOutput disk (h.session.updated event)))⟩ := by
  obtain ⟨results, heq⟩ := h.session.handle_eq disk event
  exact ⟨results, by simp only [receive, heq]⟩

@[simp] theorem buffers_receive_notice (disk : Disk) (h : History) (event : Event) :
    (h.receive disk (.notice event)).session.buffers = (h.session.updated event).buffers := by
  obtain ⟨results, heq⟩ := exists_receive_notice_eq disk h event
  rw [heq, Session.withResults_buffers]

theorem published?_receive_notice (disk : Disk) (h : History) (event : Event) (uri : Url) :
    (h.receive disk (.notice event)).published? uri =
      ((lastPublished? uri ((h.session.rechecked disk event).map
          (Session.checkOutput disk (h.session.updated event)))).or
        (lastPublished? uri (h.session.announced event))).or (h.published? uri) := by
  obtain ⟨results, heq⟩ := exists_receive_notice_eq disk h event
  rw [heq, published?, lastPublished?_append, lastPublished?_append]
  rfl

theorem published?_receive_lensQuestion (disk : Disk) (h : History) (u uri : Url) :
    (h.receive disk (.lensQuestion u)).published? uri = h.published? uri := by
  rw [published?, receive, lastPublished?_append, lastPublished?_lensesOf]
  rfl

/-! ### Documents that are not open -/

/-- What holds between the messages of a session. -/
structure Consistent (h : History) : Prop where
  /-- Nothing is complained about in a document that is not open. -/
  closed : ∀ uri, h.session.buffers.get? uri = none →
    ∀ ds, h.published? uri = some ds → ds = []
  configured : h.session.Configured
  valid : h.session.settings.validate = .ok ()

/-- Only the closing of a document takes it from the open ones, until the session ends. -/
theorem get?_eq_none_of_updated {s : Session} {event : Event} {uri : Url}
    (hevent : event ≠ .stopped) (h : (s.updated event).buffers.get? uri = none) :
    s.buffers.get? uri = none ∨ ∃ u, event = .closed u ∧ u.text = uri.text := by
  cases event with
  | stopped => exact absurd rfl hevent
  | started processId options =>
      simp only [Session.updated] at h
      split at h <;> exact .inl h
  | ready => exact .inl h
  | opened u text =>
      simp only [Session.updated, Buffers.get?_insert] at h
      split at h
      · cases h
      · exact .inl h
  | changed u texts =>
      simp only [Session.updated] at h
      split at h
      · exact .inl h
      · simp only [Buffers.get?_insert] at h
        split at h
        · cases h
        · exact .inl h
  | closed u =>
      simp only [Session.updated, Buffers.get?_erase] at h
      split at h
      · next htext => exact .inr ⟨u, rfl, htext.symm⟩
      · exact .inl h
  | configured editor =>
      simp only [Session.updated] at h
      split at h <;> exact .inl h
  | executed key capture => exact .inl h

/-- The closing of a document takes its complaints back. -/
theorem lastPublished?_announced_closed {s : Session} {u uri : Url} (htext : u.text = uri.text) :
    lastPublished? uri (s.announced (.closed u)) = some [] := by
  simp only [Session.announced, Session.didClose]
  rw [lastPublished?_append]
  simp [lastPublished?, Output.complaints?, htext]

theorem Consistent.receive_notice (hc : h.Consistent) (disk : Disk) {event : Event}
    (hevent : event ≠ .stopped) : (h.receive disk (.notice event)).Consistent := by
  obtain ⟨results, heq⟩ := exists_receive_notice_eq disk h event
  have hconfigured := hc.configured.updated event
  refine ⟨?_, ?_, ?_⟩
  · intro uri hclosed ds hpublished
    rw [buffers_receive_notice] at hclosed
    -- Only open documents are checked, so this one was spoken of by the event itself or before it.
    have hchecks : lastPublished? uri ((h.session.rechecked disk event).map
        (Session.checkOutput disk (h.session.updated event))) = none := by
      refine lastPublished?_checks_of_ne ?_
      intro d hd htext
      have hopen := Buffers.get?_of_mem_all (Session.mem_all_of_mem_rechecked hd)
      rw [(Buffers.get?_eq_none_congr htext).mpr hclosed] at hopen
      cases hopen
    rw [published?_receive_notice, hchecks, Option.none_or] at hpublished
    cases hannounced : lastPublished? uri (h.session.announced event) with
    | some ds' =>
        rw [hannounced, Option.some_or] at hpublished
        obtain rfl := Option.some.inj hpublished
        obtain ⟨u, -, hmem⟩ := exists_publish_of_lastPublished? hannounced
        exact (Session.eq_closed_of_publish_mem_announced hmem).2
    | none =>
        rw [hannounced, Option.none_or] at hpublished
        rcases get?_eq_none_of_updated hevent hclosed with hbefore | ⟨u, rfl, htext⟩
        · exact hc.closed uri hbefore ds hpublished
        · rw [lastPublished?_announced_closed htext] at hannounced
          cases hannounced
  · rw [heq]
    exact ⟨hconfigured.maxIncludeDepth, hconfigured.environment⟩
  · rw [heq]
    exact Session.validate_updated hc.valid event

theorem Consistent.receive_lensQuestion (hc : h.Consistent) (disk : Disk) (u : Url) :
    (h.receive disk (.lensQuestion u)).Consistent := by
  refine ⟨?_, hc.configured, hc.valid⟩
  intro uri hclosed ds hpublished
  rw [published?_receive_lensQuestion] at hpublished
  exact hc.closed uri hclosed ds hpublished

theorem consistent_new {settings : Settings} (hvalid : settings.validate = .ok ()) :
    (new settings).Consistent where
  closed uri _ ds hpublished := by cases hpublished
  configured := Session.configured_new settings
  valid := hvalid

/-- Whatever messages have come and whatever was on the disk, until the session ends: a document
that is not open has no complaints, and the analyzer in use is the one for the settings in force,
which are valid. -/
theorem consistent_of_reachable (settings : Settings) (hvalid : settings.validate = .ok ())
    (h : History) (hreach : Reachable (fun _ m => m ≠ .notice .stopped) settings h) :
    (∀ uri, h.session.buffers.get? uri = none → ∀ items, h.shown uri = some items → items = []) ∧
    h.session.analyzer.maxIncludeDepth = h.session.settings.maxIncludeDepth ∧
    h.session.analyzer.environment = h.session.settings.environmentVariables ∧
    h.session.settings.validate = .ok () := by
  have hconsistent : h.Consistent := by
    induction hreach with
    | new => exact consistent_new hvalid
    | @receive h before disk m hm ih =>
        cases m with
        | notice event =>
            have hevent : event ≠ .stopped := by
              rintro rfl
              exact hm rfl
            exact ih.receive_notice disk hevent
        | lensQuestion uri => exact ih.receive_lensQuestion disk uri
  refine ⟨?_, hconsistent.configured.maxIncludeDepth, hconsistent.configured.environment,
    hconsistent.valid⟩
  intro uri hclosed items hshown
  obtain ⟨ds, hpublished, rfl⟩ := Option.map_eq_some_iff.mp hshown
  rw [hconsistent.closed uri hclosed ds hpublished]
  rfl

/-- A draft that is not a file. -/
def draftUrl : Url :=
  ⟨"untitled", none, .plain "Untitled-1", none, none⟩

/-- The draft is complained about under the settings of its time, and closed in the end. -/
def draftSession : List Message :=
  [.notice (.started none none), .notice .ready, .notice (.opened draftUrl "GET {{host}}\n"),
    .notice (.configured (.ofMembers [("rest-client", .ofMembers [("maxIncludeDepth", .nat 3)])])),
    .notice (.changed draftUrl ["GET {{port}}\n"]), .lensQuestion draftUrl,
    .notice (.configured (.ofMembers [("rest-client", .ofMembers [("maxIncludeDepth", .nat 0)])])),
    .notice (.closed draftUrl)]

theorem consistent_of_reachable_draft :
    let h := (new .default).receiveAll .empty draftSession
    Settings.default.validate = .ok () ∧
    Reachable (fun _ m => m ≠ .notice .stopped) .default h ∧
    h.session.buffers.get? draftUrl = none ∧ h.published? draftUrl = some [] ∧
    (∀ uri, h.session.buffers.get? uri = none → ∀ items, h.shown uri = some items → items = []) ∧
    h.session.settings.maxIncludeDepth = 3 ∧
    h.session.analyzer.maxIncludeDepth = h.session.settings.maxIncludeDepth ∧
    h.session.analyzer.environment = h.session.settings.environmentVariables ∧
    h.session.settings.validate = .ok () := by
  intro h
  have hvalid : Settings.default.validate = .ok () := rfl
  have hreach : Reachable (fun _ m => m ≠ .notice .stopped) .default h := by
    refine Reachable.new.receiveAll ?_
    simp [draftSession]
  obtain ⟨hclosed, hdepth, henvironment, hafter⟩ :=
    consistent_of_reachable .default hvalid h hreach
  have hget : h.session.buffers.get? draftUrl = none := by decide
  have hpublished : h.published? draftUrl = some [] := by decide +kernel
  have hlimit : h.session.settings.maxIncludeDepth = 3 := by decide
  exact ⟨hvalid, hreach, hget, hpublished, hclosed, hlimit, hdepth, henvironment, hafter⟩

end History

end HttpScript.Server
