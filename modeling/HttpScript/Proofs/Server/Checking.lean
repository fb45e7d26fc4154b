/-
Module: HttpScript.Proofs.Server.Checking
Purpose: What one event does to a session, said once.  Checking changes nothing but the results
  that the analyzer keeps, on which no later check depends; so every event updates the session,
  says something of its own, and then has some documents checked as they are after the update.
Main exports: Session.withResults, Session.updated, Session.announced, Session.rechecked,
  Session.handle_eq, Session.mem_all_of_mem_rechecked, Session.Configured
-/
import HttpScript.Server.Session

namespace HttpScript.Server

open Script

namespace Session

variable {disk : Disk} {s : Session}

/-! ### Checks leave results only -/

/-- The session with other results in its analyzer. -/
def withResults (s : Session) (results : DiagnosticCollection) : Session :=
  { s with analyzer := { s.analyzer with collection := results } }

@[simp] theorem withResults_buffers (s : Session) (results : DiagnosticCollection) :
    (s.withResults results).buffers = s.buffers := rfl

@[simp] theorem dependents_withResults (results : DiagnosticCollection) (uri : Url) :
    dependents disk (s.withResults results) uri = dependents disk s uri := rfl

theorem exists_afterCheck_eq (disk : Disk) (s : Session) (d : TextDocument) :
    ∃ results, afterCheck disk s d = s.withResults results := by
  unfold afterCheck Analyzer.check
  split
  · split
    · exact ⟨_, rfl⟩
    · exact ⟨s.analyzer.collection, rfl⟩
  · exact ⟨s.analyzer.collection, rfl⟩

/-- Documents that are checked one after the other are checked in the same session. -/
theorem exists_checkEach_eq (disk : Disk) (s : Session) (documents : List TextDocument) :
    ∃ results, checkEach disk s documents =
      (s.withResults results, documents.map (checkOutput disk s)) := by
  induction documents generalizing s with
  | nil => exact ⟨s.analyzer.collection, rfl⟩
  | cons d rest ih =>
      obtain ⟨here, hhere⟩ := exists_afterCheck_eq disk s d
      obtain ⟨later, hlater⟩ := ih (s.withResults here)
      refine ⟨later, ?_⟩
      rw [checkEach, hhere, hlater]
      rfl

/-! ### The three parts of an event -/

/-- The session after an event, apart from the results of the checks. -/
def updated (s : Session) : Event → Session
  | .started _ options =>
    match Settings.load (options.map (fun v => .ofMembers [("rest-client", v)])) with
    | .ok settings => s.reconfigure settings
    | .error _ => s
  | .ready => s
  | .opened uri text => { s with buffers := s.buffers.insert uri text }
  | .changed uri texts =>
    match texts.getLast? with
    | none => s
    | some text => { s with buffers := s.buffers.insert uri text }
  | .closed uri => { s with buffers := s.buffers.erase uri }
  | .configured editor =>
    match Settings.load (some editor) with
    | .ok settings => s.reconfigure settings
    | .error _ => s
  | .executed key capture => { s with captures := s.captures.insert key capture }
  | .stopped => { s with buffers := {} }

/-- What an event tells the editor before any check. -/
def announced (s : Session) : Event → List Output
  | .started processId options => (s.start processId options).2
  | .ready => [.log .info "REST Client Language Server initialized"]
  | .opened _ _ => []
  | .changed uri texts =>
    match texts.getLast? with
    | none => [.log .warning s!"No content changes received for document: {uri.text}"]
    | some _ => []
  | .closed uri => (s.didClose uri).2
  | .configured editor =>
    match Settings.load (some editor) with
    | .ok _ => []
    | .error e => [.log .warning e.loadMessage]
  | .executed _ _ => []
  | .stopped => []

/-- The documents that an event has checked, in order. -/
def rechecked (disk : Disk) (s : Session) : Event → List TextDocument
  | .opened uri text => [⟨uri, text⟩]
  | .changed uri texts =>
    match texts.getLast? with
    | none => []
    | some text =>
      ⟨uri, text⟩ :: dependents disk { s with buffers := s.buffers.insert uri text } uri
  | .configured editor =>
    match Settings.load (some editor) with
    | .ok _ => s.buffers.all
    | .error _ => []
  | .executed _ _ => s.buffers.all
  | _ => []

/-- What every event does. -/
theorem handle_eq (disk : Disk) (s : Session) (event : Event) :
    ∃ results, s.handle disk event =
      ((s.updated event).withResults results,
        s.announced event ++ (s.rechecked disk event).map (checkOutput disk (s.updated event))) := by
  cases event with
  | started processId options =>
      simp only [handle, start, updated, announced, rechecked]
      cases Settings.load (options.map (fun v => Json.Value.ofMembers [("rest-client", v)])) with
      | error e => exact ⟨s.analyzer.collection, rfl⟩
      | ok settings => exact ⟨(analyzerFor settings).collection, rfl⟩
  | ready => exact ⟨s.analyzer.collection, rfl⟩
  | opened uri text => exact exists_checkEach_eq disk _ _
  | changed uri texts =>
      simp only [handle, didChange, updated, announced, rechecked]
      cases texts.getLast? with
      | none => exact ⟨s.analyzer.collection, rfl⟩
      | some text =>
          obtain ⟨own, hown⟩ :=
            exists_checkEach_eq disk { s with buffers := s.buffers.insert uri text } [⟨uri, text⟩]
          obtain ⟨results, hothers⟩ := exists_checkEach_eq disk
            ({ s with buffers := s.buffers.insert uri text }.withResults own)
            (dependents disk { s with buffers := s.buffers.insert uri text } uri)
          refine ⟨results, ?_⟩
          simp only [hown, dependents_withResults, hothers]
          rfl
  | closed uri =>
      refine ⟨(s.analyzer.forget uri).collection, ?_⟩
      simp only [handle, announced, rechecked, List.map_nil, List.append_nil]
      rfl
  | configured editor =>
      simp only [handle, didConfigure, updated, announced, rechecked]
      cases Settings.load (some editor) with
      | error e => exact ⟨s.analyzer.collection, rfl⟩
      | ok settings => exact exists_checkEach_eq disk (s.reconfigure settings) _
  | executed key capture => exact exists_checkEach_eq disk _ _
  | stopped => exact ⟨s.analyzer.collection, rfl⟩

/-- The only complaints that are told without a check are those of a document that is closed, and
there are none. -/
theorem eq_closed_of_publish_mem_announced {event : Event} {uri : Url} {ds : List Diagnostic}
    (h : Output.publish uri ds ∈ s.announced event) : event = .closed uri ∧ ds = [] := by
  cases event with
  | started processId options =>
      simp only [announced, start] at h
      split at h <;> simp at h
  | ready => simp [announced] at h
  | opened u text => simp [announced] at h
  | changed u texts =>
      simp only [announced] at h
      split at h <;> simp at h
  | closed u =>
      simp only [announced, didClose, List.mem_append, List.mem_singleton] at h
      rcases h with h | h
      · split at h <;> simp at h
      · obtain ⟨rfl, rfl⟩ := Output.publish.inj h
        exact ⟨rfl, rfl⟩
  | configured editor =>
      simp only [announced] at h
      split at h <;> simp at h
  | executed key capture => simp [announced] at h
  | stopped => simp [announced] at h

theorem mem_all_of_mem_dependents {uri : Url} {d : TextDocument}
    (h : d ∈ dependents disk s uri) : d ∈ s.buffers.all :=
  (List.mem_filter.mp h).1

/-- Only open documents are checked. -/
theorem mem_all_of_mem_rechecked {event : Event} {d : TextDocument}
    (h : d ∈ s.rechecked disk event) : d ∈ (s.updated event).buffers.all := by
  cases event with
  | opened uri text =>
      obtain rfl := List.mem_singleton.mp h
      exact Buffers.mem_all_insert.mpr (.inl rfl)
  | changed uri texts =>
      simp only [rechecked, updated] at h ⊢
      cases hlast : texts.getLast? with
      | none => simp [hlast] at h
      | some text =>
          simp only [hlast] at h
          rcases List.mem_cons.mp h with rfl | h
          · exact Buffers.mem_all_insert.mpr (.inl rfl)
          · exact mem_all_of_mem_dependents h
  | configured editor =>
      simp only [rechecked, updated] at h ⊢
      cases hload : Settings.load (some editor) with
      | error e => simp [hload] at h
      | ok settings =>
          simp only [hload] at h
          exact h
  | executed key capture => exact h
  | started | ready | closed | stopped => cases h

/-! ### The analyzer in use -/

/-- The analyzer in use is the one for the settings in force. -/
structure Configured (s : Session) : Prop where
  maxIncludeDepth : s.analyzer.maxIncludeDepth = s.settings.maxIncludeDepth
  environment : s.analyzer.environment = s.settings.environmentVariables

theorem configured_new (settings : Settings) : (new settings).Configured := ⟨rfl, rfl⟩

theorem configured_reconfigure (s : Session) (settings : Settings) :
    (s.reconfigure settings).Configured := ⟨rfl, rfl⟩

theorem Configured.updated (h : s.Configured) (event : Event) :
    (s.updated event).Configured := by
  cases event with
  | started processId options =>
      simp only [Session.updated]
      split
      · exact configured_reconfigure s _
      · exact h
  | changed uri texts =>
      simp only [Session.updated]
      split
      · exact h
      · exact ⟨h.maxIncludeDepth, h.environment⟩
  | configured editor =>
      simp only [Session.updated]
      split
      · exact configured_reconfigure s _
      · exact h
  | ready => exact h
  | opened | closed | executed | stopped => exact ⟨h.maxIncludeDepth, h.environment⟩

theorem Configured.handle (h : s.Configured) (disk : Disk) (event : Event) :
    (s.handle disk event).1.Configured := by
  obtain ⟨results, heq⟩ := handle_eq disk s event
  have hupdated := h.updated event
  rw [heq]
  exact ⟨hupdated.maxIncludeDepth, hupdated.environment⟩

/-- Refused settings do not come into force. -/
theorem validate_updated (h : s.settings.validate = .ok ()) (event : Event) :
    (s.updated event).settings.validate = .ok () := by
  cases event with
  | started processId options =>
      simp only [updated]
      split
      · next settings hload => exact Settings.validate_of_load hload
      · exact h
  | changed uri texts =>
      simp only [updated]
      split <;> exact h
  | configured editor =>
      simp only [updated]
      split
      · next settings hload => exact Settings.validate_of_load hload
      · exact h
  | ready | opened | closed | executed | stopped => exact h

end Session

end HttpScript.Server
