/-
Module: HttpScript.Proofs.Server.Freshness
Purpose: Whether the editor shows what a check would tell it now.  After a change the including
  documents are checked, which brings up to date all that depends on the changed one; after some
  other events every open document is checked.  After the opening or the closing of a document no
  including document is checked, and those are left behind until the next change.
Main exports: History.IsFresh, History.UpToDate, History.FreshApartFrom,
  History.upToDate_of_recheck, History.freshApartFrom_of_opened_or_closed,
  History.not_upToDate_of_opened_or_closed
-/
import HttpScript.Proofs.Server.Dependence
import HttpScript.Proofs.Server.History

namespace HttpScript.Server

open Script Variable

/-- The documents that a message speaks of go by their canonical URLs. -/
def Message.IsCanonical : Message → Prop
  | .notice (.opened uri _) => uri.IsCanonical
  | .notice (.changed uri _) => uri.IsCanonical
  | .notice (.closed uri) => uri.IsCanonical
  | .notice (.executed key _) => key.document.IsCanonical
  | .notice _ => True
  | .lensQuestion uri => uri.IsCanonical

namespace History

variable {disk : Disk} {h : History} {d : TextDocument} {event : Event} {uri : Url}

/-! ### What is up to date -/

/-- The editor shows about a document what a check would tell it now.  Nothing is asked of a
document that cannot be checked. -/
def IsFresh (disk : Disk) (h : History) (d : TextDocument) : Prop :=
  ∀ ds, h.session.due disk d = some ds → h.shown d.uri = some (ds.map (diagnosticJson d.uri))

/-- Every open document is fresh. -/
def UpToDate (disk : Disk) (h : History) : Prop :=
  ∀ d ∈ h.session.buffers.all, h.IsFresh disk d

/-- Every open document is fresh that does not depend on some document. -/
def FreshApartFrom (disk : Disk) (h : History) (uri : Url) : Prop :=
  ∀ d ∈ h.session.buffers.all, ¬h.session.DependsOn disk d uri → h.IsFresh disk d

theorem UpToDate.freshApartFrom (hfresh : h.UpToDate disk) (uri : Url) :
    h.FreshApartFrom disk uri :=
  fun d hd _ => hfresh d hd

theorem configured_of_reachable {allowed : Disk → Message → Prop} {settings : Settings}
    (hreach : Reachable allowed settings h) : h.session.Configured := by
  induction hreach with
  | new => exact Session.configured_new settings
  | @receive h before disk m hm ih =>
      cases m with
      | notice event => exact ih.handle disk event
      | lensQuestion uri => exact ih

/-- What is due after an event does not depend on its checks. -/
@[simp] theorem due_receive_notice (disk disk' : Disk) (h : History) (event : Event)
    (d : TextDocument) :
    (h.receive disk (.notice event)).session.due disk' d = (h.session.updated event).due disk' d := by
  obtain ⟨results, heq⟩ := exists_receive_notice_eq disk h event
  rw [heq, Session.due_withResults]

@[simp] theorem dependsOn_receive_notice (disk disk' : Disk) (h : History) (event : Event)
    (d : TextDocument) (uri : Url) :
    (h.receive disk (.notice event)).session.DependsOn disk' d uri ↔
      (h.session.updated event).DependsOn disk' d uri := by
  obtain ⟨results, heq⟩ := exists_receive_notice_eq disk h event
  rw [heq, Session.dependsOn_withResults]

/-- Everything is up to date when all was published as it is due. -/
theorem upToDate_of_published?_eq
    (hpublished : ∀ d ∈ h.session.buffers.all, h.published? d.uri = h.session.due disk d) :
    h.UpToDate disk := by
  intro d hd ds hdue
  rw [shown, hpublished d hd, hdue]
  rfl

/-- As many complaints are shown as are due. -/
theorem UpToDate.length_eq (hfresh : h.UpToDate disk) (hd : d ∈ h.session.buffers.all)
    (hdue : h.session.due disk d ≠ none) :
    (h.published? d.uri).map List.length = (h.session.due disk d).map List.length := by
  obtain ⟨ds, hds⟩ := Option.ne_none_iff_exists'.mp hdue
  obtain ⟨ds', hpublished, hitems⟩ := Option.map_eq_some_iff.mp (hfresh d hd ds hds)
  have hlength := congrArg List.length hitems
  rw [List.length_map, List.length_map] at hlength
  rw [hpublished, hds, Option.map_some, Option.map_some, hlength]

/-- A document that was checked is fresh. -/
theorem isFresh_receive_of_mem_rechecked (hs : h.session.Configured)
    (hd : d ∈ h.session.rechecked disk event) : (h.receive disk (.notice event)).IsFresh disk d := by
  intro ds hdue
  rw [due_receive_notice] at hdue
  have hcheck := (hs.updated event).checkOutput_eq hdue
  have hunique : ∀ d' ∈ h.session.rechecked disk event, d'.uri.text = d.uri.text → d' = d := by
    intro d' hd' htext
    exact Buffers.eq_of_mem_all (Session.mem_all_of_mem_rechecked hd')
      (Session.mem_all_of_mem_rechecked hd) htext
  rw [shown, published?_receive_notice, lastPublished?_checks_of_mem hd hunique hcheck]
  rfl

/-- About a document that was neither checked nor closed, the editor shows what it did. -/
theorem shown_receive_of_ne (hchecks : ∀ d ∈ h.session.rechecked disk event,
      d.uri.text ≠ uri.text) (hclosed : ∀ u, event = .closed u → u.text ≠ uri.text) :
    (h.receive disk (.notice event)).shown uri = h.shown uri := by
  have hannounced : lastPublished? uri (h.session.announced event) = none := by
    cases hlast : lastPublished? uri (h.session.announced event) with
    | none => rfl
    | some ds =>
        obtain ⟨u, htext, hmem⟩ := exists_publish_of_lastPublished? hlast
        have hevent := (Session.eq_closed_of_publish_mem_announced hmem).1
        exact absurd htext (hclosed u hevent)
  rw [shown, published?_receive_notice, lastPublished?_checks_of_ne hchecks, hannounced]
  rfl

/-- An event leaves everything up to date when what is due about the documents that it does not
have checked was shown before. -/
theorem upToDate_receive (hs : h.session.Configured) (hclosed : ∀ u, event ≠ .closed u)
    (hothers : ∀ d ∈ (h.session.updated event).buffers.all, d ∉ h.session.rechecked disk event →
      ∀ ds, (h.session.updated event).due disk d = some ds →
        h.shown d.uri = some (ds.map (diagnosticJson d.uri))) :
    (h.receive disk (.notice event)).UpToDate disk := by
  intro d hd
  rw [buffers_receive_notice] at hd
  by_cases hmem : d ∈ h.session.rechecked disk event
  · exact isFresh_receive_of_mem_rechecked hs hmem
  · intro ds hdue
    rw [due_receive_notice] at hdue
    rw [shown_receive_of_ne ?_ (fun u hevent => absurd hevent (hclosed u))]
    · exact hothers d hd hmem ds hdue
    · intro d' hd' htext
      obtain rfl := Buffers.eq_of_mem_all (Session.mem_all_of_mem_rechecked hd') hd htext
      exact hmem hd'

/-- A change brings the documents up to date that depend on the changed one, and leaves the others
as they were. -/
theorem FreshApartFrom.upToDate_changed (hfresh : h.FreshApartFrom disk uri)
    (hs : h.session.Configured) (huri : uri.IsCanonical) {texts : List String}
    (htexts : texts ≠ []) : (h.receive disk (.notice (.changed uri texts))).UpToDate disk := by
  obtain ⟨text, hlast⟩ := Option.ne_none_iff_exists'.mp (mt List.getLast?_eq_none_iff.mp htexts)
  refine upToDate_receive hs (fun u => by simp) ?_
  intro d hd hnot ds hdue
  have hconfigured := hs.updated (.changed uri texts)
  simp only [Session.rechecked, Session.updated, hlast] at hd hnot hdue hconfigured
  have hagree := Session.agreeApartFrom_insert h.session uri text
  -- What was not checked is another document, and does not include the changed one.
  rcases Buffers.mem_all_insert.mp hd with rfl | ⟨hopen, htext⟩
  · exact absurd List.mem_cons_self hnot
  · have hfree : ¬Session.DependsOn disk
        { h.session with buffers := h.session.buffers.insert uri text } d uri := by
      rintro ⟨-, hinc⟩
      have huri' : d.uri ≠ uri := fun heq => htext (congrArg Url.text heq)
      exact hnot (List.mem_cons_of_mem _ (hconfigured.mem_dependents_iff.mpr ⟨hd, huri', hinc⟩))
    obtain ⟨hbefore, hfree'⟩ := hagree.due_eq_some huri hfree hdue
    exact hfresh d hopen hfree' ds hbefore

theorem UpToDate.changed (hfresh : h.UpToDate disk) (hs : h.session.Configured)
    (huri : uri.IsCanonical) (texts : List String) :
    (h.receive disk (.notice (.changed uri texts))).UpToDate disk := by
  by_cases htexts : texts = []
  · subst htexts
    exact upToDate_receive hs (fun u => by simp) (fun d hd _ => hfresh d hd)
  · exact (hfresh.freshApartFrom uri).upToDate_changed hs huri htexts

/-- Every open document is checked after a request was sent. -/
theorem upToDate_executed (hs : h.session.Configured) (disk : Disk) (key : CaptureKey)
    (capture : Capture) : (h.receive disk (.notice (.executed key capture))).UpToDate disk :=
  upToDate_receive hs (fun u => by simp) (fun _ hd hnot => absurd hd hnot)

/-- Every open document is checked by new settings, and refused ones change nothing. -/
theorem UpToDate.configured (hfresh : h.UpToDate disk) (hs : h.session.Configured)
    (editor : Json.Value) : (h.receive disk (.notice (.configured editor))).UpToDate disk := by
  refine upToDate_receive hs (fun u => by simp) ?_
  intro d hd hnot ds hdue
  simp only [Session.rechecked, Session.updated] at hd hnot hdue
  cases hload : Settings.load (some editor) with
  | ok settings =>
      simp only [hload] at hd hnot
      exact absurd hd hnot
  | error e =>
      simp only [hload] at hd hdue
      exact hfresh d hd ds hdue

/-- A change has no document checked twice. -/
theorem nodup_texts_rechecked_changed (disk : Disk) (s : Session) (uri : Url)
    (texts : List String) : ((s.rechecked disk (.changed uri texts)).map (·.uri.text)).Nodup := by
  simp only [Session.rechecked]
  cases texts.getLast? with
  | none => exact List.nodup_nil
  | some text =>
      refine List.nodup_cons.mpr ⟨?_, ?_⟩
      · intro hmem
        obtain ⟨d, hd, htext⟩ := List.mem_map.mp hmem
        obtain ⟨hopen, hne⟩ := List.mem_filter.mp hd
        have hself : (⟨uri, text⟩ : TextDocument) ∈ (s.buffers.insert uri text).all :=
          Buffers.mem_all_insert.mpr (.inl rfl)
        obtain rfl := Buffers.eq_of_mem_all hopen hself htext
        simp at hne
      · have hall := Buffers.nodup_texts_all (s.buffers.insert uri text)
        exact hall.sublist (List.filter_sublist.map _)

/-- What a change publishes about, it publishes about once, and that is the changed document or one
that includes it. -/
theorem subjects_changed (hs : h.session.Configured) (disk : Disk) (uri : Url)
    (texts : List String) :
    ((subjects (h.session.handle disk (.changed uri texts)).2).map Url.text).Nodup ∧
    ∀ u ∈ subjects (h.session.handle disk (.changed uri texts)).2,
      u = uri ∨ ∃ d ∈ (h.session.handle disk (.changed uri texts)).1.buffers.all,
        d.uri = u ∧ (h.session.handle disk (.changed uri texts)).1.Includes disk d uri := by
  obtain ⟨results, heq⟩ := h.session.handle_eq disk (.changed uri texts)
  have hconfigured := hs.updated (.changed uri texts)
  rw [heq, subjects_append, subjects_announced (fun u => by simp), List.nil_append]
  constructor
  · have hsublist := (subjects_checks_sublist disk (h.session.updated (.changed uri texts))
      (h.session.rechecked disk (.changed uri texts))).map Url.text
    rw [List.map_map] at hsublist
    exact (nodup_texts_rechecked_changed disk h.session uri texts).sublist hsublist
  · intro u hu
    obtain ⟨ds, hmem⟩ := mem_subjects_iff.mp hu
    obtain ⟨d, hd, hcheck⟩ := List.mem_map.mp hmem
    obtain rfl := eq_uri_of_checkOutput hcheck
    simp only [Session.rechecked, Session.updated] at hd hconfigured ⊢
    cases hlast : texts.getLast? with
    | none => simp [hlast] at hd
    | some text =>
        simp only [hlast] at hd hconfigured ⊢
        rcases List.mem_cons.mp hd with rfl | hd
        · exact .inl rfl
        · obtain ⟨hopen, -, hinc⟩ := hconfigured.mem_dependents_iff.mp hd
          exact .inr ⟨d, hopen, rfl, hinc⟩

/-- Whatever has happened before: when everything is up to date, then it is so after a change, after
a request was sent, and after new settings, be they valid or refused.  A change publishes at most
once about a document, and only about the changed one and those that include it. -/
theorem upToDate_of_recheck (allowed : Disk → Message → Prop) (settings : Settings) (disk : Disk)
    (h : History) (hreach : Reachable allowed settings h) :
    (h.UpToDate disk →
      (∀ uri texts, uri.IsCanonical →
        (h.receive disk (.notice (.changed uri texts))).UpToDate disk) ∧
      (∀ key capture, (h.receive disk (.notice (.executed key capture))).UpToDate disk) ∧
      (∀ editor, (h.receive disk (.notice (.configured editor))).UpToDate disk)) ∧
    (∀ uri texts, ((subjects (h.session.handle disk (.changed uri texts)).2).map Url.text).Nodup ∧
      ∀ u ∈ subjects (h.session.handle disk (.changed uri texts)).2,
        u = uri ∨ ∃ d ∈ (h.session.handle disk (.changed uri texts)).1.buffers.all,
          d.uri = u ∧ (h.session.handle disk (.changed uri texts)).1.Includes disk d uri) := by
  have hs := configured_of_reachable hreach
  constructor
  · intro hfresh
    refine ⟨?_, ?_, ?_⟩
    · intro uri texts huri
      exact hfresh.changed hs huri texts
    · intro key capture
      exact upToDate_executed hs disk key capture
    · intro editor
      exact hfresh.configured hs editor
  · intro uri texts
    exact subjects_changed hs disk uri texts

theorem isCanonical_workUrl_vars : (workUrl "vars.http").IsCanonical :=
  .ofFile (p := .ofString "/work/vars.http") (by decide) (by decide)

theorem isCanonical_workUrl_api : (workUrl "api.http").IsCanonical :=
  .ofFile (p := .ofString "/work/api.http") (by decide) (by decide)

/-- A document that includes another one and uses a name that may be defined there. -/
def apiDocument : TextDocument :=
  ⟨workUrl "api.http", "@@include vars.http\nGET {{host}}\n"⟩

/-- Both documents are open, and the name is defined. -/
def bothOpen (disk : Disk) : History :=
  (new .default).receiveAll disk
    [.notice (.opened (workUrl "vars.http") "@host = 1\n"),
      .notice (.opened apiDocument.uri apiDocument.text)]

theorem reachable_bothOpen (disk : Disk) :
    Reachable (fun d m => d = disk ∧ m.IsCanonical) .default (bothOpen disk) := by
  refine Reachable.new.receiveAll ?_
  simp [apiDocument, Message.IsCanonical, isCanonical_workUrl_vars, isCanonical_workUrl_api]

theorem upToDate_bothOpen : (bothOpen .empty).UpToDate .empty :=
  upToDate_of_published?_eq (by decide +kernel)

theorem upToDate_of_recheck_include :
    let h := bothOpen .empty
    let changed := h.receive .empty (.notice (.changed (workUrl "vars.http") ["@port = 80\n"]))
    Reachable (fun d m => d = .empty ∧ m.IsCanonical) .default h ∧ h.UpToDate .empty ∧
    h.published? apiDocument.uri = some [] ∧
    changed.UpToDate .empty ∧
    (changed.published? apiDocument.uri).map (·.map (·.message)) = some ["host is not found"] ∧
    subjects (h.session.handle .empty (.changed (workUrl "vars.http") ["@port = 80\n"])).2
      = [workUrl "vars.http", apiDocument.uri] ∧
    (h.receive .empty (.notice (.configured .null))).UpToDate .empty := by
  intro h changed
  have hreach := reachable_bothOpen .empty
  have hfresh := upToDate_bothOpen
  obtain ⟨hafter, -, hsettings⟩ := (upToDate_of_recheck _ .default .empty h hreach).1 hfresh
  have hbefore : h.published? apiDocument.uri = some [] := by decide +kernel
  have hcomplaint : (changed.published? apiDocument.uri).map (·.map (·.message))
      = some ["host is not found"] := by decide +kernel
  have hsubjects : subjects (h.session.handle .empty (.changed (workUrl "vars.http")
      ["@port = 80\n"])).2 = [workUrl "vars.http", apiDocument.uri] := by decide +kernel
  exact ⟨hreach, hfresh, hbefore, hafter _ _ isCanonical_workUrl_vars, hcomplaint, hsubjects,
    hsettings _⟩

/-! ### Opening and closing -/

/-- An event that changes one text, and has at most the document of that text checked, leaves behind
no more than the documents that depend on it. -/
theorem UpToDate.freshApartFrom_receive (hfresh : h.UpToDate disk) (hs : h.session.Configured)
    (huri : uri.IsCanonical)
    (hagree : Session.AgreeApartFrom uri h.session (h.session.updated event))
    (hown : ∀ d ∈ (h.session.updated event).buffers.all, d.uri.text = uri.text →
      d ∈ h.session.rechecked disk event)
    (hothers : ∀ u : Url, u.text ≠ uri.text →
      (h.receive disk (.notice event)).shown u = h.shown u) :
    (h.receive disk (.notice event)).FreshApartFrom disk uri := by
  intro d hd hfree
  rw [buffers_receive_notice] at hd
  rw [dependsOn_receive_notice] at hfree
  by_cases htext : d.uri.text = uri.text
  · exact isFresh_receive_of_mem_rechecked hs (hown d hd htext)
  · intro ds hdue
    rw [due_receive_notice] at hdue
    rw [hothers d.uri htext]
    have hbefore := (hagree.due_eq_some huri hfree hdue).1
    exact hfresh d (hagree.documents d htext hd) ds hbefore

theorem shown_receive_opened (disk : Disk) (h : History) (text : String) {u : Url}
    (hne : u.text ≠ uri.text) :
    (h.receive disk (.notice (.opened uri text))).shown u = h.shown u := by
  refine shown_receive_of_ne ?_ (fun v hevent => by cases hevent)
  intro d hd
  obtain rfl := List.mem_singleton.mp hd
  exact hne.symm

theorem shown_receive_closed (disk : Disk) (h : History) {u : Url} (hne : u.text ≠ uri.text) :
    (h.receive disk (.notice (.closed uri))).shown u = h.shown u := by
  refine shown_receive_of_ne (fun d hd => by cases hd) ?_
  intro v hevent
  obtain rfl := Event.closed.inj hevent
  exact hne.symm

theorem UpToDate.opened (hfresh : h.UpToDate disk) (hs : h.session.Configured)
    (huri : uri.IsCanonical) (text : String) :
    (h.receive disk (.notice (.opened uri text))).FreshApartFrom disk uri := by
  refine hfresh.freshApartFrom_receive hs huri
    (Session.agreeApartFrom_insert h.session uri text) ?_
    (fun _ hne => shown_receive_opened disk h text hne)
  intro d hd htext
  rcases Buffers.mem_all_insert.mp hd with rfl | ⟨-, hne⟩
  · exact List.mem_singleton_self _
  · exact absurd htext hne

theorem UpToDate.closed (hfresh : h.UpToDate disk) (hs : h.session.Configured)
    (huri : uri.IsCanonical) :
    (h.receive disk (.notice (.closed uri))).FreshApartFrom disk uri := by
  refine hfresh.freshApartFrom_receive hs huri (Session.agreeApartFrom_erase h.session uri) ?_
    (fun _ hne => shown_receive_closed disk h hne)
  intro d hd htext
  exact absurd htext (Buffers.mem_all_erase.mp hd).2

/-- The opening or the closing of a document publishes about nothing else.  When everything was up to
date, what it leaves behind depends on the document, and is up to date again once the document
changes. -/
theorem freshApartFrom_of_opened_or_closed (allowed : Disk → Message → Prop) (settings : Settings)
    (disk : Disk) (h : History) (hreach : Reachable allowed settings h)
    (hfresh : h.UpToDate disk) (uri : Url) (huri : uri.IsCanonical) (event : Event)
    (hevent : (∃ text, event = .opened uri text) ∨ event = .closed uri) :
    (∀ u : Url, u.text ≠ uri.text →
      (h.receive disk (.notice event)).shown u = h.shown u) ∧
    (h.receive disk (.notice event)).FreshApartFrom disk uri ∧
    (∀ texts, texts ≠ [] → ((h.receive disk (.notice event)).receive disk
      (.notice (.changed uri texts))).UpToDate disk) := by
  have hs := configured_of_reachable hreach
  have hafter : (∀ u : Url, u.text ≠ uri.text →
        (h.receive disk (.notice event)).shown u = h.shown u) ∧
      (h.receive disk (.notice event)).FreshApartFrom disk uri := by
    rcases hevent with ⟨text, rfl⟩ | rfl
    · exact ⟨fun u hne => shown_receive_opened disk h text hne, hfresh.opened hs huri text⟩
    · exact ⟨fun u hne => shown_receive_closed disk h hne, hfresh.closed hs huri⟩
  refine ⟨hafter.1, hafter.2, ?_⟩
  intro texts htexts
  exact hafter.2.upToDate_changed (hs.handle disk event) huri htexts

theorem freshApartFrom_of_opened_or_closed_include :
    let h := bothOpen .empty
    let closed := h.receive .empty (.notice (.closed (workUrl "vars.http")))
    Reachable (fun d m => d = .empty ∧ m.IsCanonical) .default h ∧ h.UpToDate .empty ∧
    closed.shown apiDocument.uri = h.shown apiDocument.uri ∧
    closed.FreshApartFrom .empty (workUrl "vars.http") ∧
    (closed.receive .empty
      (.notice (.changed (workUrl "vars.http") ["@port = 80\n"]))).UpToDate .empty := by
  intro h closed
  have hreach := reachable_bothOpen .empty
  have hfresh := upToDate_bothOpen
  obtain ⟨hshown, hapart, hchanged⟩ := freshApartFrom_of_opened_or_closed _ .default .empty h
    hreach hfresh _ isCanonical_workUrl_vars _ (.inr rfl)
  have hother : apiDocument.uri.text ≠ (workUrl "vars.http").text := by decide
  exact ⟨hreach, hfresh, hshown _ hother, hapart, hchanged _ (List.cons_ne_nil _ _)⟩

/-- A disk with another text of the included document than the one it is opened with. -/
def diskVars : Disk :=
  Disk.empty.insert (.ofString "/work/vars.http") (.file (Text.Utf8.encode "@port = 80\n".toList))

/-- The including document is not checked when the included one is opened, though only now it has a
tree; nor when the included one is closed, though it is read from the disk again. -/
theorem not_upToDate_of_opened_or_closed :
    (∃ h : History, Reachable (fun d m => d = .empty ∧ m.IsCanonical) .default h ∧
      h.UpToDate .empty ∧ (workUrl "vars.http").IsCanonical ∧
      ¬(h.receive .empty
        (.notice (.opened (workUrl "vars.http") "@port = 80\n"))).UpToDate .empty) ∧
    (∃ h : History, Reachable (fun d m => d = diskVars ∧ m.IsCanonical) .default h ∧
      h.UpToDate diskVars ∧ (workUrl "vars.http").IsCanonical ∧
      ¬(h.receive diskVars (.notice (.closed (workUrl "vars.http")))).UpToDate diskVars) := by
  have hvars := isCanonical_workUrl_vars
  constructor
  · refine ⟨(new .default).receiveAll .empty
      [.notice (.opened apiDocument.uri apiDocument.text)], ?_, ?_, hvars, ?_⟩
    · refine Reachable.new.receiveAll ?_
      simp [apiDocument, Message.IsCanonical, isCanonical_workUrl_api]
    · exact upToDate_of_published?_eq (by decide +kernel)
    · intro hfresh
      have hlength := hfresh.length_eq (d := apiDocument) (by decide +kernel) (by decide +kernel)
      exact absurd hlength (by decide +kernel)
  · refine ⟨bothOpen diskVars, reachable_bothOpen diskVars, ?_, hvars, ?_⟩
    · exact upToDate_of_published?_eq (by decide +kernel)
    · intro hfresh
      have hlength := hfresh.length_eq (d := apiDocument) (by decide +kernel) (by decide +kernel)
      exact absurd hlength (by decide +kernel)

end History

end HttpScript.Server
