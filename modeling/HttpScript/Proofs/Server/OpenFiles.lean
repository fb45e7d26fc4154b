/-
Module: HttpScript.Proofs.Server.OpenFiles
Purpose: Whether a file is read from its buffer.  Every URI has a text of its own, which only the
  operations on that URI change.  A file is read from the text of one URI, the one that is written
  from its path.  A document that was opened under another spelling of its file's URL is passed
  over, and the file is read from the disk as if it were not open.
Main exports: Buffers.Operation, Buffers.applyAll, Buffers.get?_applyAll,
  Buffers.load_of_sole_holder, Buffers.load_after_operations, Buffers.not_load_of_other_spelling
-/
import HttpScript.Proofs.Url.Identity
import HttpScript.Server.Buffers

namespace HttpScript.Server.Buffers

open Script

/-- What can be done to the open documents.  Reading them changes nothing. -/
inductive Operation where
  | insert (uri : Url) (text : String)
  | update (uri : Url) (text : String)
  | erase (uri : Url)
  | clear
deriving Repr, DecidableEq

namespace Operation

/-- The URI an operation is about. -/
def uri? : Operation → Option Url
  | .insert uri _ => some uri
  | .update uri _ => some uri
  | .erase uri => some uri
  | .clear => none

/-- What an operation makes of the text that a URI has. -/
def effect (uri : Url) (held : Option String) : Operation → Option String
  | .insert u text => if uri.text = u.text then some text else held
  | .update u text => if uri.text = u.text then held.map (fun _ => text) else held
  | .erase u => if uri.text = u.text then none else held
  | .clear => none

/-- The text that a URI has after some operations, the last of which counts most. -/
def textAfter (ops : List Operation) (uri : Url) : Option String :=
  ops.foldl (fun held op => op.effect uri held) none

end Operation

/-- An update of a document that is not open is refused. -/
def apply (b : Buffers) : Operation → Buffers
  | .insert uri text => b.insert uri text
  | .update uri text => (b.update? uri text).getD b
  | .erase uri => b.erase uri
  | .clear => empty

def applyAll (b : Buffers) (ops : List Operation) : Buffers :=
  ops.foldl apply b

/-! ### Each URI by itself -/

theorem get?_apply (b : Buffers) (op : Operation) (uri : Url) :
    (b.apply op).texts.get? uri = op.effect uri (b.texts.get? uri) := by
  cases op with
  | insert u text => exact UriMap.get?_insert _ _ _ _
  | update u text =>
      simp only [apply, update?, UriMap.contains_eq_isSome, Operation.effect]
      by_cases htext : uri.text = u.text
      · rw [if_pos htext, b.texts.get?_congr htext]
        cases hheld : b.texts.get? u with
        | none => simp [b.texts.get?_congr htext, hheld]
        | some held => simp [insert, htext]
      · rw [if_neg htext]
        cases b.texts.get? u with
        | none => rfl
        | some held => simp [insert, htext]
  | erase u => exact UriMap.get?_erase _ _ _
  | clear => rfl

theorem get?_applyAll (b : Buffers) (ops : List Operation) (uri : Url) :
    (b.applyAll ops).texts.get? uri
      = ops.foldl (fun held op => op.effect uri held) (b.texts.get? uri) := by
  induction ops generalizing b with
  | nil => rfl
  | cons op ops ih =>
      rw [List.foldl_cons, ← get?_apply]
      exact ih (b.apply op)

/-- Only the operations on a URI count for its text. -/
theorem get?_empty_applyAll (ops : List Operation) (uri : Url) :
    (empty.applyAll ops).texts.get? uri = Operation.textAfter ops uri :=
  get?_applyAll empty ops uri

/-- What is open was open before, or the operation is about it. -/
theorem mem_all_apply {b : Buffers} {op : Operation} {d : TextDocument} (h : d ∈ (b.apply op).all) :
    d ∈ b.all ∨ op.uri? = some d.uri := by
  have hinsert : ∀ {uri text}, d ∈ (b.insert uri text).all → d ∈ b.all ∨ some uri = some d.uri := by
    intro uri text hmem
    rcases mem_all_insert.mp hmem with rfl | ⟨hmem, -⟩
    · exact .inr rfl
    · exact .inl hmem
  cases op with
  | insert uri text => exact hinsert h
  | update uri text =>
      simp only [apply, update?] at h
      split at h
      · exact hinsert h
      · exact .inl h
  | erase uri => exact .inl (mem_all_erase.mp h).1
  | clear => cases h

theorem mem_all_applyAll {b : Buffers} {ops : List Operation} {d : TextDocument}
    (h : d ∈ (b.applyAll ops).all) : d ∈ b.all ∨ ∃ op ∈ ops, op.uri? = some d.uri := by
  induction ops generalizing b with
  | nil => exact .inl h
  | cons op ops ih =>
      rcases ih h with h | ⟨op', hop', huri⟩
      · rcases mem_all_apply h with h | huri
        · exact .inl h
        · exact .inr ⟨op, List.mem_cons_self, huri⟩
      · exact .inr ⟨op', List.mem_cons_of_mem _ hop', huri⟩

/-! ### Loading -/

variable {b : Buffers} {disk : Disk} {d : TextDocument} {path : FilePath} {uri : Url}

theorem load_of_get?_eq_some {text : String} (huri : Url.ofFilePath? path = some uri)
    (hheld : b.texts.get? uri = some text) : b.load disk path = .ok text := by
  rw [load, huri, Option.bind_some, hheld]

theorem load_of_get?_eq_none (huri : Url.ofFilePath? path = some uri)
    (hheld : b.texts.get? uri = none) : b.load disk path = disk.load path := by
  rw [load, huri, Option.bind_some, hheld]

theorem load_of_ofFilePath?_eq_none (huri : Url.ofFilePath? path = none) :
    b.load disk path = disk.load path := by
  rw [load, huri, Option.bind_none]

/-- What is held under the URL of a file is a document of that file. -/
theorem exists_holder {text : String} (hread : ∀ d ∈ b.all, ∃ s, Url.parse s = .ok d.uri)
    (huri : Url.ofFilePath? path = some uri) (hheld : b.texts.get? uri = some text) :
    ∃ d ∈ b.all, d.uri.text = uri.text ∧ ∃ q, d.filePath? = some q ∧ q.same path = true := by
  obtain ⟨u, htext, hmem⟩ := UriMap.exists_mem_toList_of_get? hheld
  have hopen : (⟨u, text⟩ : TextDocument) ∈ b.all := mem_all_iff.mpr hmem
  obtain ⟨s, hs⟩ := hread _ hopen
  obtain ⟨q, hq, hplace⟩ := Url.toFilePath?_ofFilePath? huri
  have hpath : u.toFilePath? = uri.toFilePath? :=
    (Url.isRead_of_parse hs).toFilePath?_eq_of_text_eq huri htext
  exact ⟨_, hopen, htext, q, hpath.trans hq, FilePath.same_iff.mpr hplace⟩

/-- A file of which one document is open is read from that document if its URI is spelled like the
URL of the file, and else from the disk. -/
theorem load_of_sole_holder (hread : ∀ d ∈ b.all, ∃ s, Url.parse s = .ok d.uri)
    (hd : d ∈ b.all)
    (hsole : ∀ d' ∈ b.all, ∀ q, d'.filePath? = some q → q.same path = true → d' = d) :
    b.load disk path =
      if (Url.ofFilePath? path).map Url.text = some d.uri.text then .ok d.text
      else disk.load path := by
  have hheld := get?_texts_of_mem_all hd
  cases huri : Url.ofFilePath? path with
  | none =>
      rw [if_neg (by simp)]
      exact load_of_ofFilePath?_eq_none huri
  | some uri =>
      by_cases htext : uri.text = d.uri.text
      · rw [if_pos (by rw [Option.map_some, htext])]
        rw [← b.texts.get?_congr htext] at hheld
        exact load_of_get?_eq_some huri hheld
      · rw [if_neg (by simpa using htext)]
        apply load_of_get?_eq_none huri
        -- Another document under the URL of the file would be a second one of this file.
        cases hother : b.texts.get? uri with
        | none => rfl
        | some text =>
            obtain ⟨d', hd', htext', q, hq, hsame⟩ := exists_holder hread huri hother
            obtain rfl := hsole d' hd' q hq hsame
            exact absurd htext'.symm htext

/-- Whatever was done to the open documents: a file is read from the text that its URL was left
with, or else from the disk.  So an open document stands for its file, when it is the only one of
it, exactly if its URI is spelled like the URL of the file. -/
theorem load_after_operations (disk : Disk) (ops : List Operation)
    (hread : ∀ op ∈ ops, ∀ uri, op.uri? = some uri → ∃ s, Url.parse s = .ok uri) :
    (∀ path, (empty.applyAll ops).load disk path =
      match (Url.ofFilePath? path).bind (Operation.textAfter ops) with
      | some text => .ok text
      | none => disk.load path) ∧
    ∀ d ∈ (empty.applyAll ops).all, Operation.textAfter ops d.uri = some d.text ∧
      ∀ path, d.filePath? = some path →
        (∀ d' ∈ (empty.applyAll ops).all, ∀ q, d'.filePath? = some q → q.same path = true →
          d' = d) →
        (empty.applyAll ops).load disk path =
          if (Url.ofFilePath? path).map Url.text = some d.uri.text then .ok d.text
          else disk.load path := by
  have hopened : ∀ d ∈ (empty.applyAll ops).all, ∃ s, Url.parse s = .ok d.uri := by
    intro d hd
    rcases mem_all_applyAll hd with hd | ⟨op, hop, huri⟩
    · cases hd
    · exact hread op hop _ huri
  constructor
  · intro path
    have htexts : (empty.applyAll ops).texts.get? = Operation.textAfter ops :=
      funext (get?_empty_applyAll ops)
    have hload : (empty.applyAll ops).load disk path =
        match (Url.ofFilePath? path).bind (empty.applyAll ops).texts.get? with
        | some text => .ok text
        | none => disk.load path := rfl
    rw [hload, htexts]
  · intro d hd
    constructor
    · rw [← get?_empty_applyAll]
      exact get?_texts_of_mem_all hd
    · intro path _ hsole
      exact load_of_sole_holder hopened hd hsole

/-- A file whose name holds an at-sign, opened under a URL that encodes it, as editors may write
it. -/
def respelled : TextDocument :=
  ⟨⟨"file", some ⟨"", "", none⟩, .segments ["work", "%40api.http"], none, none⟩,
    "GET https://a.example\n"⟩

/-- The disk holds an older text of the file. -/
def diskApi : Disk :=
  Disk.empty.insert (.ofString "/work/@api.http") (.file (Text.Utf8.encode "@host = 1\n".toList))

theorem parse_respelled : Url.parse "file:///work/%40api.http" = .ok respelled.uri := by
  decide

/-- A file whose name needs encoding, opened under the URL that encodes what has to be. -/
def spelled : TextDocument :=
  ⟨⟨"file", some ⟨"", "", none⟩, .segments ["work", "caf%C3%A9%20menu.http"], none, none⟩,
    "@tea = 2\n"⟩

/-- Both are opened, and one is changed after a document was closed. -/
def bothSpellings : List Operation :=
  [.insert spelled.uri "@tea = 1\n", .insert respelled.uri respelled.text,
    .erase spelled.uri, .update spelled.uri "@tea = 0\n", .insert spelled.uri spelled.text]

/-- The documents of a file, when there is one. -/
theorem eq_of_filter_eq_singleton {documents : List TextDocument}
    (h : documents.filter (fun d' => d'.filePath?.any (·.same path)) = [d]) :
    ∀ d' ∈ documents, ∀ q, d'.filePath? = some q → q.same path = true → d' = d := by
  intro d' hd' q hq hsame
  have hmem : d' ∈ documents.filter (fun d' => d'.filePath?.any (·.same path)) := by
    rw [List.mem_filter, hq, Option.any_some]
    exact ⟨hd', hsame⟩
  rw [h] at hmem
  exact List.mem_singleton.mp hmem

theorem load_after_operations_bothSpellings :
    let b := empty.applyAll bothSpellings
    (∀ op ∈ bothSpellings, ∀ uri, op.uri? = some uri → ∃ s, Url.parse s = .ok uri) ∧
    b.all = [respelled, spelled] ∧
    spelled.filePath? = some (.ofString "/work/café menu.http") ∧
    b.load diskApi (.ofString "/work/café menu.http") = .ok spelled.text ∧
    respelled.filePath? = some (.ofString "/work/@api.http") ∧
    b.load diskApi (.ofString "/work/@api.http") = .ok "@host = 1\n" := by
  intro b
  have hspelled : Url.parse "file:///work/café menu.http" = .ok spelled.uri := by decide
  have hread : ∀ op ∈ bothSpellings, ∀ uri, op.uri? = some uri → ∃ s, Url.parse s = .ok uri := by
    intro op hop uri huri
    simp only [bothSpellings, List.mem_cons, List.not_mem_nil, or_false] at hop
    rcases hop with rfl | rfl | rfl | rfl | rfl <;> cases huri
    · exact ⟨_, hspelled⟩
    · exact ⟨_, parse_respelled⟩
    · exact ⟨_, hspelled⟩
    · exact ⟨_, hspelled⟩
    · exact ⟨_, hspelled⟩
  have hall : b.all = [respelled, spelled] := by decide
  have hpath : spelled.filePath? = some (.ofString "/work/café menu.http") := by decide
  have hpath' : respelled.filePath? = some (.ofString "/work/@api.http") := by decide
  obtain ⟨-, hopen⟩ := load_after_operations diskApi bothSpellings hread
  have hown := (hopen spelled (by decide)).2 _ hpath
    (eq_of_filter_eq_singleton (by decide))
  have hdisk := (hopen respelled (by decide)).2 _ hpath'
    (eq_of_filter_eq_singleton (by decide))
  rw [if_pos (by decide)] at hown
  rw [if_neg (by decide)] at hdisk
  refine ⟨hread, hall, hpath, hown, hpath', hdisk.trans ?_⟩
  decide +kernel

/-- A document that is open as the only one of its file is not read from its buffer. -/
theorem not_load_of_other_spelling :
    let b := empty.applyAll [.insert respelled.uri respelled.text]
    Url.parse "file:///work/%40api.http" = .ok respelled.uri ∧
    b.all = [respelled] ∧
    respelled.filePath? = some (.ofString "/work/@api.http") ∧
    b.load diskApi (.ofString "/work/@api.http") = .ok "@host = 1\n" ∧
    b.load .empty (.ofString "/work/@api.http")
      = .error (.notFound (.ofString "/work/@api.http")) := by
  intro b
  refine ⟨parse_respelled, ?_, ?_, ?_, ?_⟩
  all_goals decide +kernel

end HttpScript.Server.Buffers
