/-
Module: HttpScript.Proofs.Settings.Merging
Purpose: Settings merge with the defaults one by one.  Loading settings that were written as JSON
  gives them back; each one that is left out has its default, and members that are no settings do
  not count.
Main exports: Settings.names, Settings.withDefaults, Settings.ofJson_mergedMembers,
  Settings.load_merged
-/
import HttpScript.Proofs.Json.RecordReading
import HttpScript.Proofs.Settings.InForce

namespace HttpScript.Settings

open Json

/-- The names of the settings in an editor's settings. -/
def names : List String :=
  ["diagnosticsEnabled", "codeLensEnabled", "maxIncludeDepth", "environmentVariables"]

/-- The settings, but with the defaults for those of some names. -/
def withDefaults (s : Settings) (leftOut : List String) : Settings where
  diagnosticsEnabled :=
    if "diagnosticsEnabled" ∈ leftOut then default.diagnosticsEnabled else s.diagnosticsEnabled
  codeLensEnabled :=
    if "codeLensEnabled" ∈ leftOut then default.codeLensEnabled else s.codeLensEnabled
  maxIncludeDepth :=
    if "maxIncludeDepth" ∈ leftOut then default.maxIncludeDepth else s.maxIncludeDepth
  environmentVariables :=
    if "environmentVariables" ∈ leftOut then default.environmentVariables
    else s.environmentVariables

variable {s : Settings} {leftOut : List String} {unknown : Dict Value}

theorem withDefaults_nil (s : Settings) : s.withDefaults [] = s := by
  simp [withDefaults]

/-- A default passes the check whatever the other settings are. -/
theorem validate_withDefaults (h : s.validate = .ok ()) (leftOut : List String) :
    (s.withDefaults leftOut).validate = .ok () := by
  obtain ⟨hdepth, hnames⟩ := validate_eq_ok_iff.mp h
  obtain ⟨hdefaultDepth, hdefaultNames⟩ := validate_eq_ok_iff.mp validate_default
  apply validate_eq_ok_iff.mpr
  constructor
  · simp only [withDefaults]
    split
    · exact hdefaultDepth
    · exact hdepth
  · simp only [withDefaults]
    split
    · exact hdefaultNames
    · exact hnames

/-- The members of written settings without some of them, and with others that are no settings. -/
def mergedMembers (s : Settings) (leftOut : List String) (unknown : Dict Value) : Dict Value :=
  (s.toJson.members.without leftOut).union unknown

theorem get?_mergedMembers (hunknown : ∀ name ∈ names, unknown.contains name = false)
    {name : String} {v : Value} (hname : name ∈ names) (hv : s.toJson.members.get? name = some v) :
    (s.mergedMembers leftOut unknown).get? name = if name ∈ leftOut then none else some v := by
  have hnone : unknown.get? name = none := by
    simpa [Dict.contains] using hunknown name hname
  rw [mergedMembers, Dict.get?_union, hnone, Option.none_or, Dict.get?_without, hv]

theorem mergedMembers_nil (s : Settings) : s.mergedMembers [] {} = s.toJson.members := by
  rw [mergedMembers, Dict.without_nil]
  rfl

theorem toJson_eq (s : Settings) : s.toJson = .object s.toJson.members.entries :=
  Value.ofMembers_eq _

theorem get?_members_toJson (s : Settings) :
    s.toJson.members.get? "diagnosticsEnabled" = some (.bool s.diagnosticsEnabled) ∧
    s.toJson.members.get? "codeLensEnabled" = some (.bool s.codeLensEnabled) ∧
    s.toJson.members.get? "maxIncludeDepth" = some (.nat s.maxIncludeDepth) ∧
    s.toJson.members.get? "environmentVariables" = some (.ofDict s.environmentVariables) := by
  simp [toJson, Dict.ofList]

/-- Every setting is read by itself. -/
theorem ofJson_mergedMembers (hunknown : ∀ name ∈ names, unknown.contains name = false) :
    ofJson (.object (s.mergedMembers leftOut unknown).entries) = .ok (s.withDefaults leftOut) := by
  obtain ⟨hdiagnostics, hlenses, hdepth, henvironment⟩ := get?_members_toJson s
  have hmember : ∀ {name v}, name ∈ names → s.toJson.members.get? name = some v →
      (s.mergedMembers leftOut unknown).get? name = if name ∈ leftOut then none else some v :=
    get?_mergedMembers hunknown
  have hrecord : record.Gives (s.mergedMembers leftOut unknown) (s.withDefaults leftOut) :=
    Record.gives_pure _ Settings.mk
      |>.field (.withDefault _ (hmember (by decide) hdiagnostics) rfl)
      |>.field (.withDefault _ (hmember (by decide) hlenses) rfl)
      |>.field (.withDefault _ (hmember (by decide) hdepth) (Decode.count_nat _))
      |>.field (.withDefault _ (hmember (by decide) henvironment)
        (Decode.dictionary_ofDict _))
  exact hrecord.decode "AnalyzerConfig"

/-- An editor's settings with one member, which is meant for this program. -/
def editorWith (v : Value) : Option Value :=
  some (.ofMembers [("rest-client", v)])

theorem load_editorWith {v : Value} (hread : ofJson v = .ok s) (hvalid : s.validate = .ok ()) :
    load (editorWith v) = .ok s := by
  have hsection : section? (editorWith v) = some v := by
    simp [section?, editorWith, Value.member?_ofMembers, Dict.ofList]
  have hgiven : ofEditor (editorWith v) = s := by
    simp only [ofEditor, hsection, hread]
  rw [load, hgiven, hvalid]
  rfl

/-- Settings that pass the check are read back from what is written of them: from all of it as they
are, and from a part, whatever else there is that is no setting, with the defaults for the rest.
They are in force then. -/
theorem load_merged (s current : Settings) (hvalid : s.validate = .ok ()) :
    (∀ leftOut unknown, (∀ name ∈ names, unknown.contains name = false) →
      let editor := editorWith (.object (s.mergedMembers leftOut unknown).entries)
      load editor = .ok (s.withDefaults leftOut) ∧
        current.afterLoad editor = s.withDefaults leftOut) ∧
    load (editorWith s.toJson) = .ok s ∧ current.afterLoad (editorWith s.toJson) = s := by
  have hmerged : ∀ leftOut unknown, (∀ name ∈ names, unknown.contains name = false) →
      load (editorWith (.object (s.mergedMembers leftOut unknown).entries)) =
        .ok (s.withDefaults leftOut) := by
    intro leftOut unknown hunknown
    exact load_editorWith (ofJson_mergedMembers hunknown) (validate_withDefaults hvalid leftOut)
  have hwhole : load (editorWith s.toJson) = .ok s := by
    have hnone := hmerged [] {} (fun _ _ => rfl)
    rwa [mergedMembers_nil, withDefaults_nil, ← toJson_eq] at hnone
  refine ⟨?_, hwhole, afterLoad_of_ok hwhole current⟩
  intro leftOut unknown hunknown
  have hload := hmerged leftOut unknown hunknown
  exact ⟨hload, afterLoad_of_ok hload current⟩

/-- Settings of which none is the default. -/
def customSettings : Settings :=
  ⟨false, false, UInt64.size - 1, Dict.ofList [("token_1", "é😀"), ("host", "")]⟩

/-- Members with names much like those of settings. -/
def otherMembers : Dict Value :=
  Dict.ofList [("maxDepth", .nat 0), ("max_include_depth", .nat 3), ("codelensenabled", .null)]

/-- The setting that is left out has its default and the members of other names change nothing,
neither by their values nor by their types. -/
theorem load_merged_custom :
    customSettings.validate = .ok () ∧
    (∀ name ∈ names, otherMembers.contains name = false) ∧
    load (editorWith (.object (customSettings.mergedMembers ["codeLensEnabled"]
      otherMembers).entries)) = .ok { customSettings with codeLensEnabled := true } ∧
    load (editorWith customSettings.toJson) = .ok customSettings ∧
    default.afterLoad (editorWith customSettings.toJson) = customSettings := by
  have hvalid : customSettings.validate = .ok () := rfl
  have hother : ∀ name ∈ names, otherMembers.contains name = false := by decide
  obtain ⟨hmerged, hwhole, hforce⟩ := load_merged customSettings default hvalid
  have hdefault : customSettings.withDefaults ["codeLensEnabled"] =
      { customSettings with codeLensEnabled := true } := by
    simp [withDefaults, default]
  rw [← hdefault]
  exact ⟨hvalid, hother, (hmerged ["codeLensEnabled"] otherMembers hother).1, hwhole, hforce⟩

end HttpScript.Settings
