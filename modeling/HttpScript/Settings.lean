/-
Module: HttpScript.Settings
Purpose: The settings of an analysis, and the three ways they change: they are loaded from an
  editor's settings, updated in place, or reset.
Main exports: Settings, Settings.validate, Settings.load, Settings.update, SettingsError
-/
import HttpScript.Json.Decode
import HttpScript.Script.Expand
import HttpScript.Variable.Name

namespace HttpScript

open Json

/-- The settings of an analysis. -/
structure Settings where
  diagnosticsEnabled : Bool
  codeLensEnabled : Bool
  maxIncludeDepth : Nat
  environmentVariables : Dict String
deriving Repr, DecidableEq

/-- Why settings are refused. -/
inductive SettingsError where
  | zeroDepth
  | invalidName (name : String)
deriving Repr, DecidableEq

def SettingsError.message : SettingsError → String
  | .zeroDepth => "maxIncludeDepth must be greater than 0"
  | .invalidName name =>
    s!"environment variable name '{name}' may only contain letters, digits and '_'"

/-- The message when loaded settings are refused. -/
def SettingsError.loadMessage (e : SettingsError) : String :=
  "Invalid configuration: " ++ e.message

namespace Settings

/-- What holds for everything that is not set. -/
def default : Settings :=
  ⟨true, true, Script.defaultMaxIncludeDepth, {}⟩

instance : Inhabited Settings := ⟨default⟩

/-- What is wrong with some settings, if anything. -/
def validate (s : Settings) : Except SettingsError Unit :=
  if s.maxIncludeDepth = 0 then .error .zeroDepth
  else match s.environmentVariables.keys.find? (fun name => !Variable.isName name.toList) with
    | some name => .error (.invalidName name)
    | none => .ok ()

/-! ### As JSON -/

def toJson (s : Settings) : Value :=
  .ofMembers [
    ("diagnosticsEnabled", .bool s.diagnosticsEnabled),
    ("codeLensEnabled", .bool s.codeLensEnabled),
    ("maxIncludeDepth", .nat s.maxIncludeDepth),
    ("environmentVariables", .ofDict s.environmentVariables)]

/-- Every setting may be left out. -/
def record : Record Settings :=
  Record.pure Settings.mk
    |>.field (.withDefault "diagnosticsEnabled" Decode.boolean default.diagnosticsEnabled)
    |>.field (.withDefault "codeLensEnabled" Decode.boolean default.codeLensEnabled)
    |>.field (.withDefault "maxIncludeDepth" Decode.count default.maxIncludeDepth)
    |>.field (.withDefault "environmentVariables" Decode.dictionary default.environmentVariables)

def ofJson : Value → Except DecodeError Settings :=
  record.decode "AnalyzerConfig"

/-! ### Changes -/

/-- The member of an editor's settings that is meant for this program. -/
def section? (editor : Option Value) : Option Value :=
  editor.bind (·.member? "rest-client")

/-- The settings an editor gives.  Missing and malformed settings stand for the defaults. -/
def ofEditor (editor : Option Value) : Settings :=
  match section? editor with
  | none => default
  | some v => match ofJson v with
    | .ok s => s
    | .error _ => default

/-- Loads settings, unless they are refused. -/
def load (editor : Option Value) : Except SettingsError Settings :=
  (ofEditor editor).validate.map (fun _ => ofEditor editor)

/-- Settings that are loaded have passed the check. -/
theorem validate_of_load {editor : Option Value} {s : Settings} (h : load editor = .ok s) :
    s.validate = .ok () := by
  unfold load at h
  cases hvalid : (ofEditor editor).validate with
  | error e =>
    rw [hvalid] at h
    cases h
  | ok u =>
    rw [hvalid] at h
    obtain rfl := Except.ok.inj h
    exact hvalid

/-- The settings in force after loading: refused ones change nothing. -/
def afterLoad (current : Settings) (editor : Option Value) : Settings :=
  match load editor with
  | .ok s => s
  | .error _ => current

/-- The settings in force after a change in place: one that is refused restores the defaults. -/
def update (current : Settings) (change : Settings → Settings) : Settings :=
  match (change current).validate with
  | .ok _ => change current
  | .error _ => default

end Settings

end HttpScript
