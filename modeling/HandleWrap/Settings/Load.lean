import HandleWrap.FileSystem
import HandleWrap.Toml.SettingsForm

set_option autoImplicit false

/-! # Loading settings

Settings are read from a TOML document and have to be usable: what `Settings.ofToml` returns has no
`Settings.problem?`. -/

namespace HandleWrap

/-- Why settings cannot be loaded. -/
inductive SettingsError where
  | unreadable (path : String) (fault : FileFault)
  /-- The text is no document, or it gives something that is no setting. -/
  | malformed
  | invalid (setting : InvalidSetting)
deriving DecidableEq, Repr

namespace SettingsError

/-- The message for the user. -/
def message : SettingsError → String
  | unreadable path fault => "failed to read " ++ path ++ ": " ++ fault.message
  | malformed => "invalid configuration: malformed document or unexpected key"
  | invalid setting => setting.message

/-- The messages of the errors that led to this one. -/
def causes : SettingsError → List String
  | unreadable _ fault => [fault.message]
  | malformed => ["malformed document or unexpected key"]
  | invalid _ => []

end SettingsError

namespace Settings

/-- The settings that a text gives. -/
def ofToml (text : String) : Except SettingsError Settings :=
  match (Toml.document? text).bind ofStatements? with
  | none => .error .malformed
  | some settings =>
    match settings.problem? with
    | some problem => .error (.invalid problem)
    | none => .ok settings

theorem problem?_of_ofToml {text : String} {settings : Settings}
    (h : ofToml text = .ok settings) : settings.problem? = none := by
  unfold ofToml at h
  split at h
  · cases h
  · split at h
    · cases h
    · next hp => cases h; exact hp

/-- The settings in the file at a path, given what reading the file has led to. -/
def ofFile (path : String) (content : Except FileFault String) : Except SettingsError Settings := do
  ofToml (← content.mapError (.unreadable path))

/-- The settings that a file gives. -/
def load {m : Type → Type} [Monad m] [FileSystem m] (path : String) :
    m (Except SettingsError Settings) :=
  return ofFile path (← FileSystem.readText path)

end Settings

end HandleWrap
