import HandleWrap.Settings
import HandleWrap.Toml

set_option autoImplicit false

/-! # Settings as TOML

The settings that a TOML document gives. Every setting may be left out and then has its standard
value. Renames are a table, written in one line, under a header of their own or key by key; as soon
as one is given, the standard renames do not hold. -/

namespace HandleWrap

namespace Toml

/-- The text that a value is. -/
def Value.text? : Value → Option String
  | .text value => some value
  | _ => none

/-- The truth value that a value is. -/
def Value.bool? : Value → Option Bool
  | .bool value => some value
  | _ => none

/-- The list of texts that a value is. -/
def Value.texts? : Value → Option (List String)
  | .array items => items.mapM Value.text?
  | _ => none

/-- The table of texts that a value is. A moment in time counts as a table whose only entry has a
    key of its own and digits for a text. -/
def Value.names? : Value → Option (NameMap String)
  | .table entries =>
    entries.foldlM (fun names (path, value) =>
      match path with
      | [name] => if names.contains name then none else value.text?.map (names.insert name)
      | _ => none) .empty
  | .moment => some (.ofList [("$__toml_private_datetime", "0")])
  | _ => none

/-- Settings while a document is read. -/
structure SettingsDraft where
  settings : Settings
  /-- The settings that have been given. -/
  given : List String
  /-- Whether the table of renames may get more entries: not if it was written in one line. -/
  renamesOpen : Bool
  /-- The table that the next assignments belong to. -/
  current : List String

namespace SettingsDraft

/-- Nothing is given yet. -/
def start : SettingsDraft :=
  ⟨.standard, [], true, []⟩

/-- Gives a setting, which must not have been given before. -/
def give (d : SettingsDraft) (field : String) (value : Value) : Option SettingsDraft := do
  if d.given.contains field then none
  let s := d.settings
  let s ←
    match field with
    | "exceptions" => value.bool?.map fun on => { s with exceptions := on }
    | "extensions" => value.bool?.map fun on => { s with extensions := on }
    | "namespace" => value.text?.map fun name => { s with targetNamespace := name }
    | "c_prefix" => value.text?.map fun text => { s with cPrefix := text }
    | "noexceptions_namespace" => value.text?.map fun name => { s with quietNamespace := name }
    | "renames" => value.names?.map fun renames => { s with renames }
    | "header_guard" => value.text?.map fun guard => { s with headerGuard := some guard }
    | "includes" => value.texts?.map fun includes => { s with includes }
    | _ => none
  return { d with
    settings := s, given := field :: d.given, renamesOpen := d.renamesOpen && field != "renames" }

/-- Gives the table of renames without entries yet. -/
def openRenames (d : SettingsDraft) : SettingsDraft :=
  { d with settings := { d.settings with renames := .empty }, given := "renames" :: d.given }

/-- Gives one rename, which must not have been given before. -/
def giveRename (d : SettingsDraft) (source target : String) : Option SettingsDraft := do
  let d := if d.given.contains "renames" then d else d.openRenames
  if !d.renamesOpen || d.settings.renames.contains source then none
  return { d with settings := d.settings.withRename source target }

/-- Goes on with the next statement. -/
def next (d : SettingsDraft) : Statement → Option SettingsDraft
  | .header path =>
    if path == ["renames"] && !d.given.contains "renames" then
      some { d.openRenames with current := path }
    else none
  | .arrayHeader _ => none
  | .assign path value =>
    match d.current ++ path with
    | [field] => d.give field value
    | ["renames", source] => do d.giveRename source (← value.text?)
    | _ => none

end SettingsDraft

end Toml

/-- The settings that a document gives, if it gives nothing else. -/
def Settings.ofStatements? (statements : List Toml.Statement) : Option Settings :=
  (statements.foldlM Toml.SettingsDraft.next .start).map (·.settings)

end HandleWrap
