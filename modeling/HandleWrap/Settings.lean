import HandleWrap.NameMap
import HandleWrap.Text.Affix
import HandleWrap.Text.Identifier
import HandleWrap.Text.Uppercase

set_option autoImplicit false

/-! # Settings

The settings of a run and every spelling that is derived from them: macros that mark ownership,
qualified names, the prefixed names of the C library. `Settings.problem?` finds the first setting
that no run should be started with. -/

namespace HandleWrap

/-- The settings of a run. -/
structure Settings where
  /-- Failures throw; else they are reported through result values. -/
  exceptions : Bool
  /-- Enumerations and contexts have C++ types, and the hooks become operators. -/
  extensions : Bool
  /-- The namespace of the generated classes. -/
  targetNamespace : String
  /-- What the identifiers of the C library begin with. -/
  cPrefix : String
  /-- The inline namespace of the classes that do not throw. -/
  quietNamespace : String
  /-- Public names that are replaced, with their replacements. -/
  renames : NameMap String
  /-- The macro that guards the output against being included twice. -/
  headerGuard : Option String
  /-- Headers to include. -/
  includes : List String

namespace Settings

/-- The settings that hold where nothing else is said. -/
def standard : Settings where
  exceptions := true
  extensions := true
  targetNamespace := "isl"
  cPrefix := "isl_"
  quietNamespace := "noexceptions"
  renames := .ofList [("union", "unite"), ("delete", "del")]
  headerGuard := none
  includes := []

instance : Inhabited Settings := ⟨standard⟩

/-- The settings with one more rename. -/
def withRename (s : Settings) (source target : String) : Settings :=
  { s with renames := s.renames.insert source target }

/-- The settings with one more header to include. -/
def withInclude (s : Settings) (header : String) : Settings :=
  { s with includes := s.includes ++ [header] }

end Settings

/-! ## Settings that cannot be used -/

/-- Why settings cannot be used. -/
inductive InvalidSetting where
  | targetNamespace (text : String)
  | quietNamespace (text : String)
  | emptyPrefix
  /-- The rename of `source` leads to something that is no identifier. -/
  | renameTarget (source : String)
deriving DecidableEq, Repr

/-- The message that names the setting and what is wrong with it. -/
def InvalidSetting.message : InvalidSetting → String
  | .targetNamespace text =>
    "invalid value for namespace: '" ++ text ++ "' is not an identifier"
  | .quietNamespace text =>
    "invalid value for noexceptions_namespace: '" ++ text ++ "' is not an identifier"
  | .emptyPrefix => "invalid value for c_prefix: must not be empty"
  | .renameTarget source =>
    "invalid value for renames: '" ++ source ++ "' is renamed to a non-identifier"

namespace Settings

/-- The first setting that cannot be used. The namespaces and the targets of renames have to be
    identifiers, and the C prefix must not be empty. -/
def problem? (s : Settings) : Option InvalidSetting :=
  if !Text.isIdentifier s.targetNamespace then some (.targetNamespace s.targetNamespace)
  else if !Text.isIdentifier s.quietNamespace then some (.quietNamespace s.quietNamespace)
  else if s.cPrefix.isEmpty then some .emptyPrefix
  else
    (s.renames.entries.find? fun rename => !Text.isIdentifier rename.2).map fun rename =>
      .renameTarget rename.1

/-! ## Derived spellings -/

/-- The public name of a method after renaming. -/
def renamed (s : Settings) (name : String) : String :=
  (s.renames.get? name).getD name

/-- A C name without its prefix. As many bytes are cut off as the prefix has, whatever they are; a
    name that cannot be cut there stays whole. -/
def stripped (s : Settings) (name : String) : String :=
  match Text.dropBytes? s.cPrefix.utf8ByteSize name.toList with
  | some rest => String.ofList rest
  | none => name

/-- Cutting off brings in no character. -/
theorem mem_of_mem_stripped {s : Settings} {name : String} {c : Char}
    (hc : c ∈ (s.stripped name).toList) : c ∈ name.toList := by
  unfold stripped at hc
  split at hc
  · next rest hrest =>
      rw [String.toList_ofList] at hc
      exact Text.mem_of_mem_dropBytes? hrest hc
  · exact hc

/-- A name in the target namespace. -/
def qualified (s : Settings) (name : String) : String :=
  s.targetNamespace ++ "::" ++ name

/-- The macro that marks ownership on the C side, such as `__isl_take`. -/
def ownershipMark (s : Settings) (kind : String) : String :=
  "__" ++ s.cPrefix ++ kind

/-- A name of the C library, such as `isl_stat_ok`. -/
def cName (s : Settings) (name : String) : String :=
  s.cPrefix ++ name

/-- What yes-or-no questions return. -/
def boolType (s : Settings) : String :=
  if s.exceptions then "bool" else s.qualified "boolean"

/-- What functions return that only succeed or fail. -/
def statType (s : Settings) : String :=
  if s.exceptions then "void" else s.qualified "stat"

/-- The option that keeps the C library quiet about errors. -/
def onErrorContinue (s : Settings) : String :=
  Text.upperCase s.cPrefix ++ "ON_ERROR_CONTINUE"

end Settings

end HandleWrap
