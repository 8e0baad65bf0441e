import FrancaAudit.Check.Pass
import FrancaAudit.Text.Blank
import FrancaAudit.Text.Path

/-!
The settings of a run, and which of them make sense.
-/

namespace FrancaAudit

structure ValidationSettings where
  mode : Mode
  denyWarnings : Bool
  elementOrder : Bool
deriving DecidableEq

inductive LogFormat
  | plain
  | json
deriving DecidableEq

def LogFormat.name : LogFormat → String
  | .plain => "plain"
  | .json => "json"

/-- How much is logged, in general and for single modules, and where to. The modules stand in the
order of their names. -/
structure LogSettings where
  level : String
  modules : List (String × String)
  file : Option String
  format : LogFormat
deriving DecidableEq

structure Settings where
  validation : ValidationSettings
  logging : LogSettings
deriving DecidableEq

def ValidationSettings.standard : ValidationSettings := ⟨.normal, false, true⟩

def LogSettings.standard : LogSettings := ⟨"warn", [], none, .plain⟩

def Settings.standard : Settings := ⟨.standard, .standard⟩

def ValidationSettings.options (settings : ValidationSettings) : Options :=
  ⟨settings.mode, settings.elementOrder⟩

def LogSettings.directives (settings : LogSettings) : String :=
  settings.level ++
    String.join (settings.modules.map fun (module, level) => "," ++ module ++ "=" ++ level)

def levelNames : List String := ["trace", "debug", "info", "warn", "error", "off"]

/-- The case of ASCII letters does not count. -/
def isLevelName (level : String) : Bool := levelNames.contains level.toLower

inductive SettingsError
  | emptyLevel
  | unknownLevel (level : String)
  | emptyModule
  | unknownModuleLevel (module level : String)
  | noFileName (path : String)
deriving DecidableEq

def SettingsError.message : SettingsError → String
  | .emptyLevel => "logging.level must not be empty"
  | .unknownLevel level =>
      "logging.level: unknown level " ++ Text.quoted level ++ ", expected one of " ++
        String.intercalate ", " levelNames
  | .emptyModule => "logging.modules: module name must not be empty"
  | .unknownModuleLevel module level =>
      "logging.modules." ++ Text.quoted module ++ ": unknown level " ++ Text.quoted level
  | .noFileName path => "logging.file " ++ Text.quoted path ++ " has no file name"

def levelErrors (level : String) : List SettingsError :=
  if Text.isBlank level then [.emptyLevel]
  else if isLevelName level then []
  else [.unknownLevel level]

def moduleErrors (entry : String × String) : List SettingsError :=
  if Text.isBlank entry.1 then [.emptyModule]
  else if isLevelName entry.2 then []
  else [.unknownModuleLevel entry.1 entry.2]

def fileErrors (file : Option String) : List SettingsError :=
  match file with
  | none => []
  | some path => if (Text.fileName? path).isSome then [] else [.noFileName path]

def LogSettings.errors (settings : LogSettings) : List SettingsError :=
  levelErrors settings.level ++ settings.modules.flatMap moduleErrors ++ fileErrors settings.file

end FrancaAudit
