import FrancaAudit.Settings.Basic
import FrancaAudit.Toml.Reader

/-!
Reading settings from a TOML document.

Every setting has a standard value. A section is a table, or an array of its values in the order
of declaration; of the tables, only the root refuses keys that it does not know. What is passed
over in a table still has to make sense, and what is left over in an array does not.
-/

namespace FrancaAudit.Settings

open Toml (Entries)

/-- What counts as a table: a date or a time is one that holds its text under a name of its own. -/
def fields? : Toml → Option Entries
  | .dateTime text => some [("$__toml_private_datetime", .string text)]
  | value => value.entries?

/-- The given fields of a section. Fields that it does not have are passed over if they have
values, and what an array has beyond its fields is not looked at. -/
def sectionFields? (names : List String) (value : Toml) : Option Entries :=
  match fields? value with
  | some entries => do
      guard (entries.all fun (name, value) => names.contains name || value.hasValue)
      return entries
  | none => value.elements?.map names.zip

def field {α : Type} (entries : Entries) (name : String) (read : Toml → Option α) (absent : α) :
    Option α :=
  match entries.lookup name with
  | none => some absent
  | some value => read value

def text? : Toml → Option String
  | .string text => some text
  | _ => none

def flag? : Toml → Option Bool
  | .boolean value => some value
  | _ => none

def isEmpty (value : Toml) : Bool :=
  (value.entries?.any (·.isEmpty)) || (value.elements?.any (·.isEmpty))

def alternative? (value : Toml) : Option String :=
  match value, value.entries? with
  | .string name, _ => some name
  | _, some [(name, carried)] => if isEmpty carried then some name else none
  | _, _ => none

def mode? (value : Toml) : Option Mode := (alternative? value).bind Mode.ofName?

def format? (value : Toml) : Option LogFormat := do
  let name ← alternative? value
  [LogFormat.plain, .json].find? fun format => format.name = name

def validation? (value : Toml) : Option ValidationSettings := do
  let entries ← sectionFields? ["mode", "deny_warnings", "element_order"] value
  let standard := ValidationSettings.standard
  return {
    mode := ← field entries "mode" mode? standard.mode
    denyWarnings := ← field entries "deny_warnings" flag? standard.denyWarnings
    elementOrder := ← field entries "element_order" flag? standard.elementOrder }

/-- A table from names to texts, in the order of the names. -/
def modules? (value : Toml) : Option (List (String × String)) := do
  let levels ← (← fields? value).mapM fun (name, level) =>
    (text? level).map fun level => (name, level)
  return levels.mergeSort fun first second => decide (first.1 ≤ second.1)

def logging? (value : Toml) : Option LogSettings := do
  let entries ← sectionFields? ["level", "modules", "file", "format"] value
  let standard := LogSettings.standard
  return {
    level := ← field entries "level" text? standard.level
    modules := ← field entries "modules" modules? standard.modules
    file := ← field entries "file" (fun value => (text? value).map some) standard.file
    format := ← field entries "format" format? standard.format }

def ofEntries? (entries : Entries) : Option Settings := do
  guard (entries.all fun (name, _) => ["validation", "logging"].contains name)
  return {
    validation := ← field entries "validation" validation? .standard
    logging := ← field entries "logging" logging? .standard }

inductive ReadError
  | malformed
  | invalid (error : SettingsError)
deriving DecidableEq

def ofText (text : String) : Except ReadError Settings :=
  match (Toml.parse text).bind ofEntries? with
  | none => .error .malformed
  | some settings =>
      match settings.logging.errors with
      | [] => .ok settings
      | error :: _ => .error (.invalid error)

end FrancaAudit.Settings
