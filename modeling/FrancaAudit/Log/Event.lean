import FrancaAudit.Json.Writer
import FrancaAudit.Log.Filter
import FrancaAudit.Text.Quoted

/-!
Events of a run and how they are written to a log.
-/

namespace FrancaAudit.Log

/-- The value of a field. A name is written between quotes, a text as it is. -/
inductive Value
  | name (text : String)
  | text (text : String)
  | number (value : Nat)
deriving DecidableEq

/-- Something that happened, by the part of the program where it did. The domain is what the
reader of a log knows that part by. -/
structure Event where
  level : Level
  target : String
  domain : String
  message : String
  fields : List (String × Value)
deriving DecidableEq

def Event.fieldNames (event : Event) : List String :=
  "message" :: "domain" :: event.fields.map (·.1)

def Filter.admitsEvent (filter : Filter) (event : Event) : Bool :=
  filter.admits event.level event.target event.fieldNames

def Value.plain : Value → String
  | .name value => Text.quoted value
  | .text value => value
  | .number value => toString value

def Value.json : Value → Json
  | .name value | .text value => .ofString value
  | .number value => .ofNat value

def Level.aligned (level : Level) : String :=
  String.ofList (List.replicate (5 - level.name.length) ' ') ++ level.name

def plainLine (colored : Bool) (time : String) (event : Event) : String :=
  let domain := "[" ++ event.domain ++ "]"
  let shown := if colored then "\x1b[1;36m" ++ domain ++ "\x1b[0m" else domain
  time ++ " " ++ event.level.aligned ++ " " ++ shown ++ " " ++ event.message ++
    String.join (event.fields.map fun (name, value) => " " ++ name ++ "=" ++ value.plain) ++ "\n"

def jsonLine (time : String) (event : Event) : String :=
  Json.toCompactText (.record [("timestamp", .ofString time),
    ("level", .ofString event.level.name),
    ("fields", .record (("message", .ofString event.message) ::
      ("domain", .ofString event.domain) ::
      event.fields.map fun (name, value) => (name, value.json)))]) ++ "\n"

end FrancaAudit.Log
