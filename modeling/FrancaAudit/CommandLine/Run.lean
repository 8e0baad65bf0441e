import FrancaAudit.CommandLine.Arguments
import FrancaAudit.Log.Event
import FrancaAudit.Report
import FrancaAudit.Settings.Reading
import FrancaAudit.Snapshot.Reading

/-!
A run of the program: what it prints, what it logs, and how it ends, given what it can read.
-/

namespace FrancaAudit.CommandLine

/-- Why a file cannot be read or made, with the number that the system gives to the reason, if the
system is what stands in the way. -/
structure FileProblem where
  text : String
  code : Option Nat
deriving DecidableEq

namespace FileProblem

def message (problem : FileProblem) : String :=
  match problem.code with
  | none => problem.text
  | some code => problem.text ++ " (os error " ++ toString code ++ ")"

def missing : FileProblem := ⟨"No such file or directory", some 2⟩

def forbidden : FileProblem := ⟨"Permission denied", some 13⟩

def alreadyExists : FileProblem := ⟨"File exists", some 17⟩

def notDirectory : FileProblem := ⟨"Not a directory", some 20⟩

def isDirectory : FileProblem := ⟨"Is a directory", some 21⟩

def nameTooLong : FileProblem := ⟨"File name too long", some 36⟩

def notText : FileProblem := ⟨"stream did not contain valid UTF-8", none⟩

def notName : FileProblem := ⟨"file name contained an unexpected NUL byte", none⟩

def known : List FileProblem :=
  [missing, forbidden, alreadyExists, notDirectory, isDirectory, nameTooLong]

end FileProblem

/-- What a run finds around it: the log filter of the environment, the time, the files it may
read, and what stands in the way of a log file. -/
structure World where
  logFilter : Option String
  time : String
  read : String → Except FileProblem String
  logProblem? : String → Option FileProblem

/-- What a run leaves behind. A log file is given by its path and by what is added to it. -/
structure Outcome where
  exitCode : Nat
  stdout : String
  stderr : String
  log : Option (String × String)
deriving DecidableEq

inductive Failure
  | unreadableSettings (path : String) (problem : FileProblem)
  | malformedSettings
  | invalidSettings (error : SettingsError)
  | badFilter (directives : String) (error : Log.DirectiveError)
  | noLogFile (problem : FileProblem)
  | unreadableModel (path : String) (problem : FileProblem)
  | malformedModel
  | danglingModel (ref : DanglingRef)
  | cycle (found : Check.TypeCycle) (names : List String)
deriving DecidableEq

namespace Failure

def message : Failure → String
  | .unreadableSettings path problem => "failed to read " ++ path ++ ": " ++ problem.message
  | .malformedSettings => "malformed settings"
  | .invalidSettings error => error.message
  | .badFilter directives error =>
      "invalid log filter '" ++ directives ++ "': " ++ error.message
  | .noLogFile problem => problem.message
  | .unreadableModel path problem =>
      "failed to read model snapshot " ++ path ++ ": " ++ problem.message
  | .malformedModel => "malformed model snapshot"
  | .danglingModel ref => ref.message
  | .cycle found names => found.message ++ ": " ++ String.intercalate ", " names

def cause? : Failure → Option String
  | .unreadableModel _ problem => some problem.message
  | _ => none

def report (failure : Failure) : String :=
  "Error: " ++ failure.message ++
    (match failure.cause? with
      | none => ""
      | some cause => "\n\nCaused by:\n    " ++ cause) ++ "\n"

end Failure

def modelLoaded (model : Model) : Log.Event where
  level := .debug
  target := "fr_cli::cmd_check"
  domain := "cli"
  message := "model loaded"
  fields := [("model", .text model.name), ("interfaces", .number model.interfaces.length),
    ("types", .number model.types.length)]

def checkerFinished (name : String) (found : Nat) : Log.Event where
  level := .debug
  target := "fr_lang::checker"
  domain := "check"
  message := "checker finished"
  fields := [("checker", .name name), ("found", .number found)]

def validationComplete (options : Options) (model : Model) (found : List Diagnostic) :
    Log.Event where
  level := .info
  target := "fr_lang::checker"
  domain := "check"
  message := "validation complete"
  fields := [("model", .text model.name), ("mode", .text options.mode.name),
    ("errors", .number (errorCount found)), ("warnings", .number (warningCount found))]

def dependencyCycle (cycle : Check.TypeCycle) : Log.Event where
  level := .warn
  target := "fr_lang::checker::cycles"
  domain := "order"
  message := "type dependency cycle"
  fields := [("types", .number cycle.types.length)]

/-- What a command does: the events on its way, then what it prints, and whether it passed. -/
structure Effect where
  events : List Log.Event
  stdout : String
  stderr : String
  result : Except Failure Bool

def Effect.failure (events : List Log.Event) (failure : Failure) : Effect :=
  ⟨events, "", "", .error failure⟩

def loadModel (world : World) (path : String) : Except Failure Model :=
  match world.read path with
  | .error problem => .error (.unreadableModel path problem)
  | .ok text =>
      match Snapshot.readLinkedText text with
      | .ok model => .ok model
      | .error .malformed => .error .malformedModel
      | .error (.dangling ref) => .error (.danglingModel ref)

def findingsText (model : Model) (found : List Diagnostic) : String :=
  String.join (found.map fun diagnostic => Report.line model false diagnostic ++ "\n") ++
    (if found.isEmpty then "" else "\n") ++ Report.summary found ++ "\n"

def findingsJson (found : List Diagnostic) : String :=
  Json.toIndentedText (.ofList Report.diagnosticJson found) ++ "\n"

def check (world : World) (path : String) (options : Options) (denyWarnings json : Bool) :
    Effect :=
  match loadModel world path with
  | .error failure => .failure [] failure
  | .ok model =>
      let (counts, found) := (Check.runBuiltin options model).run []
      { events := modelLoaded model :: counts.map (fun (name, count) =>
          checkerFinished name count) ++ [validationComplete options model found]
        stdout := if json then findingsJson found else ""
        stderr := if json then "" else findingsText model found
        result := .ok (!Report.failed denyWarnings found) }

def order (world : World) (path : String) : Effect :=
  match loadModel world path with
  | .error failure => .failure [] failure
  | .ok model =>
      match Check.typeOrder model with
      | .error cycle =>
          .failure [dependencyCycle cycle] (.cycle cycle (cycle.types.map model.qualifiedTypeName))
      | .ok types =>
          { events := []
            stdout := String.join (types.map fun id => model.qualifiedTypeName id ++ "\n")
            stderr := ""
            result := .ok true }

/-- Options of the command line count more than settings, and warnings are denied if either
says so. -/
def perform (world : World) (settings : Settings) : Command → Effect
  | .check model mode denyWarnings json =>
      let options := settings.validation.options
      check world model { options with mode := mode.getD options.mode }
        (denyWarnings || settings.validation.denyWarnings) json
  | .order model => order world model

def loadSettings (world : World) : Option String → Except Failure Settings
  | none => .ok .standard
  | some path =>
      match world.read path with
      | .error problem => .error (.unreadableSettings path problem)
      | .ok text =>
          match Settings.ofText text with
          | .ok settings => .ok settings
          | .error .malformed => .error .malformedSettings
          | .error (.invalid error) => .error (.invalidSettings error)

structure LogPlan where
  filter : Log.Filter
  notes : String
  path : Option String

/-- The filter of the environment, which passes over what it cannot read, or else that of the
settings. -/
def logFilter (world : World) (settings : LogSettings) : Except Failure (Log.Filter × String) :=
  match world.logFilter with
  | some text =>
      let (filter, ignored) := Log.Filter.ofTextLenient text
      .ok (filter, String.join (ignored.map fun (part, error) =>
        "ignoring \x60" ++ part ++ "\x60: " ++ error.message ++ "\n"))
  | none =>
      match Log.Filter.ofText settings.directives with
      | .ok filter => .ok (filter, "")
      | .error error => .error (.badFilter settings.directives error)

/-- A path in the settings starts where the settings are. -/
def logPath? (config : Option String) (settings : LogSettings) : Option String :=
  settings.file.map fun file =>
    Text.tidyPath (match config with
      | none => file
      | some path => Text.joinPath (Text.parentPath path) file)

def logPlan (world : World) (config : Option String) (settings : LogSettings) :
    Except Failure LogPlan := do
  let (filter, notes) ← logFilter world settings
  return ⟨filter, notes, logPath? config settings⟩

def logText (format : LogFormat) (colored : Bool) (time : String) (events : List Log.Event) :
    String :=
  String.join (events.map fun event =>
    match format with
    | .plain => Log.plainLine colored time event
    | .json => Log.jsonLine time event)

def Outcome.failed (notes : String) (failure : Failure) : Outcome :=
  ⟨1, "", notes ++ failure.report, none⟩

/-- The standard error stream carries the log in color, and a log file the same events without.
Each of the two has a filter of its own, with its own notes. -/
def Effect.outcome (effect : Effect) (world : World) (format : LogFormat) (plan : LogPlan) :
    Outcome :=
  let events := effect.events.filter plan.filter.admitsEvent
  let notes := if plan.path.isSome then plan.notes ++ plan.notes else plan.notes
  { exitCode := match effect.result with
      | .ok true => 0
      | .ok false | .error _ => 1
    stdout := effect.stdout
    stderr := notes ++ logText format true world.time events ++ effect.stderr ++
      (match effect.result with
        | .ok _ => ""
        | .error failure => failure.report)
    log := plan.path.map fun path => (path, logText format false world.time events) }

def serve (world : World) (request : Request) : Except Failure Outcome := do
  let settings ← loadSettings world request.config
  let plan ← logPlan world request.config settings.logging
  match plan.path.bind world.logProblem? with
  | some problem => return .failed plan.notes (.noLogFile problem)
  | none =>
      return (perform world settings request.command).outcome world settings.logging.format plan

def run (world : World) (words : List String) : Outcome :=
  match Request.ofWords words with
  | .error (.help topic) => ⟨0, topic.text, "", none⟩
  | .error .usage => ⟨2, "", "error: these arguments make no sense; see --help\n", none⟩
  | .ok request =>
      match serve world request with
      | .ok outcome => outcome
      | .error failure => .failed "" failure

def Request.paths (request : Request) : List String :=
  request.config.toList ++
    [match request.command with
      | .check model _ _ _ | .order model => model]

def Request.logPath? (request : Request) (world : World) : Option String :=
  match loadSettings world request.config with
  | .error _ => none
  | .ok settings =>
      match logPlan world request.config settings.logging with
      | .error _ => none
      | .ok plan => plan.path

end FrancaAudit.CommandLine
