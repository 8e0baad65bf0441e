import FrancaAudit.Check.Pass

/-!
What a user asks for on the command line.

The words are taken in one after the other, so that the first one that asks for help or makes no
sense decides. An option may stand before or behind the name of the command, and only once in each
place; behind the name it counts more.
-/

namespace FrancaAudit.CommandLine

inductive Command
  | check (model : String) (mode : Option Mode) (denyWarnings json : Bool)
  | order (model : String)
deriving DecidableEq

structure Request where
  config : Option String
  command : Command
deriving DecidableEq

inductive Topic
  | program
  | check
  | order
  | help
deriving DecidableEq

inductive Refusal
  | help (topic : Topic)
  | usage
deriving DecidableEq

inductive Switch
  | config
  | mode
  | denyWarnings
  | json
  | help
deriving DecidableEq

def Switch.takesValue : Switch → Bool
  | .config | .mode => true
  | .denyWarnings | .json | .help => false

/-- The switches that a command has besides those of the program. -/
def ownSwitches : Topic → List (String × Switch)
  | .check => [("mode", .mode), ("deny-warnings", .denyWarnings), ("json", .json)]
  | .program | .order | .help => []

def longSwitch? (topic : Topic) (name : String) : Option Switch :=
  (("config", .config) :: ("help", .help) :: ownSwitches topic).lookup name

def shortSwitch? (letter : Char) : Option Switch :=
  if letter = 'c' then some .config else if letter = 'h' then some .help else none

/-- What has been taken in so far. A value that is a word of its own waits until more of the same
command is taken in; only then is it looked at. -/
structure Taken where
  values : List (Switch × String)
  waiting : Option (Switch × String)
  model : Option String
deriving DecidableEq

namespace Taken

def nothing : Taken := ⟨[], none, none⟩

/-- A switch is given at most once; a path is not empty and a mode has a known name. -/
def accept (taken : Taken) (switch : Switch) (value : String) : Except Refusal Taken :=
  let sensible := match switch with
    | .config => value ≠ ""
    | .mode => (Mode.ofName? value).isSome
    | .denyWarnings | .json | .help => true
  if (taken.values.lookup switch).isNone && sensible then
    .ok { taken with values := taken.values ++ [(switch, value)] }
  else .error .usage

def settle (taken : Taken) : Except Refusal Taken :=
  match taken.waiting with
  | none => .ok taken
  | some (switch, value) => accept { taken with waiting := none } switch value

def give (taken : Taken) (switch : Switch) (value : String) : Except Refusal Taken := do
  (← taken.settle).accept switch value

def giveLater (taken : Taken) (switch : Switch) (value : String) : Except Refusal Taken := do
  return { ← taken.settle with waiting := some (switch, value) }

def giveModel (taken : Taken) (path : String) : Except Refusal Taken := do
  let taken ← taken.settle
  if taken.model.isNone && path ≠ "" then return { taken with model := some path }
  else throw .usage

def has (taken : Taken) (switch : Switch) : Bool := (taken.values.lookup switch).isSome

end Taken

inductive Word
  /-- Ends the switches. -/
  | separator
  | long (name : String) (value : Option String)
  | short (letters : List Char)
  | plain (text : String)

def Word.ofText (text : String) : Word :=
  match text.toList with
  | ['-', '-'] => .separator
  | '-' :: '-' :: rest =>
      let (name, value) := rest.span (· ≠ '=')
      .long (String.ofList name) (if value.isEmpty then none else some (String.ofList value.tail))
  | '-' :: letter :: rest => .short (letter :: rest)
  | _ => .plain text

def takeValue : List String → Except Refusal (String × List String)
  | [] => .error .usage
  | word :: rest =>
      match Word.ofText word with
      | .plain text => .ok (text, rest)
      | _ => .error .usage

/-- Takes a switch in with its value, which is attached to it or the next word. -/
def takeSwitch (topic : Topic) (taken : Taken) (switch : Switch) (attached : Option String)
    (rest : List String) : Except Refusal (Taken × List String) := do
  if switch.takesValue then
    match attached with
    | some value => return (← taken.give switch value, rest)
    | none =>
        let (value, rest) ← takeValue rest
        return (← taken.giveLater switch value, rest)
  else if attached.isSome then throw .usage
  else if switch = .help then
    let _ ← taken.settle
    throw (.help topic)
  else return (← taken.give switch "", rest)

/-- Takes in letters behind one dash. The letters behind one that takes a value are its value; an
equals sign in front of that does not belong to it. -/
def takeLetters (topic : Topic) (taken : Taken) : List Char → List String →
    Except Refusal (Taken × List String)
  | [], rest => .ok (taken, rest)
  | letter :: letters, rest =>
      match shortSwitch? letter with
      | none => .error .usage
      | some switch =>
          if switch.takesValue then
            match letters with
            | [] => takeSwitch topic taken switch none rest
            | '=' :: value => takeSwitch topic taken switch (some (String.ofList value)) rest
            | value => takeSwitch topic taken switch (some (String.ofList value)) rest
          else do
            let (taken, rest) ← takeSwitch topic taken switch none rest
            takeLetters topic taken letters rest

def takeCommand (topic : Topic) : Nat → Taken → List String → Except Refusal Taken
  | _, taken, [] => .ok taken
  | 0, _, _ :: _ => .error .usage
  | steps + 1, taken, word :: rest =>
      match Word.ofText word with
      | .separator => rest.foldlM Taken.giveModel taken
      | .plain text => do takeCommand topic steps (← taken.giveModel text) rest
      | .short letters => do
          let (taken, rest) ← takeLetters topic taken letters rest
          takeCommand topic steps taken rest
      | .long name value =>
          match longSwitch? topic name with
          | none => .error .usage
          | some switch => do
              let (taken, rest) ← takeSwitch topic taken switch value rest
              takeCommand topic steps taken rest

def request (outer : Taken) (topic : Topic) (words : List String) : Except Refusal Request := do
  let taken ← takeCommand topic words.length .nothing words
  let taken ← taken.settle
  let outer ← outer.settle
  let config := (taken.values.lookup .config).or (outer.values.lookup .config)
  match taken.model with
  | none => throw .usage
  | some model =>
      if topic = .check then
        return ⟨config, .check model ((taken.values.lookup .mode).bind Mode.ofName?)
          (taken.has .denyWarnings) (taken.has .json)⟩
      else return ⟨config, .order model⟩

def topic? (word : String) : Option Topic :=
  [("check", .check), ("order", .order), ("help", .help)].lookup word

def helpTopic (words : List String) : Refusal :=
  match words with
  | [] => .help .program
  | [word] =>
      match topic? word with
      | some topic => .help topic
      | none => .usage
  | _ => .usage

def takeProgram : Nat → Taken → List String → Except Refusal Request
  | _, _, [] => .error .usage
  | 0, _, _ :: _ => .error .usage
  | steps + 1, taken, word :: rest =>
      match Word.ofText word with
      | .separator => .error .usage
      | .plain text =>
          match topic? text with
          | some .help => .error (helpTopic rest)
          | some topic => request taken topic rest
          | none => .error .usage
      | .short letters => do
          let (taken, rest) ← takeLetters .program taken letters rest
          takeProgram steps taken rest
      | .long name value =>
          match longSwitch? .program name with
          | none => .error .usage
          | some switch => do
              let (taken, rest) ← takeSwitch .program taken switch value rest
              takeProgram steps taken rest

def Request.ofWords (words : List String) : Except Refusal Request :=
  takeProgram words.length .nothing words

def programHelp : String :=
  "Semantic validation for linked Franca IDL models\n\n" ++
  "Usage: franca-check [OPTIONS] <COMMAND>\n\n" ++
  "Commands:\n" ++
  "  check  Validate a linked model snapshot and print its diagnostics\n" ++
  "  order  Print the types of a model in dependency order\n" ++
  "  help   Print this message or the help of the given subcommand(s)\n\n" ++
  "Options:\n" ++
  "  -c, --config <CONFIG>  Path to franca-check.toml config file\n" ++
  "  -h, --help             Print help\n"

def checkHelp : String :=
  "Validate a linked model snapshot and print its diagnostics\n\n" ++
  "Usage: franca-check check [OPTIONS] <MODEL>\n\n" ++
  "Arguments:\n" ++
  "  <MODEL>  Model snapshot (JSON)\n\n" ++
  "Options:\n" ++
  "  -c, --config <CONFIG>  Path to franca-check.toml config file\n" ++
  "      --mode <MODE>      Override validation.mode (fast, normal, expensive)\n" ++
  "      --deny-warnings    Exit with failure on warnings as well as errors\n" ++
  "      --json             Print diagnostics as JSON on stdout\n" ++
  "  -h, --help             Print help\n"

def orderHelp : String :=
  "Print the types of a model in dependency order\n\n" ++
  "Usage: franca-check order [OPTIONS] <MODEL>\n\n" ++
  "Arguments:\n" ++
  "  <MODEL>  Model snapshot (JSON)\n\n" ++
  "Options:\n" ++
  "  -c, --config <CONFIG>  Path to franca-check.toml config file\n" ++
  "  -h, --help             Print help\n"

def helpHelp : String :=
  "Print this message or the help of the given subcommand(s)\n\n" ++
  "Usage: franca-check help [COMMAND]...\n\n" ++
  "Arguments:\n" ++
  "  [COMMAND]...  Print help for the subcommand(s)\n"

def Topic.text : Topic → String
  | .program => programHelp
  | .check => checkHelp
  | .order => orderHelp
  | .help => helpHelp

end FrancaAudit.CommandLine
