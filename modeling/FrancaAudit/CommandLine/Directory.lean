import FrancaAudit.CommandLine.Run

/-!
A directory that is held in memory, to run the program in.

Only what lies in the directory is known. Around it there are folders, in which no name leads to
anything that can be read.
-/

namespace FrancaAudit.CommandLine

/-- The texts of files, each by the steps that lead to it. -/
structure Directory where
  files : List (List String × String)

namespace Directory

inductive Entry
  | file (text : String)
  | folder
deriving DecidableEq

def ofFiles (files : List (String × String)) : Directory :=
  ⟨files.map fun (path, text) => (Text.pathSteps path, text)⟩

inductive Place
  | inside (steps : List String)
  | outside
deriving DecidableEq

def Place.start (path : String) : Place :=
  if Text.isAbsolute path then .outside else .inside []

def staysInPlace (step : String) : Bool := step = "" || step = "."

/-- Where a step leads. What lies outside is not told apart. -/
def Place.enter (place : Place) (step : String) : Place :=
  match place with
  | .outside => .outside
  | .inside steps =>
      if staysInPlace step then place
      else if step = ".." then if steps.isEmpty then .outside else .inside steps.dropLast
      else .inside (steps ++ [step])

def entry? (directory : Directory) : Place → Option Entry
  | .outside => some .folder
  | .inside steps =>
      match directory.files.lookup steps with
      | some text => some (.file text)
      | none =>
          if steps.isEmpty || directory.files.any fun (file, _) => steps.isPrefixOf file then
            some .folder
          else none

def stepLimit : Nat := 255

def pathLimit : Nat := 4095

/-- What is wrong with the text of a path, whatever is there. -/
def textProblem? (path : String) : Option FileProblem :=
  if path.toList.contains '\x00' then some .notName
  else if pathLimit < path.utf8ByteSize then some .nameTooLong
  else none

/-- What steps lead to. A step needs a folder to start from, also one that stays where it is. -/
def follow (directory : Directory) : Place → List String → Except FileProblem Entry
  | place, [] =>
      match directory.entry? place with
      | none => .error .missing
      | some entry => .ok entry
  | place, step :: rest =>
      match directory.entry? place with
      | none => .error .missing
      | some (.file _) => .error .notDirectory
      | some .folder =>
          if stepLimit < step.utf8ByteSize then .error .nameTooLong
          else if place = .outside && !staysInPlace step && step ≠ ".." then .error .missing
          else directory.follow (place.enter step) rest

/-- An empty path leads to nothing. -/
def read (directory : Directory) (path : String) : Except FileProblem String :=
  match textProblem? path with
  | some problem => .error problem
  | none =>
      if path.isEmpty then .error .missing
      else match directory.follow (.start path) (path.splitOn "/") with
        | .error problem => .error problem
        | .ok .folder => .error .isDirectory
        | .ok (.file text) => .ok text

/-- Where steps lead if every folder on the way is made that is not there. -/
def makeWay (directory : Directory) : Place → List String → Except FileProblem Place
  | place, [] => .ok place
  | place, step :: rest =>
      if stepLimit < step.utf8ByteSize then .error .nameTooLong
      else
        let place := place.enter step
        match directory.entry? place with
        | some (.file _) => .error (if rest.isEmpty then .alreadyExists else .notDirectory)
        | some .folder | none => directory.makeWay place rest

def openPlace (directory : Directory) (path : String) : Except FileProblem Place := do
  let folder := Text.parentPath path
  if let some problem := textProblem? folder then throw problem
  let place ← directory.makeWay (.start path) (Text.pathSteps folder)
  let some name := Text.fileName? path | throw .isDirectory
  let place := place.enter name
  if place ≠ .outside && directory.entry? place = some .folder then throw .isDirectory
  return place

def world (directory : Directory) (logFilter : Option String) (time : String) : World where
  logFilter
  time
  read := directory.read
  logProblem? path :=
    match directory.openPlace path with
    | .error problem => some problem
    | .ok _ => none

def newFile? (directory : Directory) (outcome : Outcome) : Option (String × String) := do
  let (path, text) ← outcome.log
  let .ok (.inside steps) := directory.openPlace path | none
  guard (directory.files.lookup steps).isNone
  return (String.intercalate "/" steps, text)

end Directory

end FrancaAudit.CommandLine
