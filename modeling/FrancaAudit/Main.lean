import FrancaAudit.CommandLine.Run
import Std.Time.DateTime

/-!
The program on the files and the clock of the system.
-/

namespace FrancaAudit.Main

open CommandLine

/-- The system may give the number of a reason as a negative one of 32 bits. -/
def fileProblemOf (code : UInt32) (details : String) : FileProblem :=
  let number :=
    if wordCount 31 ≤ code.toNat then wordCount 32 - code.toNat else code.toNat
  (FileProblem.known.find? fun problem => problem.code = some number).getD ⟨details, some number⟩

def fileProblem : IO.Error → FileProblem
  | .noFileOrDirectory _ code details | .interrupted _ code details
  | .alreadyExists _ code details | .invalidArgument _ code details
  | .permissionDenied _ code details | .resourceExhausted _ code details
  | .inappropriateType _ code details | .noSuchThing _ code details
  | .otherError code details | .resourceBusy code details | .resourceVanished code details
  | .unsupportedOperation code details | .hardwareFault code details
  | .unsatisfiedConstraints code details | .illegalOperation code details
  | .protocolError code details | .timeExpired code details => fileProblemOf code details
  | error => ⟨toString error, none⟩

def readText (path : String) : IO (Except FileProblem String) := do
  try
    let bytes ← IO.FS.readBinFile path
    match String.fromUTF8? bytes with
    | some text => return .ok text
    | none => return .error .notText
  catch error => return .error (fileProblem error)

def openLog (path : String) : IO (Option FileProblem) := do
  try
    let folder := Text.parentPath path
    unless folder.isEmpty do IO.FS.createDirAll folder
    IO.FS.withFile path .append fun _ => pure ()
    return none
  catch error => return some (fileProblem error)

def padded (width value : Nat) : String :=
  let digits := toString value
  String.ofList (List.replicate (width - digits.length) '0') ++ digits

def timeText : IO String := do
  let now := Std.Time.DateTime.ofTimestampWithZone (← Std.Time.Timestamp.now) .UTC
  return padded 4 now.year.toInt.toNat ++ "-" ++ padded 2 now.month.toNat ++ "-" ++
    padded 2 now.day.toNat ++ "T" ++ padded 2 now.hour.toNat ++ ":" ++
    padded 2 now.minute.toNat ++ ":" ++ padded 2 now.second.toNat ++ "." ++
    padded 6 (now.nanosecond.toNat / 1000) ++ "Z"

/-- What the system offers to a request: the files it names are read, and its log file is made. -/
def world (request : Except Refusal Request) : IO World := do
  let logFilter ← IO.getEnv "RUST_LOG"
  let time ← timeText
  match request with
  | .error _ =>
      return ⟨logFilter, time, fun _ => .error .missing, fun _ => none⟩
  | .ok request =>
      let texts ← request.paths.mapM fun path => return (path, ← readText path)
      let read (path : String) : Except FileProblem String :=
        (texts.lookup path).getD (.error .missing)
      let quiet : World := ⟨logFilter, time, read, fun _ => none⟩
      match request.logPath? quiet with
      | none => return quiet
      | some path =>
          let problem ← openLog path
          return { quiet with logProblem? := fun _ => problem }

end FrancaAudit.Main

open FrancaAudit.CommandLine (Request run)

def main (words : List String) : IO UInt32 := do
  let outcome := run (← FrancaAudit.Main.world (Request.ofWords words)) words
  if let some (path, text) := outcome.log then
    IO.FS.withFile path .append fun file => file.putStr text
  IO.eprint outcome.stderr
  IO.print outcome.stdout
  return outcome.exitCode.toUInt32
