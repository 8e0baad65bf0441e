import FrancaAudit.Check.Pass
import FrancaAudit.Snapshot.Writing

/-!
What a reader is shown of the findings of a pass.
-/

namespace FrancaAudit.Report

def escape : String := "\x1b["

def reset : String := escape ++ "0m"

def severityColor : Severity → String
  | .error => escape ++ "1;31m"
  | .warning => escape ++ "1;38;5;208m"

def plainLine (model : Model) (diagnostic : Diagnostic) : String :=
  diagnostic.text ++ " (at " ++ model.describe diagnostic.node ++ ")"

def coloredLine (model : Model) (diagnostic : Diagnostic) : String :=
  severityColor diagnostic.severity ++ diagnostic.severity.label ++ reset ++ "[" ++
    diagnostic.kind.code ++ "]: " ++ diagnostic.message ++ " " ++ escape ++ "2m(at " ++
    model.describe diagnostic.node ++ ")" ++ reset

def line (model : Model) (colored : Bool) (diagnostic : Diagnostic) : String :=
  if colored then coloredLine model diagnostic else plainLine model diagnostic

def summary (diagnostics : List Diagnostic) : String :=
  if diagnostics.isEmpty then "No issues found."
  else toString (errorCount diagnostics) ++ " error(s), " ++
    toString (warningCount diagnostics) ++ " warning(s)"

/-- Warnings fail a run only if they are denied. -/
def failed (denyWarnings : Bool) (diagnostics : List Diagnostic) : Bool :=
  hasErrors diagnostics || (denyWarnings && 0 < warningCount diagnostics)

def diagnosticJson (diagnostic : Diagnostic) : Json :=
  .record [("severity", .ofString diagnostic.severity.label),
    ("kind", .ofString diagnostic.kind.code),
    ("node", Written.node diagnostic.node),
    ("feature", .ofString (Written.featureName diagnostic.feature)),
    ("index", .ofOption .ofNat diagnostic.index),
    ("span", Written.span diagnostic.span),
    ("message", .ofString diagnostic.message)]

end FrancaAudit.Report
