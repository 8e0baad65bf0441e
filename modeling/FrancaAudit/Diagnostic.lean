import FrancaAudit.Model.Node

/-!
Findings about a model: how grave each is, what kind of rule it comes from, and where it points.
-/

namespace FrancaAudit

inductive Severity
  | warning
  | error
deriving DecidableEq

def Severity.label : Severity → String
  | .warning => "warning"
  | .error => "error"

/-- The kind of rule that a finding comes from. `external` stands for rules from outside. -/
inductive DiagnosticKind
  | structuralViolation
  | typeMismatch
  | inheritanceConflict
  | visibilityViolation
  | cyclicDependency
  | contractViolation
  | unknownTag
  | external
deriving DecidableEq

def DiagnosticKind.code : DiagnosticKind → String
  | .structuralViolation => "structural-violation"
  | .typeMismatch => "type-mismatch"
  | .inheritanceConflict => "inheritance-conflict"
  | .visibilityViolation => "visibility-violation"
  | .cyclicDependency => "cyclic-dependency"
  | .contractViolation => "contract-violation"
  | .unknownTag => "invalid-annotation"
  | .external => "external"

/-- A finding at a feature of an element. The index tells apart the values of a feature that has
several. -/
structure Diagnostic where
  severity : Severity
  kind : DiagnosticKind
  node : Node
  feature : Feature
  index : Option Nat
  span : Span
  message : String
deriving DecidableEq

namespace Diagnostic

def error (kind : DiagnosticKind) (node : Node) (feature : Feature) (message : String) :
    Diagnostic :=
  ⟨.error, kind, node, feature, none, .unknown, message⟩

def warning (kind : DiagnosticKind) (node : Node) (feature : Feature) (message : String) :
    Diagnostic :=
  ⟨.warning, kind, node, feature, none, .unknown, message⟩

def atIndex (diagnostic : Diagnostic) (index : Nat) : Diagnostic :=
  { diagnostic with index := some index }

def withSpan (diagnostic : Diagnostic) (span : Span) : Diagnostic :=
  { diagnostic with span }

def isError (diagnostic : Diagnostic) : Bool := diagnostic.severity = .error

def text (diagnostic : Diagnostic) : String :=
  diagnostic.severity.label ++ "[" ++ diagnostic.kind.code ++ "]: " ++ diagnostic.message

end Diagnostic

def errorCount (diagnostics : List Diagnostic) : Nat := diagnostics.countP Diagnostic.isError

def warningCount (diagnostics : List Diagnostic) : Nat :=
  diagnostics.length - errorCount diagnostics

def hasErrors (diagnostics : List Diagnostic) : Bool := diagnostics.any Diagnostic.isError

end FrancaAudit
