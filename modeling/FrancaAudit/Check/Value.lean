import FrancaAudit.Check.Fitting
import FrancaAudit.Check.Reporting
import FrancaAudit.Model.Site

/-!
Rules on values outside of transitions: intervals are not empty, constants and state variables get
values of their types, enumerators get integers.
-/

namespace FrancaAudit.Check

variable (model : Model)

def typeError (node : Node) (feature : Feature) (message : String) : Diagnostic :=
  .error .typeMismatch node feature message

def reversedBounds? : TypeRefKind → Option (Int64 × Int64)
  | .interval (some lower) (some upper) =>
      if upper.toInt < lower.toInt then some (lower, upper) else none
  | _ => none

def intervalError (site : TypeSite) (lower upper : Int64) : Diagnostic :=
  (typeError site.node .interval
    ("Invalid interval specification: lower bound " ++ toString lower.toInt ++
      " exceeds upper bound " ++ toString upper.toInt)).withSpan (model.spanOfTypeSite site)

def checkInterval (site : TypeSite) : Reporting Unit :=
  match reversedBounds? site.ref.kind with
  | none => pure ()
  | some (lower, upper) => report (intervalError model site lower upper)

def siteError (site : ExprSite) (message : String) : Diagnostic :=
  { typeError site.node site.feature message with index := site.index }

def misfitMessage (type : DeclaredType) (reason : Misfit) : String :=
  "Invalid value for type " ++ model.declaredTypeLabel type ++ ": " ++ reason.message model

/-- A value is held against its type only if its operators have no problems. -/
def checkValue (site : ExprSite) : Reporting Unit :=
  match site.expected with
  | none => pure ()
  | some type =>
      match problems model site.expr with
      | [] =>
          match fits model site.expr type with
          | .ok () => pure ()
          | .error reason => report (siteError site (misfitMessage model type reason))
      | found => found.forM fun problem => report (siteError site (problem.message model))

/-- An enumerator value fits 32 bits, signed or unsigned. -/
def enumeratorRange : Range := ⟨some (signedRange 32).1, some (unsignedRange 32).2⟩

def checkEnumeratorValue (site : ExprSite) : Reporting Unit :=
  match foldInt model site.expr with
  | some value =>
      reportWhen (!enumeratorRange.contains value)
        (siteError site
          ("Enumerator value " ++ toString value ++ " is out of range for an enumeration"))
  | none =>
      reportWhen (infer model site.expr ≠ some .integer)
        (siteError site "Enumerator value must be an integer constant")

/-- Guards and assigned values are left to the rules on contracts. -/
def checkExprSite (site : ExprSite) : Reporting Unit :=
  match site.role with
  | .constantValue | .initialValue => checkValue model site
  | .enumeratorValue => checkEnumeratorValue model site
  | .guard | .assignedValue => pure ()

def checkTypes : Reporting Unit := do
  model.typeSites.forM (checkInterval model)
  model.exprSites.forM (checkExprSite model)

def typeFindingsOf : List Diagnostic := (checkTypes model).findings

end FrancaAudit.Check
