import FrancaAudit.Check.Value
import FrancaAudit.Proofs.Check.Reporting

/-!
What the rules on types and values add to the sink, site by site.
-/

namespace FrancaAudit.Check

variable (model : Model)

def intervalFindings (site : TypeSite) : List Diagnostic :=
  match reversedBounds? site.ref.kind with
  | none => []
  | some (lower, upper) => [intervalError model site lower upper]

theorem appends_checkInterval (site : TypeSite) :
    Appends (checkInterval model site) (intervalFindings model site) := by
  unfold checkInterval intervalFindings
  cases reversedBounds? site.ref.kind with
  | none => exact appends_nothing
  | some bounds => exact appends_report _

def valueMessages (expr : Expr) (type : DeclaredType) : List String :=
  match problems model expr with
  | [] =>
      match fits model expr type with
      | .ok () => []
      | .error reason => [misfitMessage model type reason]
  | found => found.map (·.message model)

def enumeratorMessages (expr : Expr) : List String :=
  match foldInt model expr with
  | some value =>
      if enumeratorRange.contains value then []
      else ["Enumerator value " ++ toString value ++ " is out of range for an enumeration"]
  | none =>
      if infer model expr = some .integer then []
      else ["Enumerator value must be an integer constant"]

def valueFindings (site : ExprSite) : List Diagnostic :=
  let messages := match site.role with
    | .constantValue | .initialValue =>
        match site.expected with
        | none => []
        | some type => valueMessages model site.expr type
    | .enumeratorValue => enumeratorMessages model site.expr
    | .guard | .assignedValue => []
  messages.map (siteError site)

theorem appends_checkValue (site : ExprSite) :
    Appends (checkValue model site)
      ((match site.expected with
        | none => []
        | some type => valueMessages model site.expr type).map (siteError site)) := by
  unfold checkValue
  cases site.expected with
  | none => exact appends_nothing
  | some type =>
      dsimp only [valueMessages]
      cases problems model site.expr with
      | nil =>
          cases fits model site.expr type with
          | ok => exact appends_nothing
          | error reason => exact appends_report _
      | cons problem rest => exact appends_messages (problem :: rest) _ (siteError site)

theorem appends_checkEnumeratorValue (site : ExprSite) :
    Appends (checkEnumeratorValue model site)
      ((enumeratorMessages model site.expr).map (siteError site)) := by
  unfold checkEnumeratorValue enumeratorMessages
  cases foldInt model site.expr with
  | some value =>
      dsimp only
      rw [apply_ite (List.map (siteError site))]
      exact appends_reportUnless _ _
  | none =>
      dsimp only
      rw [apply_ite (List.map (siteError site)), decide_not]
      simpa using appends_reportUnless (infer model site.expr = some .integer) _

theorem appends_checkExprSite (site : ExprSite) :
    Appends (checkExprSite model site) (valueFindings model site) := by
  unfold checkExprSite valueFindings
  cases site.role with
  | constantValue | initialValue => exact appends_checkValue model site
  | enumeratorValue => exact appends_checkEnumeratorValue model site
  | guard | assignedValue => exact appends_nothing

theorem appends_checkTypes :
    Appends (checkTypes model)
      (model.typeSites.flatMap (intervalFindings model) ++
        model.exprSites.flatMap (valueFindings model)) :=
  (appends_forM _ _ _ (appends_checkInterval model)).andThen
    (appends_forM _ _ _ (appends_checkExprSite model))

end FrancaAudit.Check
