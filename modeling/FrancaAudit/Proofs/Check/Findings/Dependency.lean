import FrancaAudit.Check.Dependency
import FrancaAudit.Proofs.Check.Reporting

/-!
What the rules on cycles add to the sink.
-/

namespace FrancaAudit.Check

theorem appends_checkDependencies (model : Model) :
    Appends (checkDependencies model)
      ((cyclicTypes model).map (typeCycleError model) ++
        (cyclicInterfaces model).map (interfaceCycleError model)) :=
  (appends_reports (cyclicTypes model) _).andThen (appends_reports (cyclicInterfaces model) _)

end FrancaAudit.Check
