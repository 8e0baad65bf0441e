import FrancaAudit.Proofs.Check.Location
import FrancaAudit.Report

/-!
What the advice on the order of elements changes.

The advice stands among the findings of each interface and is the only source of warnings. To leave
it out is thus the same as to keep the errors, rule by rule and hence for a whole pass.
-/

namespace FrancaAudit.Check

variable (model : Model)

theorem filter_errors (holds : Node → Prop) (findings : List Diagnostic)
    (errors : ErrorsAt holds findings) : findings.filter Diagnostic.isError = findings :=
  List.filter_eq_self.mpr fun finding reported => decide_eq_true (errors finding reported).1

theorem filter_elementOrderFindings (id : InterfaceId) (interface : Interface) :
    (elementOrderFindings model id interface).filter Diagnostic.isError = [] :=
  List.filter_eq_nil_iff.mpr fun finding advice => by
    simp [Diagnostic.isError, (elementOrderFindings_warn model id interface finding advice).1]

theorem filter_shapeFindings :
    (shapeFindings model true).filter Diagnostic.isError = shapeFindings model false := by
  rw [← filter_errors _ _ (errorsAt_shapeFindings model)]
  simp only [shapeFindings, (appends_checkShape model _).findings_eq, List.filter_append,
    List.filter_flatMap, if_true, filter_elementOrderFindings, Bool.false_eq_true, if_false,
    List.filter_nil]

theorem filter_builtinFindings (mode : Mode) :
    (builtinFindings ⟨mode, true⟩ model).filter Diagnostic.isError =
      builtinFindings ⟨mode, false⟩ model := by
  rw [← filter_errors _ _ (errorsAt_builtinFindings model mode)]
  simp only [builtinFindings, groups, List.flatMap_cons, List.flatMap_nil, List.filter_append,
    List.filter_nil, filter_shapeFindings,
    filter_errors _ _ (errorsAt_shapeFindings model)]

theorem hasErrors_filter (findings : List Diagnostic) :
    hasErrors (findings.filter Diagnostic.isError) = hasErrors findings := by
  simp [hasErrors, List.any_filter]

theorem warningCount_of_errors (findings : List Diagnostic)
    (errors : findings.filter Diagnostic.isError = findings) : warningCount findings = 0 := by
  rw [warningCount, errorCount, List.countP_eq_length_filter, errors, Nat.sub_self]

/-- A pass without the advice on the order of elements finds the errors of the pass with it, in the
same order, and nothing else. Unless warnings are denied, it fails exactly if the other one does;
without the advice, denied or not makes no difference. -/
theorem run_without_element_order (mode : Mode) :
    run ⟨mode, false⟩ [] model = (run ⟨mode, true⟩ [] model).filter Diagnostic.isError ∧
      (∀ finding ∈ run ⟨mode, false⟩ [] model, finding.isError) ∧
      Report.failed false (run ⟨mode, false⟩ [] model) =
        Report.failed false (run ⟨mode, true⟩ [] model) ∧
      Report.failed true (run ⟨mode, false⟩ [] model) =
        Report.failed false (run ⟨mode, true⟩ [] model) := by
  have kept : run ⟨mode, false⟩ [] model = (run ⟨mode, true⟩ [] model).filter Diagnostic.isError :=
    by
    rw [run_eq, run_eq, filter_builtinFindings]
  have errors :
      (run ⟨mode, false⟩ [] model).filter Diagnostic.isError = run ⟨mode, false⟩ [] model := by
    rw [run_eq]
    exact filter_errors _ _ (errorsAt_builtinFindings model mode)
  have silent : warningCount (run ⟨mode, false⟩ [] model) = 0 := warningCount_of_errors _ errors
  have same : hasErrors (run ⟨mode, false⟩ [] model) = hasErrors (run ⟨mode, true⟩ [] model) := by
    rw [kept, hasErrors_filter]
  refine ⟨kept, List.filter_eq_self.mp errors, ?_, ?_⟩
  · simp [Report.failed, same]
  · simp [Report.failed, same, silent]

end FrancaAudit.Check
