import FrancaAudit.Check.Reporting

/-!
Rules that only add to the sink.

A rule could take findings back, or find other things if something was found before. `Appends`
excludes both: the same findings go behind whatever the sink holds. Rules that are composed of
such rules are such rules, and what they add is composed in the same way.
-/

namespace FrancaAudit.Check

/-- Puts these findings behind all that was found before, whatever that is. -/
def Appends (check : Reporting Unit) (findings : List Diagnostic) : Prop :=
  ∀ found, check.run found = ((), found ++ findings)

section Composition

variable {check rest : Reporting Unit} {findings later : List Diagnostic}

theorem Appends.findings_eq (appends : Appends check findings) : check.findings = findings := by
  rw [Reporting.findings, appends, List.nil_append]

/-- What a rule adds to an empty sink is what it adds to any. -/
theorem Appends.own (appends : Appends check findings) : Appends check check.findings := by
  rwa [appends.findings_eq]

theorem Appends.andThen (first : Appends check findings) (second : Appends rest later) :
    Appends (do check; rest) (findings ++ later) := by
  intro found
  rw [StateT.run_bind, first found, ← List.append_assoc]
  exact second (found ++ findings)

end Composition

theorem appends_nothing : Appends (pure ()) [] := by
  intro found
  rw [List.append_nil]
  rfl

theorem appends_report (finding : Diagnostic) : Appends (report finding) [finding] :=
  fun _ => rfl

theorem appends_reportWhen (broken : Bool) (finding : Diagnostic) :
    Appends (reportWhen broken finding) (if broken then [finding] else []) := by
  cases broken
  · exact appends_nothing
  · exact appends_report finding

theorem appends_reportUnless (kept : Bool) (finding : Diagnostic) :
    Appends (reportWhen (!kept) finding) (if kept then [] else [finding]) := by
  cases kept
  · exact appends_report finding
  · exact appends_nothing

theorem appends_forM {α : Type} (items : List α) (check : α → Reporting Unit)
    (findings : α → List Diagnostic) (each : ∀ item, Appends (check item) (findings item)) :
    Appends (items.forM check) (items.flatMap findings) := by
  induction items with
  | nil => exact appends_nothing
  | cons item rest ih => exact (each item).andThen ih

theorem appends_reports {α : Type} (items : List α) (finding : α → Diagnostic) :
    Appends (items.forM fun item => report (finding item)) (items.map finding) := by
  rw [List.map_eq_flatMap]
  exact appends_forM items _ _ fun item => appends_report (finding item)

theorem appends_messages {α : Type} (items : List α) (message : α → String)
    (finding : String → Diagnostic) :
    Appends (items.forM fun item => report (finding (message item)))
      ((items.map message).map finding) := by
  rw [List.map_map]
  exact appends_reports items _

end FrancaAudit.Check
