import FrancaAudit.Proofs.Check.Duplicate

/-!
Findings that are all errors, and the elements that they stand at.

What a rule reports is said once, for both at the same time: how grave its findings are, and at
which of the elements it was given they stand.
-/

namespace FrancaAudit.Check

def ErrorsAt (holds : Node → Prop) (findings : List Diagnostic) : Prop :=
  ∀ finding ∈ findings, finding.severity = .error ∧ holds finding.node

variable (holds : Node → Prop)

@[simp]
theorem errorsAt_nil : ErrorsAt holds [] := by simp [ErrorsAt]

@[simp]
theorem errorsAt_cons (finding : Diagnostic) (rest : List Diagnostic) :
    ErrorsAt holds (finding :: rest) ↔
      (finding.severity = .error ∧ holds finding.node) ∧ ErrorsAt holds rest :=
  List.forall_mem_cons

@[simp]
theorem errorsAt_append (first second : List Diagnostic) :
    ErrorsAt holds (first ++ second) ↔ ErrorsAt holds first ∧ ErrorsAt holds second :=
  List.forall_mem_append

@[simp]
theorem errorsAt_flatMap {α : Type} (items : List α) (findings : α → List Diagnostic) :
    ErrorsAt holds (items.flatMap findings) ↔ ∀ item ∈ items, ErrorsAt holds (findings item) :=
  List.forall_mem_flatMap

@[simp]
theorem errorsAt_map {α : Type} (items : List α) (finding : α → Diagnostic) :
    ErrorsAt holds (items.map finding) ↔
      ∀ item ∈ items, (finding item).severity = .error ∧ holds (finding item).node :=
  List.forall_mem_map

theorem errorsAt_placed {α : Type} (items : List α) (findings : Nat → α → List Diagnostic) :
    ErrorsAt holds (Model.placed items findings) ↔
      ∀ index item, items[index]? = some item → ErrorsAt holds (findings index item) :=
  Model.forall_mem_placed items findings _

theorem forall_named {α : Type} (items : List α) (name : α → String) (node : Nat → Node) :
    (∀ item ∈ named items name node, holds item.2) ↔
      ∀ index item, items[index]? = some item → holds (node index) := by
  simp only [named, List.forall_mem_map, Prod.forall, List.mk_mem_zipIdx_iff_getElem?]
  exact forall_comm

theorem errorsAt_duplicateErrors (kind : DiagnosticKind) (what : String)
    (items : List (String × Node)) (all : ∀ item ∈ items, holds item.2) :
    ErrorsAt holds (duplicateErrors kind what items) := by
  rw [duplicateErrors_eq, errorsAt_map]
  exact fun item shared => ⟨rfl, all item (duplicates_subset items shared)⟩

end FrancaAudit.Check
