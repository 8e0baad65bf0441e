import FrancaAudit.Proofs.Precedence.Graph
import Mathlib.Data.List.Induction

/-!
What a graph keeps of the steps that made it.

Nodes and the neighbours of a node are kept in lists that grow at the end and never take an item
twice. So each list can be read off the steps: it has what they enter into it, in the order in
which they first do.
-/

namespace FrancaAudit.Precedence

variable {α : Type} [DecidableEq α]

/-- The items that were entered, each once, in the order in which they were first entered. -/
structure Enlisted (entered items : List α) : Prop where
  once : items.Nodup
  same : ∀ item, item ∈ items ↔ item ∈ entered
  ordered : items.Pairwise fun first second => entered.idxOf first < entered.idxOf second

theorem enlisted_nil : Enlisted ([] : List α) [] where
  once := List.nodup_nil
  same := fun _ => Iff.rfl
  ordered := List.Pairwise.nil

/-- What was entered before keeps its position, and a new item comes behind all of it. -/
theorem enlisted_enlist (entered items : List α) (item : α) (kept : Enlisted entered items) :
    Enlisted (entered ++ [item]) (enlist items item) where
  once := enlist_nodup items item kept.once
  same := by
    intro other
    rw [mem_enlist, kept.same, List.mem_append, List.mem_singleton]
  ordered := by
    -- first occurrences do not move when something is put behind
    have earlier : items.Pairwise fun first second =>
        (entered ++ [item]).idxOf first < (entered ++ [item]).idxOf second := by
      refine kept.ordered.imp_of_mem ?_
      intro first second inFirst inSecond ahead
      rwa [List.idxOf_append_of_mem ((kept.same first).mp inFirst),
        List.idxOf_append_of_mem ((kept.same second).mp inSecond)]
    unfold enlist
    by_cases present : item ∈ items
    · simpa only [present, ↓reduceIte] using earlier
    · have new : item ∉ entered := mt (kept.same item).mpr present
      simp only [present, ↓reduceIte]
      refine List.pairwise_append.mpr ⟨earlier, List.pairwise_singleton _ _, ?_⟩
      intro first member second single
      obtain rfl := List.mem_singleton.mp single
      have old : first ∈ entered := (kept.same first).mp member
      rw [List.idxOf_append_of_mem old, List.idxOf_append_of_notMem new]
      exact Nat.lt_add_right _ (List.idxOf_lt_length_of_mem old)

theorem enlisted_enter (table entered : α → List α) (key item : α)
    (kept : ∀ other, Enlisted (entered other) (table other)) (other : α) :
    Enlisted (entered other ++ if key = other then [item] else []) (enter table key item other) := by
  unfold enter
  by_cases same : other = key
  · subst other
    simpa only [↓reduceIte] using enlisted_enlist (entered key) (table key) item (kept key)
  · simpa only [same, Ne.symm same, ↓reduceIte, List.append_nil] using kept other

/-- The nodes that a step mentions. An edge mentions its source before its target. -/
def Step.mentions : Step α → List α
  | .node single => [single]
  | .edge before after => [before, after]

def Step.targets (source : α) : Step α → List α
  | .node _ => []
  | .edge before after => if before = source then [after] else []

def Step.sources (target : α) : Step α → List α
  | .node _ => []
  | .edge before after => if after = target then [before] else []

def mentions (steps : List (Step α)) : List α := steps.flatMap Step.mentions

def targets (steps : List (Step α)) (source : α) : List α := steps.flatMap (Step.targets source)

def sources (steps : List (Step α)) (target : α) : List α := steps.flatMap (Step.sources target)

omit [DecidableEq α] in
theorem mentions_snoc (steps : List (Step α)) (step : Step α) :
    mentions (steps ++ [step]) = mentions steps ++ step.mentions := by
  simp [mentions]

theorem targets_snoc (steps : List (Step α)) (step : Step α) (source : α) :
    targets (steps ++ [step]) source = targets steps source ++ step.targets source := by
  simp [targets]

theorem sources_snoc (steps : List (Step α)) (step : Step α) (target : α) :
    sources (steps ++ [step]) target = sources steps target ++ step.sources target := by
  simp [sources]

/-- The graph has kept what the steps entered, and the order in which they first did. -/
structure Records (graph : Precedence α) (steps : List (Step α)) : Prop where
  nodes : Enlisted (mentions steps) graph.nodes
  successors : ∀ node, Enlisted (targets steps node) (graph.successors node)
  predecessors : ∀ node, Enlisted (sources steps node) (graph.predecessors node)

theorem empty_records : (empty : Precedence α).Records [] where
  nodes := enlisted_nil
  successors := fun _ => enlisted_nil
  predecessors := fun _ => enlisted_nil

theorem take_records (graph : Precedence α) (steps : List (Step α)) (step : Step α)
    (kept : graph.Records steps) : (graph.take step).Records (steps ++ [step]) where
  nodes := by
    rw [mentions_snoc]
    cases step with
    | node single => exact enlisted_enlist _ _ single kept.nodes
    | edge before after =>
        have source := enlisted_enlist _ _ before kept.nodes
        have both := enlisted_enlist _ _ after source
        rwa [List.append_assoc] at both
  successors := by
    intro source
    rw [targets_snoc]
    cases step with
    | node single =>
        rw [Step.targets, List.append_nil]
        exact kept.successors source
    | edge before after => exact enlisted_enter _ _ before after kept.successors source
  predecessors := by
    intro target
    rw [sources_snoc]
    cases step with
    | node single =>
        rw [Step.sources, List.append_nil]
        exact kept.predecessors target
    | edge before after => exact enlisted_enter _ _ after before kept.predecessors target

theorem build_records (steps : List (Step α)) : (build steps).Records steps := by
  induction steps using List.reverseRecOn with
  | nil => exact empty_records
  | append_singleton steps step ih =>
      rw [build, List.foldl_append]
      exact take_records (build steps) steps step ih

/-- A graph has the nodes that were mentioned, and around each node the neighbours it was given, all
once and in the order of their first mention. Its edges are those that were entered, and both sides
of it know the same ones. -/
theorem build_faithful (steps : List (Step α)) :
    Enlisted (mentions steps) (build steps).nodes ∧
      (∀ node, (build steps).hasNode node ↔ node ∈ mentions steps) ∧
      (∀ before after, (build steps).hasEdge before after ↔ Step.edge before after ∈ steps) ∧
      (∀ node, Enlisted (targets steps node) ((build steps).successors node)) ∧
      (∀ node, Enlisted (sources steps node) ((build steps).predecessors node)) ∧
      ∀ before after, before ∈ (build steps).predecessors after ↔
        after ∈ (build steps).successors before := by
  have records := build_records steps
  refine ⟨records.nodes, ?_, ?_, records.successors, records.predecessors,
    (build_wellFormed steps).mirrored⟩
  · intro node
    rw [hasNode, decide_eq_true_eq, records.nodes.same]
  · intro before after
    rw [hasEdge, decide_eq_true_eq, ← edge_build, Edge]

-- A target mentioned first, an edge from a node to itself, and an edge entered again.
example :
    let graph := build [.edge 2 1, .edge 1 1, .edge 2 3, .node 3, .edge 2 1]
    graph.nodes = [2, 1, 3] ∧ graph.successors 2 = [1, 3] ∧ graph.predecessors 1 = [2, 1] := by
  decide

end FrancaAudit.Precedence
