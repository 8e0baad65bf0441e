import FrancaAudit.Precedence.Order
import Mathlib.Data.List.Nodup
import Mathlib.Logic.Relation

/-!
Graphs as they come about, one node or edge after the other, and the paths in them.

Whatever is entered, in whatever order, the nodes are all different, both ends of an edge are
nodes, and the two sides of an edge know the same edges.
-/

namespace FrancaAudit.Precedence

variable {α : Type}

def Edge (graph : Precedence α) (before after : α) : Prop := after ∈ graph.successors before

/-- A path of one or more edges leads from the node back to itself. -/
def OnCycle (graph : Precedence α) (node : α) : Prop := Relation.TransGen graph.Edge node node

def Acyclic (graph : Precedence α) : Prop := ∀ node, ¬ graph.OnCycle node

/-- Where edges lead from what is needed to what needs it, the cycles are those of the need. -/
theorem onCycle_swap (graph : Precedence α) (needs : α → α → Prop)
    (edges : ∀ before after, graph.Edge before after ↔ needs after before) (node : α) :
    graph.OnCycle node ↔ Relation.TransGen needs node node := by
  have same : graph.Edge = Function.swap needs := by
    funext before after
    exact propext (edges before after)
  rw [OnCycle, same, Relation.transGen_swap]

structure WellFormed (graph : Precedence α) : Prop where
  nodes_nodup : graph.nodes.Nodup
  mirrored : ∀ before after, before ∈ graph.predecessors after ↔ graph.Edge before after
  before_mem : ∀ before after, graph.Edge before after → before ∈ graph.nodes
  after_mem : ∀ before after, graph.Edge before after → after ∈ graph.nodes

/-- What is entered into a graph at a time. -/
inductive Step (α : Type)
  | node (node : α)
  | edge (before after : α)

variable [DecidableEq α]

def take (graph : Precedence α) : Step α → Precedence α
  | .node node => graph.addNode node
  | .edge before after => graph.addEdge before after

def build (steps : List (Step α)) : Precedence α := steps.foldl take empty

@[simp]
theorem mem_enlist (items : List α) (item other : α) :
    other ∈ enlist items item ↔ other ∈ items ∨ other = item := by
  unfold enlist
  by_cases present : item ∈ items
  · simp only [present, ↓reduceIte]
    constructor
    · exact Or.inl
    · rintro (member | rfl)
      · exact member
      · exact present
  · simp [present]

theorem enlist_nodup (items : List α) (item : α) (unique : items.Nodup) :
    (enlist items item).Nodup := by
  unfold enlist
  by_cases present : item ∈ items
  · simpa [present] using unique
  · simp only [present, ↓reduceIte]
    refine List.nodup_append.mpr ⟨unique, List.nodup_singleton item, ?_⟩
    intro first member second single same
    rw [List.mem_singleton.mp single] at same
    exact present (same ▸ member)

theorem mem_enter (table : α → List α) (key item other value : α) :
    value ∈ enter table key item other ↔
      value ∈ table other ∨ (other = key ∧ value = item) := by
  unfold enter
  by_cases same : other = key
  · subst other
    simp
  · simp [same]

theorem edge_addEdge (graph : Precedence α) (before after first second : α) :
    (graph.addEdge before after).Edge first second ↔
      graph.Edge first second ∨ (first = before ∧ second = after) :=
  mem_enter graph.successors before after first second

theorem mem_nodes_addEdge (graph : Precedence α) (before after node : α) :
    node ∈ (graph.addEdge before after).nodes ↔
      node ∈ graph.nodes ∨ node = before ∨ node = after := by
  simp only [addEdge, mem_enlist, or_assoc]

omit [DecidableEq α] in
theorem empty_wellFormed : (empty : Precedence α).WellFormed where
  nodes_nodup := List.nodup_nil
  mirrored := by simp [empty, Edge]
  before_mem := fun _ _ edge => absurd edge List.not_mem_nil
  after_mem := fun _ _ edge => absurd edge List.not_mem_nil

theorem addNode_wellFormed (graph : Precedence α) (node : α) (valid : graph.WellFormed) :
    (graph.addNode node).WellFormed where
  nodes_nodup := enlist_nodup graph.nodes node valid.nodes_nodup
  mirrored := valid.mirrored
  before_mem := fun before after edge =>
    (mem_enlist ..).mpr (Or.inl (valid.before_mem before after edge))
  after_mem := fun before after edge =>
    (mem_enlist ..).mpr (Or.inl (valid.after_mem before after edge))

theorem addEdge_wellFormed (graph : Precedence α) (before after : α)
    (valid : graph.WellFormed) : (graph.addEdge before after).WellFormed where
  nodes_nodup := enlist_nodup _ after (enlist_nodup graph.nodes before valid.nodes_nodup)
  mirrored := by
    intro first second
    rw [edge_addEdge, ← valid.mirrored]
    exact (mem_enter graph.predecessors after before second first).trans
      (or_congr_right and_comm)
  before_mem := by
    intro first second edge
    rw [mem_nodes_addEdge]
    rcases (edge_addEdge ..).mp edge with old | ⟨same, _⟩
    · exact Or.inl (valid.before_mem first second old)
    · exact Or.inr (Or.inl same)
  after_mem := by
    intro first second edge
    rw [mem_nodes_addEdge]
    rcases (edge_addEdge ..).mp edge with old | ⟨_, same⟩
    · exact Or.inl (valid.after_mem first second old)
    · exact Or.inr (Or.inr same)

theorem take_wellFormed (graph : Precedence α) (step : Step α) (valid : graph.WellFormed) :
    (graph.take step).WellFormed := by
  cases step with
  | node node => exact addNode_wellFormed graph node valid
  | edge before after => exact addEdge_wellFormed graph before after valid

theorem foldl_take_wellFormed (steps : List (Step α)) (graph : Precedence α)
    (valid : graph.WellFormed) : (steps.foldl take graph).WellFormed := by
  induction steps generalizing graph with
  | nil => exact valid
  | cons step rest ih => exact ih (graph.take step) (take_wellFormed graph step valid)

theorem build_wellFormed (steps : List (Step α)) : (build steps).WellFormed :=
  foldl_take_wellFormed steps empty empty_wellFormed

theorem edge_foldl_take (steps : List (Step α)) (graph : Precedence α) (before after : α) :
    (steps.foldl take graph).Edge before after ↔
      graph.Edge before after ∨ Step.edge before after ∈ steps := by
  induction steps generalizing graph with
  | nil => simp
  | cons step rest ih =>
      rw [List.foldl_cons, ih]
      cases step with
      | node node => simp [take, addNode, Edge]
      | edge first second =>
          change (graph.addEdge first second).Edge before after ∨ _ ↔ _
          rw [edge_addEdge]
          simp [or_assoc]

theorem edge_build (steps : List (Step α)) (before after : α) :
    (build steps).Edge before after ↔ Step.edge before after ∈ steps := by
  rw [build, edge_foldl_take]
  exact or_iff_right List.not_mem_nil

theorem nodes_addNodes (graph : Precedence α) (nodes : List α)
    (unique : (graph.nodes ++ nodes).Nodup) :
    (graph.addNodes nodes).nodes = graph.nodes ++ nodes := by
  induction nodes generalizing graph with
  | nil => simp [addNodes]
  | cons node rest ih =>
      have fresh : node ∉ graph.nodes := by
        intro member
        exact (List.nodup_append.mp unique).2.2 node member node List.mem_cons_self rfl
      have entered : (graph.addNode node).nodes = graph.nodes ++ [node] := by
        simp [addNode, enlist, fresh]
      have later := ih (graph.addNode node) (by simpa [entered] using unique)
      simpa [addNodes, entered] using later

-- Edges between nodes that are there already enter none and keep the order of the nodes.
theorem nodes_addEdges (graph : Precedence α) (edges : List (α × α))
    (inside : ∀ edge ∈ edges, edge.1 ∈ graph.nodes ∧ edge.2 ∈ graph.nodes) :
    (graph.addEdges edges).nodes = graph.nodes := by
  induction edges generalizing graph with
  | nil => rfl
  | cons edge rest ih =>
      obtain ⟨before, after⟩ := inside edge List.mem_cons_self
      have same : (graph.addEdge edge.1 edge.2).nodes = graph.nodes := by
        simp [addEdge, enlist, before, after]
      have later := ih (graph.addEdge edge.1 edge.2) (by
        intro other member
        rw [same]
        exact inside other (List.mem_cons_of_mem edge member))
      rw [same] at later
      exact later

def stepsOf (nodes : List α) (edges : List (α × α)) : List (Step α) :=
  nodes.map .node ++ edges.map fun edge => .edge edge.1 edge.2

theorem build_stepsOf (nodes : List α) (edges : List (α × α)) :
    build (stepsOf nodes edges) = (empty.addNodes nodes).addEdges edges := by
  simp [build, stepsOf, addNodes, addEdges, List.foldl_map, take]

theorem edge_stepsOf (nodes : List α) (edges : List (α × α)) (before after : α) :
    (build (stepsOf nodes edges)).Edge before after ↔ (before, after) ∈ edges := by
  rw [edge_build]
  simp [stepsOf]

theorem nodes_stepsOf (nodes : List α) (edges : List (α × α)) (unique : nodes.Nodup)
    (inside : ∀ edge ∈ edges, edge.1 ∈ nodes ∧ edge.2 ∈ nodes) :
    (build (stepsOf nodes edges)).nodes = nodes := by
  have entered : ((empty : Precedence α).addNodes nodes).nodes = nodes :=
    nodes_addNodes empty nodes unique
  rw [build_stepsOf, nodes_addEdges _ edges (by simpa [entered] using inside), entered]

end FrancaAudit.Precedence
