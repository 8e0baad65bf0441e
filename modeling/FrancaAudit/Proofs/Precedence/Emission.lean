import FrancaAudit.Proofs.Precedence.Graph
import Mathlib.Data.List.Perm.Basic

/-!
The walk that puts nodes in order.

What it emits respects every edge, whether or not it comes to an end. It fails only where a node
waits for itself; the fuel never runs out, since a path holds each node at most once.
-/

namespace FrancaAudit.Precedence

variable {α : Type}

/-- Each node comes once and behind all that has to come before it. -/
structure Ordered (graph : Precedence α) (order : List α) : Prop where
  nodup : order.Nodup
  subset : order ⊆ graph.nodes
  behind : ∀ front node back, order = front ++ node :: back →
    ∀ before, graph.Edge before node → before ∈ front

theorem ordered_nil (graph : Precedence α) : graph.Ordered [] where
  nodup := List.nodup_nil
  subset := List.nil_subset graph.nodes
  behind := by
    intro front node back split
    exact absurd split.symm (by simp)

theorem ordered_snoc (graph : Precedence α) (order : List α) (node : α)
    (ordered : graph.Ordered order) (member : node ∈ graph.nodes) (fresh : node ∉ order)
    (ready : ∀ before, graph.Edge before node → before ∈ order) :
    graph.Ordered (order ++ [node]) where
  nodup := by
    refine List.nodup_append.mpr ⟨ordered.nodup, List.nodup_singleton node, ?_⟩
    intro first member second single same
    rw [List.mem_singleton.mp single] at same
    exact fresh (same ▸ member)
  subset := List.append_subset.mpr ⟨ordered.subset, by simpa using member⟩
  behind := by
    intro front other back split before edge
    -- either the new node is the one looked at, or the split lies within the old order
    rcases List.eq_nil_or_concat back with rfl | ⟨inner, last, rfl⟩
    · obtain ⟨rfl, single⟩ := List.append_inj' split rfl
      obtain rfl : node = other := by simpa using single
      exact ready before edge
    · have split' : order ++ [node] = (front ++ other :: inner) ++ [last] := by
        simpa using split
      obtain ⟨rfl, _⟩ := List.append_inj' split' rfl
      exact ordered.behind front other inner rfl before edge

variable [DecidableEq α]

theorem ordered_idxOf (graph : Precedence α) (order : List α) (before after : α)
    (ordered : graph.Ordered order) (member : after ∈ order) (edge : graph.Edge before after) :
    order.idxOf before < order.idxOf after := by
  obtain ⟨front, back, rfl⟩ := List.append_of_mem member
  have ahead : before ∈ front := ordered.behind front after back rfl before edge
  have absent : after ∉ front := by
    intro present
    exact (List.nodup_append.mp ordered.nodup).2.2 after present after List.mem_cons_self rfl
  rw [List.idxOf_append_of_mem ahead, List.idxOf_append_of_notMem absent]
  exact Nat.lt_of_lt_of_le (List.idxOf_lt_length_of_mem ahead) (Nat.le_add_right _ _)

theorem ordered_acyclic (graph : Precedence α) (order : List α) (ordered : graph.Ordered order)
    (all : ∀ before after, graph.Edge before after → after ∈ order) : graph.Acyclic := by
  have ascends : ∀ first second, Relation.TransGen graph.Edge first second →
      order.idxOf first < order.idxOf second := by
    intro first second path
    induction path with
    | single edge => exact ordered_idxOf graph order _ _ ordered (all _ _ edge) edge
    | tail _ edge ih =>
        exact Nat.lt_trans ih (ordered_idxOf graph order _ _ ordered (all _ _ edge) edge)
  intro node cycle
  exact Nat.lt_irrefl _ (ascends node node cycle)

/-- Nodes are added behind those already there, and none that is on the path. -/
structure Extends (path done after : List α) : Prop where
  kept : done <+: after
  apart : ∀ node ∈ after, node ∈ done ∨ node ∉ path

omit [DecidableEq α] in
theorem extends_refl (path done : List α) : Extends path done done :=
  ⟨List.prefix_refl done, fun _ member => Or.inl member⟩

omit [DecidableEq α] in
theorem extends_trans (path first second third : List α) (left : Extends path first second)
    (right : Extends path second third) : Extends path first third := by
  refine ⟨left.kept.trans right.kept, ?_⟩
  intro node member
  rcases right.apart node member with old | fresh
  · exact left.apart node old
  · exact Or.inr fresh

/-- The outcome of a walk that succeeds, from one node or from several. -/
structure Emits (graph : Precedence α) (path wanted done after : List α) : Prop where
  ordered : graph.Ordered after
  extended : Extends path done after
  emitted : ∀ node ∈ wanted, node ∈ after

omit [DecidableEq α] in
theorem emits_foldlM (graph : Precedence α) (path : List α)
    (step : List α → α → Option (List α)) (wanted done after : List α)
    (sound : ∀ node ∈ wanted, ∀ done after, graph.Ordered done → step done node = some after →
      graph.Emits path [node] done after)
    (ordered : graph.Ordered done)
    (found : wanted.foldlM step done = some after) :
    graph.Emits path wanted done after := by
  induction wanted generalizing done with
  | nil =>
      obtain rfl : done = after := by simpa using found
      exact ⟨ordered, extends_refl path done, by simp⟩
  | cons node rest ih =>
      rw [List.foldlM_cons] at found
      obtain ⟨middle, stepped, tail⟩ := Option.bind_eq_some_iff.mp found
      have first := sound node List.mem_cons_self done middle ordered stepped
      have others := ih middle (fun other later => sound other (List.mem_cons_of_mem node later))
        first.ordered tail
      refine ⟨others.ordered, extends_trans path done middle after first.extended
        others.extended, ?_⟩
      intro other member
      rcases List.mem_cons.mp member with rfl | later
      · exact others.extended.kept.subset (first.emitted other List.mem_cons_self)
      · exact others.emitted other later

-- By induction on the fuel: the walk towards the predecessors has one node more on its path, so
-- what it emits can not contain the node that waits for it.
theorem emit_emits (graph : Precedence α) (valid : graph.WellFormed) (fuel : Nat)
    (path done : List α) (node : α) (after : List α) (member : node ∈ graph.nodes)
    (ordered : graph.Ordered done) (found : graph.emit fuel path done node = some after) :
    graph.Emits path [node] done after := by
  induction fuel generalizing path done node after with
  | zero => simp [emit] at found
  | succ fuel ih =>
      rw [emit] at found
      split at found
      · rename_i present
        obtain rfl : done = after := by simpa using found
        exact ⟨ordered, extends_refl path done, by simpa using present⟩
      · split at found
        · simp at found
        · rename_i fresh waiting
          obtain ⟨middle, walked, last⟩ := Option.bind_eq_some_iff.mp found
          obtain rfl : middle ++ [node] = after := by simpa using last
          have inner := emits_foldlM graph (node :: path) (graph.emit fuel (node :: path))
            (graph.predecessors node) done middle
            (fun before known done after ordered found =>
              ih (node :: path) done before after
                (valid.before_mem before node ((valid.mirrored before node).mp known))
                ordered found)
            ordered walked
          -- the walk before it ran with the node on the path, and emits nothing from there
          have absent : node ∉ middle := by
            intro member
            rcases inner.extended.apart node member with old | apart
            · exact fresh old
            · exact apart List.mem_cons_self
          refine ⟨ordered_snoc graph middle node inner.ordered member absent ?_, ⟨?_, ?_⟩,
            by simp⟩
          · intro before edge
            exact inner.emitted before ((valid.mirrored before node).mpr edge)
          · exact inner.extended.kept.trans (List.prefix_append middle [node])
          · intro other inside
            rcases List.mem_append.mp inside with early | last
            · rcases inner.extended.apart other early with old | apart
              · exact Or.inl old
              · exact Or.inr fun onPath => apart (List.mem_cons_of_mem node onPath)
            · rw [List.mem_singleton.mp last]
              exact Or.inr waiting

omit [DecidableEq α] in
theorem foldlM_eq_none (step : List α → α → Option (List α)) (wanted done : List α)
    (failed : wanted.foldlM step done = none) :
    ∃ node ∈ wanted, ∃ middle, step middle node = none := by
  induction wanted generalizing done with
  | nil => simp at failed
  | cons node rest ih =>
      rw [List.foldlM_cons] at failed
      cases stepped : step done node with
      | none => exact ⟨node, List.mem_cons_self, done, stepped⟩
      | some middle =>
          rw [stepped] at failed
          obtain ⟨other, member, found⟩ := ih middle failed
          exact ⟨other, List.mem_cons_of_mem node member, found⟩

/-- A path of different nodes, all of which `node` has to come before. -/
structure Waiting (graph : Precedence α) (path : List α) (node : α) : Prop where
  nodup : path.Nodup
  subset : path ⊆ graph.nodes
  reached : ∀ later ∈ path, Relation.TransGen graph.Edge node later

theorem emit_eq_none (graph : Precedence α) (valid : graph.WellFormed) (fuel : Nat)
    (path done : List α) (node : α) (waiting : graph.Waiting path node)
    (member : node ∈ graph.nodes) (enough : graph.nodes.length < fuel + path.length)
    (failed : graph.emit fuel path done node = none) : ∃ found, graph.OnCycle found := by
  induction fuel generalizing path done node with
  | zero =>
      -- the path would hold more nodes than there are
      have bound := waiting.nodup.length_le_of_subset waiting.subset
      omega
  | succ fuel ih =>
      rw [emit] at failed
      split at failed
      · simp at failed
      · split at failed
        · rename_i onPath
          -- back at a node that waits for itself
          exact ⟨node, waiting.reached node onPath⟩
        · rename_i _ apart
          have unfinished :
              (graph.predecessors node).foldlM (graph.emit fuel (node :: path)) done = none := by
            cases walked : (graph.predecessors node).foldlM
                (graph.emit fuel (node :: path)) done with
            | none => rfl
            | some middle => simp [walked] at failed
          obtain ⟨before, known, middle, stuck⟩ := foldlM_eq_none _ _ done unfinished
          have edge := (valid.mirrored before node).mp known
          refine ih (node :: path) middle before ⟨?_, ?_, ?_⟩ (valid.before_mem _ _ edge) ?_ stuck
          · exact List.nodup_cons.mpr ⟨apart, waiting.nodup⟩
          · exact List.cons_subset.mpr ⟨member, waiting.subset⟩
          · intro later inside
            rcases List.mem_cons.mp inside with rfl | deeper
            · exact Relation.TransGen.single edge
            · exact Relation.TransGen.head edge (waiting.reached later deeper)
          · simp only [List.length_cons]
            omega

theorem order?_ordered (graph : Precedence α) (valid : graph.WellFormed) (order : List α)
    (found : graph.order? = some order) : graph.Ordered order ∧ order.Perm graph.nodes := by
  have emits := emits_foldlM graph [] (graph.emit (graph.nodes.length + 1) []) graph.nodes [] order
    (fun node member done after ordered found =>
      emit_emits graph valid (graph.nodes.length + 1) [] done node after member ordered found)
    (ordered_nil graph) found
  refine ⟨emits.ordered, (List.perm_ext_iff_of_nodup emits.ordered.nodup valid.nodes_nodup).mpr ?_⟩
  -- every node is wanted, and nothing but nodes is emitted
  intro node
  exact ⟨fun member => emits.ordered.subset member, emits.emitted node⟩

theorem order?_eq_none (graph : Precedence α) (valid : graph.WellFormed)
    (failed : graph.order? = none) : ¬ graph.Acyclic := by
  intro acyclic
  obtain ⟨node, member, middle, stuck⟩ := foldlM_eq_none _ graph.nodes [] failed
  obtain ⟨found, cycle⟩ := emit_eq_none graph valid (graph.nodes.length + 1) [] middle node
    ⟨List.nodup_nil, List.nil_subset _, by simp⟩ member (by simp) stuck
  exact acyclic found cycle

theorem order_eq_ok (graph : Precedence α) (order : List α) :
    graph.order = .ok order ↔ graph.order? = some order := by
  unfold Precedence.order
  cases graph.order? <;> simp

theorem acyclic_of_order? (graph : Precedence α) (valid : graph.WellFormed) (order : List α)
    (found : graph.order? = some order) : graph.Acyclic := by
  obtain ⟨ordered, same⟩ := order?_ordered graph valid order found
  exact ordered_acyclic graph order ordered fun before after edge =>
    same.mem_iff.mpr (valid.after_mem before after edge)

theorem order_exists (graph : Precedence α) (valid : graph.WellFormed) :
    (∃ order, graph.order = .ok order) ↔ graph.Acyclic := by
  simp only [order_eq_ok]
  constructor
  · rintro ⟨order, found⟩
    exact acyclic_of_order? graph valid order found
  · intro acyclic
    cases found : graph.order? with
    | none => exact absurd acyclic (order?_eq_none graph valid found)
    | some order => exact ⟨order, rfl⟩

theorem order_respects (graph : Precedence α) (valid : graph.WellFormed) (order : List α)
    (found : graph.order = .ok order) :
    order.Perm graph.nodes ∧
      ∀ before after, graph.Edge before after → order.idxOf before < order.idxOf after := by
  obtain ⟨ordered, same⟩ := order?_ordered graph valid order ((order_eq_ok graph order).mp found)
  refine ⟨same, ?_⟩
  intro before after edge
  exact ordered_idxOf graph order before after ordered
    (same.mem_iff.mpr (valid.after_mem before after edge)) edge

/-- There is an order exactly if there is no cycle, and it holds every node once, each before all
that an edge leads to. -/
theorem order_of_build (steps : List (Step α)) :
    ((∃ order, (build steps).order = .ok order) ↔ (build steps).Acyclic) ∧
      ∀ order, (build steps).order = .ok order →
        order.Perm (build steps).nodes ∧
          ∀ before after, (build steps).Edge before after →
            order.idxOf before < order.idxOf after := by
  have valid := build_wellFormed steps
  refine ⟨order_exists _ valid, ?_⟩
  intro order found
  exact order_respects _ valid order found

/-- Edges of a diamond, one of them twice and the last node before the others. -/
def diamond : List (Step Nat) :=
  [.node 4, .edge 3 4, .edge 1 3, .edge 1 2, .edge 2 4, .edge 1 3]

theorem order_of_diamond :
    (build diamond).order = .ok [1, 3, 2, 4] ∧ [1, 3, 2, 4].Perm (build diamond).nodes ∧
      ∀ before after, (build diamond).Edge before after →
        [1, 3, 2, 4].idxOf before < [1, 3, 2, 4].idxOf after :=
  ⟨rfl, (order_of_build diamond).2 [1, 3, 2, 4] rfl⟩

end FrancaAudit.Precedence
