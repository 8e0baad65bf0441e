import FrancaAudit.Proofs.Precedence.Emission

/-!
How far an order departs from the order of insertion.

The walk from a node emits the node and whatever has to come before it, as far as that is not there
yet, and nothing else. The nodes are walked from in the order of their insertion. So the first of
them, together with all that they need, fill a front part of the order, however many are taken.
-/

namespace FrancaAudit.Precedence

variable {α : Type}

/-- The node is one of the roots, or has to come before one. -/
def Needed (graph : Precedence α) (roots : List α) (node : α) : Prop :=
  ∃ root ∈ roots, Relation.ReflTransGen graph.Edge node root

theorem needed_cons (graph : Precedence α) (root : α) (rest : List α) (node : α) :
    graph.Needed (root :: rest) node ↔
      Relation.ReflTransGen graph.Edge node root ∨ graph.Needed rest node := by
  simp [Needed]

theorem needed_before (graph : Precedence α) (valid : graph.WellFormed) (root node : α)
    (needed : graph.Needed (graph.predecessors root) node) :
    Relation.ReflTransGen graph.Edge node root := by
  obtain ⟨before, known, path⟩ := needed
  exact path.tail ((valid.mirrored before root).mp known)

theorem mem_of_needed (graph : Precedence α) (order roots : List α) (node : α)
    (ordered : graph.Ordered order) (inside : roots ⊆ order)
    (needed : graph.Needed roots node) : node ∈ order := by
  obtain ⟨root, member, path⟩ := needed
  induction path using Relation.ReflTransGen.head_induction_on with
  | refl => exact inside member
  | head edge _ present =>
      -- the order, cut at a node, has the nodes before it in front
      obtain ⟨front, back, rfl⟩ := List.append_of_mem present
      have ahead := ordered.behind front _ back rfl _ edge
      exact List.mem_append_left _ ahead

-- Nothing is supposed about the single steps but that each adds only what its own node needs.
theorem foldlM_adds (graph : Precedence α) (step : List α → α → Option (List α))
    (wanted done after : List α)
    (adds : ∀ node ∈ wanted, ∀ done after, step done node = some after →
      ∀ other ∈ after, other ∈ done ∨ Relation.ReflTransGen graph.Edge other node)
    (found : wanted.foldlM step done = some after) :
    ∀ other ∈ after, other ∈ done ∨ graph.Needed wanted other := by
  induction wanted generalizing done with
  | nil =>
      obtain rfl : done = after := by simpa using found
      exact fun other member => Or.inl member
  | cons node rest ih =>
      rw [List.foldlM_cons] at found
      obtain ⟨middle, stepped, tail⟩ := Option.bind_eq_some_iff.mp found
      intro other member
      rw [needed_cons]
      have later := ih middle (fun next inside => adds next (List.mem_cons_of_mem node inside)) tail
      rcases later other member with early | needed
      · rcases adds node List.mem_cons_self done middle stepped other early with old | path
        · exact Or.inl old
        · exact Or.inr (Or.inl path)
      · exact Or.inr (Or.inr needed)

variable [DecidableEq α]

-- By induction on the fuel: what the nodes before the node need, the node needs too.
theorem emit_adds (graph : Precedence α) (valid : graph.WellFormed) (fuel : Nat)
    (path done : List α) (node : α) (after : List α)
    (found : graph.emit fuel path done node = some after) :
    ∀ other ∈ after, other ∈ done ∨ Relation.ReflTransGen graph.Edge other node := by
  induction fuel generalizing path done node after with
  | zero => simp [emit] at found
  | succ fuel ih =>
      rw [emit] at found
      by_cases present : node ∈ done
      · obtain rfl : done = after := by simpa [present] using found
        exact fun other member => Or.inl member
      · by_cases waiting : node ∈ path
        · simp [present, waiting] at found
        · rw [if_neg present, if_neg waiting] at found
          obtain ⟨middle, walked, last⟩ := Option.bind_eq_some_iff.mp found
          obtain rfl : middle ++ [node] = after := by simpa using last
          have before := foldlM_adds graph (graph.emit fuel (node :: path))
            (graph.predecessors node) done middle
            (fun next _ done after found => ih (node :: path) done next after found) walked
          -- what the walk has added is needed by a node before this one, or is this one
          intro other member
          rcases List.mem_append.mp member with early | own
          · apply Or.imp_right (needed_before graph valid node other)
            exact before other early
          · rw [List.mem_singleton.mp own]
            exact Or.inr .refl

theorem walk_emits (graph : Precedence α) (valid : graph.WellFormed) (fuel : Nat)
    (roots done after : List α) (inside : roots ⊆ graph.nodes) (ordered : graph.Ordered done)
    (found : roots.foldlM (graph.emit fuel []) done = some after) :
    graph.Emits [] roots done after :=
  emits_foldlM graph [] (graph.emit fuel []) roots done after
    (fun node member done after ordered found =>
      emit_emits graph valid fuel [] done node after (inside member) ordered found)
    ordered found

theorem mem_walk (graph : Precedence α) (valid : graph.WellFormed) (fuel : Nat)
    (roots after : List α) (inside : roots ⊆ graph.nodes)
    (found : roots.foldlM (graph.emit fuel []) [] = some after) (node : α) :
    node ∈ after ↔ graph.Needed roots node := by
  have emits := walk_emits graph valid fuel roots [] after inside (ordered_nil graph) found
  constructor
  · intro member
    have added := foldlM_adds graph (graph.emit fuel []) roots [] after
      (fun next _ done after found => emit_adds graph valid fuel [] done next after found) found
    exact (added node member).resolve_left List.not_mem_nil
  · exact mem_of_needed graph after roots node emits.ordered emits.emitted

/-- The first nodes and what they need fill a front part of the order. -/
def FillsFronts (graph : Precedence α) (order : List α) : Prop :=
  ∀ count, ∃ front, front <+: order ∧
    ∀ node, node ∈ front ↔ graph.Needed (graph.nodes.take count) node

theorem order?_fillsFronts (graph : Precedence α) (valid : graph.WellFormed) (order : List α)
    (found : graph.order? = some order) : graph.FillsFronts order := by
  intro count
  -- the walk over all nodes, cut behind the first ones
  rw [order?, ← List.take_append_drop count graph.nodes, List.foldlM_append] at found
  obtain ⟨front, walked, rest⟩ := Option.bind_eq_some_iff.mp found
  have taken : graph.nodes.take count ⊆ graph.nodes := List.take_subset count graph.nodes
  have early := walk_emits graph valid _ _ [] front taken (ordered_nil graph) walked
  have late := walk_emits graph valid _ _ front order (List.drop_subset count graph.nodes)
    early.ordered rest
  exact ⟨front, late.extended.kept, mem_walk graph valid _ _ front taken walked⟩

/-- A node that comes before one inserted earlier is needed by a node no later than that one. -/
theorem moved_needed (graph : Precedence α) (order : List α) (fills : graph.FillsFronts order)
    (node earlier : α) (member : earlier ∈ graph.nodes)
    (inserted : graph.nodes.idxOf earlier < graph.nodes.idxOf node)
    (moved : order.idxOf node < order.idxOf earlier) :
    ∃ root ∈ graph.nodes, graph.nodes.idxOf root ≤ graph.nodes.idxOf earlier ∧
      Relation.TransGen graph.Edge node root := by
  -- the nodes up to the earlier one fill a front part, where that one is itself
  obtain ⟨front, cut, exact⟩ := fills (graph.nodes.idxOf earlier + 1)
  have last : earlier ∈ graph.nodes.take (graph.nodes.idxOf earlier + 1) :=
    (List.mem_take_iff_idxOf_lt member).mpr (Nat.lt_succ_self _)
  have reached : earlier ∈ front := (exact earlier).mpr ⟨earlier, last, .refl⟩
  -- so the moved node is in that part too
  have within : order.idxOf node < front.length :=
    Nat.lt_trans moved ((cut.mem_iff_idxOf_lt_length earlier).mp reached)
  obtain ⟨root, taken, path⟩ := (exact node).mp ((cut.mem_iff_idxOf_lt_length node).mpr within)
  have known : root ∈ graph.nodes := List.mem_of_mem_take taken
  have bound : graph.nodes.idxOf root ≤ graph.nodes.idxOf earlier :=
    Nat.lt_succ_iff.mp ((List.mem_take_iff_idxOf_lt known).mp taken)
  refine ⟨root, known, bound, ?_⟩
  rcases Relation.reflTransGen_iff_eq_or_transGen.mp path with rfl | later
  · omega
  · exact later

theorem pairwise_idxOf (items : List α) (unique : items.Nodup) :
    items.Pairwise fun first second => items.idxOf first < items.idxOf second := by
  rw [List.pairwise_iff_getElem]
  intro first second firstBound secondBound ascending
  rwa [unique.idxOf_getElem, unique.idxOf_getElem]

/-- Nodes inserted behind all that they need keep their order. -/
theorem order_eq_nodes (graph : Precedence α) (valid : graph.WellFormed) (order : List α)
    (same : order.Perm graph.nodes) (fills : graph.FillsFronts order)
    (respected : ∀ before after, graph.Edge before after →
      graph.nodes.idxOf before < graph.nodes.idxOf after) : order = graph.nodes := by
  have climbs : ∀ first second, Relation.TransGen graph.Edge first second →
      graph.nodes.idxOf first < graph.nodes.idxOf second := by
    intro first second path
    induction path with
    | single edge => exact respected _ _ edge
    | tail _ edge ih => exact Nat.lt_trans ih (respected _ _ edge)
  have unique : order.Nodup := same.nodup_iff.mpr valid.nodes_nodup
  have sorted : order.Pairwise fun first second =>
      graph.nodes.idxOf first < graph.nodes.idxOf second := by
    refine (pairwise_idxOf order unique).imp_of_mem ?_
    intro first second inFirst inSecond ahead
    by_contra behind
    -- a node that comes too early would be needed by one no later than the node it overtakes
    have different : graph.nodes.idxOf second ≠ graph.nodes.idxOf first := by
      intro equal
      obtain rfl := (List.idxOf_inj (same.subset inSecond)).mp equal
      exact Nat.lt_irrefl _ ahead
    obtain ⟨root, _, bound, path⟩ :=
      moved_needed graph order fills first second (same.subset inSecond) (by omega) ahead
    have climb := climbs first root path
    omega
  refine same.eq_of_pairwise ?_ sorted (pairwise_idxOf graph.nodes valid.nodes_nodup)
  intro first second _ _ up down
  omega

/-- There is an order of any graph without cycles. Its front parts are filled by the first nodes, in
the order of insertion, and what they need. So a node gets ahead of an earlier one only if something
that depends on it is no later than that one; and where the insertion respects all edges already,
nothing is moved. -/
theorem order_stable (steps : List (Step α)) (acyclic : (build steps).Acyclic) :
    ∃ order, (build steps).order = .ok order ∧
      (∀ count, ∃ front, front <+: order ∧
        ∀ node, node ∈ front ↔ (build steps).Needed ((build steps).nodes.take count) node) ∧
      (∀ node, ∀ earlier ∈ (build steps).nodes,
        (build steps).nodes.idxOf earlier < (build steps).nodes.idxOf node →
        order.idxOf node < order.idxOf earlier →
        ∃ root ∈ (build steps).nodes,
          (build steps).nodes.idxOf root ≤ (build steps).nodes.idxOf earlier ∧
          Relation.TransGen (build steps).Edge node root) ∧
      ((∀ before after, (build steps).Edge before after →
          (build steps).nodes.idxOf before < (build steps).nodes.idxOf after) →
        order = (build steps).nodes) := by
  have valid := build_wellFormed steps
  obtain ⟨order, found⟩ := (order_exists _ valid).mpr acyclic
  have walked := (order_eq_ok _ order).mp found
  have fills := order?_fillsFronts _ valid order walked
  have same := (order?_ordered _ valid order walked).2
  refine ⟨order, found, fills, ?_, order_eq_nodes _ valid order same fills⟩
  exact fun node earlier member inserted moved =>
    moved_needed _ order fills node earlier member inserted moved

/-- Edges that are mentioned late: 6 has to come before 5, which stands in front of 4 and 2. -/
def overtaking : List (Step Nat) :=
  [.edge 1 3, .node 5, .edge 4 2, .edge 6 5, .edge 2 7]

/-- The front part of the first three nodes has 6 in it, which overtakes 4 for the sake of 5. -/
theorem order_of_overtaking :
    (build overtaking).Acyclic ∧
      (build overtaking).nodes = [1, 3, 5, 4, 2, 6, 7] ∧
      (build overtaking).order = .ok [1, 3, 6, 5, 4, 2, 7] ∧
      (∃ front, front <+: [1, 3, 6, 5, 4, 2, 7] ∧
        ∀ node, node ∈ front ↔ (build overtaking).Needed [1, 3, 5] node) ∧
      ∃ root ∈ [1, 3, 5, 4, 2, 6, 7], [1, 3, 5, 4, 2, 6, 7].idxOf root ≤ 3 ∧
        Relation.TransGen (build overtaking).Edge 6 root := by
  have found : (build overtaking).order = .ok [1, 3, 6, 5, 4, 2, 7] := rfl
  have acyclic := (order_exists _ (build_wellFormed overtaking)).mp ⟨_, found⟩
  obtain ⟨order, again, fills, moved, _⟩ := order_stable overtaking acyclic
  obtain rfl : order = [1, 3, 6, 5, 4, 2, 7] := Except.ok.inj (again.symm.trans found)
  exact ⟨acyclic, rfl, found, fills 3, moved 6 4 (by decide) (by decide) (by decide)⟩

end FrancaAudit.Precedence
