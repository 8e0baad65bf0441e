import FrancaAudit.Proofs.Precedence.Emission

/-!
The walk that finds the nodes on cycles.

While the walk is under way, some nodes are open: those it has entered and not yet left, each
reaching the next. The invariant `Sound` says how the stack lies between the open nodes: an open
node reaches all that is above it, and everything on the stack reaches an open node below it.
What has left the stack leads nowhere but to what has left it too, so the component taken off the
stack is exactly a class of nodes that reach each other.
-/

namespace FrancaAudit.Precedence

variable {α : Type}

def Reaches (graph : Precedence α) (first second : α) : Prop :=
  Relation.ReflTransGen graph.Edge first second

namespace Search

def Known (search : Search α) (node : α) : Prop := search.number node ≠ none

def rank (search : Search α) (node : α) : Nat := (search.number node).getD 0

def Keeps (before after : Search α) : Prop :=
  ∀ node number, before.number node = some number → after.number node = some number

theorem keeps_trans (first second third : Search α) (left : first.Keeps second)
    (right : second.Keeps third) : first.Keeps third :=
  fun node number found => right node number (left node number found)

theorem number_eq_rank (search : Search α) (node : α) (known : search.Known node) :
    search.number node = some (search.rank node) := by
  obtain ⟨number, found⟩ := Option.ne_none_iff_exists'.mp known
  simp [rank, found]

theorem keeps_known (before after : Search α) (keeps : before.Keeps after) (node : α)
    (known : before.Known node) : after.Known node := by
  rw [Known, keeps node _ (number_eq_rank before node known)]
  exact Option.some_ne_none _

theorem keeps_rank (before after : Search α) (keeps : before.Keeps after) (node : α)
    (known : before.Known node) : after.rank node = before.rank node := by
  rw [rank, keeps node _ (number_eq_rank before node known)]
  rfl

variable [DecidableEq α]

theorem discover_number (search : Search α) (node other : α) :
    (search.discover node).number other =
      if other = node then some search.next else search.number other := rfl

theorem discover_keeps (search : Search α) (node : α) (fresh : search.number node = none) :
    search.Keeps (search.discover node) := by
  intro other number found
  rw [discover_number]
  split
  · rename_i same
    rw [same, fresh] at found
    simp at found
  · exact found

theorem discover_known (search : Search α) (node other : α) :
    (search.discover node).Known other ↔ other = node ∨ search.Known other := by
  unfold Known
  rw [discover_number]
  by_cases same : other = node <;> simp [same]

theorem discover_rank (search : Search α) (node : α) :
    (search.discover node).rank node = search.next := by
  simp [rank, discover_number]

end Search

/-- What holds of the walk while the nodes of `path` are open. -/
structure Sound (graph : Precedence α) (path : List α) (search : Search α) : Prop where
  number_lt : ∀ node number, search.number node = some number → number < search.next
  stack_known : ∀ node ∈ search.stack, search.Known node
  stack_sorted : search.stack.Pairwise fun later earlier => search.rank earlier < search.rank later
  path_subset : path ⊆ search.stack
  path_reaches : ∀ opened ∈ path, ∀ node ∈ search.stack,
    search.rank opened ≤ search.rank node → graph.Reaches opened node
  stack_reaches : ∀ node ∈ search.stack,
    ∃ opened ∈ path, search.rank opened ≤ search.rank node ∧ graph.Reaches node opened
  closed_known : ∀ node, search.Known node → node ∉ path →
    ∀ after, graph.Edge node after → search.Known after
  popped_closed : ∀ node, search.Known node → node ∉ search.stack →
    ∀ after, graph.Edge node after → search.Known after ∧ after ∉ search.stack
  cyclic_iff : ∀ node, node ∈ search.cyclic ↔
    search.Known node ∧ node ∉ search.stack ∧ graph.OnCycle node

theorem start_sound (graph : Precedence α) : graph.Sound [] .start := by
  constructor <;> simp [Search.start, Search.Known]

theorem rank_lt_next (graph : Precedence α) (path : List α) (search : Search α)
    (sound : graph.Sound path search) (node : α) (known : search.Known node) :
    search.rank node < search.next :=
  sound.number_lt node _ (Search.number_eq_rank search node known)

theorem stack_nodup (graph : Precedence α) (path : List α) (search : Search α)
    (sound : graph.Sound path search) : search.stack.Nodup := by
  refine List.Pairwise.imp ?_ sound.stack_sorted
  rintro later earlier below rfl
  exact Nat.lt_irrefl _ below

theorem popped_reaches (graph : Precedence α) (path : List α) (search : Search α)
    (sound : graph.Sound path search) (first second : α) (known : search.Known first)
    (popped : first ∉ search.stack) (reached : graph.Reaches first second) :
    search.Known second ∧ second ∉ search.stack := by
  induction reached with
  | refl => exact ⟨known, popped⟩
  | tail _ edge ih => exact sound.popped_closed _ ih.1 ih.2 _ edge

/-- The outcome of exploring a new node: the stack has grown by nodes from which no edge leads
further back than `low`, and `low` is reached from the node. -/
structure Explored (graph : Precedence α) (path : List α) (node : α) (search : Search α)
    (walk : Walk α) : Prop where
  sound : graph.Sound path walk.search
  keeps : search.Keeps walk.search
  known : walk.search.Known node
  grown : ∃ added, walk.search.stack = added ++ search.stack ∧
    ∀ found ∈ added, ∀ after ∈ search.stack, graph.Edge found after →
      walk.low ≤ search.rank after
  low_le : walk.low ≤ search.next
  low_reached : walk.low = search.next ∨
    ∃ target ∈ search.stack, search.rank target = walk.low ∧ graph.Reaches node target

/-- The walk on its way through the edges of a node, those to `seen` being behind it. -/
structure Exploring (graph : Precedence α) (path : List α) (node : α) (search : Search α)
    (seen : List α) (walk : Walk α) : Prop where
  sound : graph.Sound (node :: path) walk.search
  keeps : search.Keeps walk.search
  numbered : walk.search.number node = some search.next
  seen_known : ∀ after ∈ seen, walk.search.Known after
  seen_low : ∀ after ∈ seen, after ∈ search.stack → walk.low ≤ search.rank after
  grown : ∃ added, walk.search.stack = added ++ node :: search.stack ∧
    ∀ found ∈ added, ∀ after ∈ search.stack, graph.Edge found after →
      walk.low ≤ search.rank after
  low_le : walk.low ≤ search.next
  low_reached : walk.low = search.next ∨
    ∃ target ∈ search.stack, search.rank target = walk.low ∧ graph.Reaches node target

variable [DecidableEq α]

theorem discover_sound (graph : Precedence α) (path : List α) (search : Search α) (node : α)
    (sound : graph.Sound path search) (fresh : search.number node = none)
    (reached : ∀ opened ∈ path, graph.Reaches opened node) :
    graph.Sound (node :: path) (search.discover node) := by
  have keeps := Search.discover_keeps search node fresh
  have kept : ∀ other ∈ search.stack, (search.discover node).rank other = search.rank other :=
    fun other member => Search.keeps_rank _ _ keeps other (sound.stack_known other member)
  have below : ∀ other ∈ search.stack, search.rank other < search.next :=
    fun other member => rank_lt_next graph path search sound other (sound.stack_known other member)
  have absent : node ∉ search.stack := fun member => sound.stack_known node member fresh
  have new : ∀ other, search.Known other → other ≠ node := by
    rintro other known rfl
    exact known fresh
  -- the new node has the greatest number, so it lies above everything and before nothing
  constructor
  case number_lt =>
    intro other number found
    rw [Search.discover_number] at found
    split at found
    · obtain rfl : search.next = number := by simpa using found
      exact Nat.lt_succ_self _
    · exact Nat.lt_succ_of_lt (sound.number_lt other number found)
  case stack_known =>
    intro other member
    rw [Search.discover_known]
    exact (List.mem_cons.mp member).imp_right (sound.stack_known other)
  case stack_sorted =>
    refine List.pairwise_cons.mpr ⟨?_, ?_⟩
    · intro earlier member
      rw [Search.discover_rank, kept earlier member]
      exact below earlier member
    · refine List.Pairwise.imp_of_mem ?_ sound.stack_sorted
      intro later earlier first second ordered
      rw [kept later first, kept earlier second]
      exact ordered
  case path_subset =>
    exact List.cons_subset_cons node sound.path_subset
  case path_reaches =>
    intro opened inPath other member ordered
    rcases List.mem_cons.mp inPath with rfl | older
    · rcases List.mem_cons.mp member with rfl | lower
      · exact Relation.ReflTransGen.refl
      · rw [Search.discover_rank, kept other lower] at ordered
        exact absurd (below other lower) (Nat.not_lt.mpr ordered)
    · rcases List.mem_cons.mp member with rfl | lower
      · exact reached opened older
      · rw [kept opened (sound.path_subset older), kept other lower] at ordered
        exact sound.path_reaches opened older other lower ordered
  case stack_reaches =>
    intro other member
    rcases List.mem_cons.mp member with rfl | lower
    · exact ⟨other, List.mem_cons_self, Nat.le_refl _, Relation.ReflTransGen.refl⟩
    · obtain ⟨opened, inPath, ordered, back⟩ := sound.stack_reaches other lower
      refine ⟨opened, List.mem_cons_of_mem node inPath, ?_, back⟩
      rw [kept opened (sound.path_subset inPath), kept other lower]
      exact ordered
  case closed_known =>
    intro other known closed after edge
    rw [Search.discover_known] at known ⊢
    rw [List.mem_cons, not_or] at closed
    exact Or.inr (sound.closed_known other (known.resolve_left closed.1) closed.2 after edge)
  case popped_closed =>
    intro other known popped after edge
    rw [Search.discover_known] at known ⊢
    obtain ⟨different, left⟩ := not_or.mp (List.mem_cons.not.mp popped)
    obtain ⟨reachable, gone⟩ :=
      sound.popped_closed other (known.resolve_left different) left after edge
    exact ⟨Or.inr reachable, List.mem_cons.not.mpr (not_or.mpr ⟨new after reachable, gone⟩)⟩
  case cyclic_iff =>
    intro other
    refine (sound.cyclic_iff other).trans ?_
    rw [Search.discover_known]
    constructor
    · rintro ⟨known, popped, cycle⟩
      exact ⟨Or.inr known, List.mem_cons.not.mpr (not_or.mpr ⟨new other known, popped⟩), cycle⟩
    · rintro ⟨known, popped, cycle⟩
      obtain ⟨different, left⟩ := not_or.mp (List.mem_cons.not.mp popped)
      exact ⟨known.resolve_left different, left, cycle⟩

theorem discover_exploring (graph : Precedence α) (path : List α) (search : Search α) (node : α)
    (sound : graph.Sound path search) (fresh : search.number node = none)
    (reached : ∀ opened ∈ path, graph.Reaches opened node) :
    graph.Exploring path node search [] ⟨search.discover node, search.next⟩ where
  sound := discover_sound graph path search node sound fresh reached
  keeps := Search.discover_keeps search node fresh
  numbered := by simp [Search.discover_number]
  seen_known := by simp
  seen_low := by simp
  grown := ⟨[], rfl, by simp⟩
  low_le := Nat.le_refl _
  low_reached := Or.inl rfl

section Following

variable (graph : Precedence α) (path : List α) (node : α) (search : Search α) (seen : List α)
  (walk : Walk α) (before : graph.Sound path search)
  (state : graph.Exploring path node search seen walk)

include before state

omit [DecidableEq α] in
theorem exploring_rank (other : α) (member : other ∈ search.stack) :
    walk.search.rank other = search.rank other :=
  Search.keeps_rank _ _ state.keeps other (before.stack_known other member)

omit [DecidableEq α] before in
theorem exploring_node_rank : walk.search.rank node = search.next := by
  simp [Search.rank, state.numbered]

omit [DecidableEq α] before in
theorem exploring_above (target : α) (member : target ∈ walk.search.stack) :
    target ∈ search.stack ∨ walk.low ≤ walk.search.rank target := by
  obtain ⟨added, stack, _⟩ := state.grown
  have sorted := state.sound.stack_sorted
  rw [stack] at member sorted
  rcases List.mem_append.mp member with above | rest
  · have ordered : walk.search.rank node < walk.search.rank target :=
      (List.pairwise_append.mp sorted).2.2 target above node List.mem_cons_self
    rw [exploring_node_rank graph path node search seen walk state] at ordered
    exact Or.inr (Nat.le_trans state.low_le (Nat.le_of_lt ordered))
  · rcases List.mem_cons.mp rest with rfl | below
    · rw [exploring_node_rank graph path target search seen walk state]
      exact Or.inr state.low_le
    · exact Or.inl below

omit [DecidableEq α] before in
/-- A number below the least one so far replaces it if it belongs to a node that was on the stack
before and is reached. -/
theorem exploring_lower (number : Nat)
    (found : walk.low ≤ number ∨
      ∃ target ∈ search.stack, search.rank target = number ∧ graph.Reaches node target) :
    min walk.low number = search.next ∨
      ∃ target ∈ search.stack, search.rank target = min walk.low number ∧
        graph.Reaches node target := by
  rcases Nat.le_total walk.low number with kept | lower
  · rw [Nat.min_eq_left kept]
    exact state.low_reached
  · rw [Nat.min_eq_right lower]
    rcases found with above | reached
    · rw [Nat.le_antisymm lower above]
      exact state.low_reached
    · exact Or.inr reached

-- An edge to a known node. If the node has left the stack, no way leads back from there.
theorem follow_known (target : α) (number : Nat) (edge : graph.Edge node target)
    (explore : α → Search α → Walk α) (found : walk.search.number target = some number) :
    graph.Exploring path node search (target :: seen) (follow explore walk target) := by
  have known : walk.search.Known target := by simp [Search.Known, found]
  have rank : walk.search.rank target = number := by simp [Search.rank, found]
  have seenKnown : ∀ after ∈ target :: seen, walk.search.Known after := by
    intro after member
    rcases List.mem_cons.mp member with rfl | earlier
    · exact known
    · exact state.seen_known after earlier
  obtain ⟨added, stack, far⟩ := state.grown
  by_cases onStack : target ∈ walk.search.stack
  · -- the target waits on the stack, so its number is one that the node reaches
    have result : follow explore walk target = ⟨walk.search, min walk.low number⟩ := by
      simp [follow, found, onStack]
    have candidate : walk.low ≤ number ∨
        ∃ target ∈ search.stack, search.rank target = number ∧ graph.Reaches node target := by
      rcases exploring_above graph path node search seen walk state target onStack
        with below | above
      · refine Or.inr ⟨target, below, ?_, Relation.ReflTransGen.single edge⟩
        rw [← exploring_rank graph path node search seen walk before state target below, rank]
      · exact Or.inl (rank ▸ above)
    rw [result]
    refine ⟨state.sound, state.keeps, state.numbered, seenKnown, ?_, ⟨added, stack, ?_⟩,
      Nat.le_trans (Nat.min_le_left _ _) state.low_le,
      exploring_lower graph path node search seen walk state number candidate⟩
    · intro after member below
      rcases List.mem_cons.mp member with rfl | earlier
      · rw [← exploring_rank graph path node search seen walk before state after below, rank]
        exact Nat.min_le_right _ _
      · exact Nat.le_trans (Nat.min_le_left _ _) (state.seen_low after earlier below)
    · intro other member after below edge
      exact Nat.le_trans (Nat.min_le_left _ _) (far other member after below edge)
  · -- the target has left the stack, and nothing of what was there before the node has
    have result : follow explore walk target = walk := by simp [follow, found, onStack]
    rw [result]
    refine ⟨state.sound, state.keeps, state.numbered, seenKnown, ?_, ⟨added, stack, far⟩,
      state.low_le, state.low_reached⟩
    intro after member below
    rcases List.mem_cons.mp member with rfl | earlier
    · refine absurd ?_ onStack
      rw [stack]
      exact List.mem_append_right _ (List.mem_cons_of_mem node below)
    · exact state.seen_low after earlier below

/-- An edge to a new node, given what exploring that node does. -/
theorem follow_new (target : α) (edge : graph.Edge node target)
    (explore : α → Search α → Walk α) (fresh : walk.search.number target = none)
    (explored : graph.Explored (node :: path) target walk.search (explore target walk.search)) :
    graph.Exploring path node search (target :: seen) (follow explore walk target) := by
  have result : follow explore walk target =
      ⟨(explore target walk.search).search, min walk.low (explore target walk.search).low⟩ := by
    simp [follow, fresh]
  rw [result]
  generalize explore target walk.search = inner at explored
  obtain ⟨added, stack, far⟩ := state.grown
  obtain ⟨more, deeper, farther⟩ := explored.grown
  have onStack : ∀ after ∈ search.stack, after ∈ walk.search.stack := by
    intro after below
    rw [stack]
    exact List.mem_append_right _ (List.mem_cons_of_mem node below)
  -- what the inner walk reached may lie above the node; then its number is no improvement
  have candidate : walk.low ≤ inner.low ∨
      ∃ target ∈ search.stack, search.rank target = inner.low ∧ graph.Reaches node target := by
    rcases explored.low_reached with own | ⟨found, member, rank, reached⟩
    · have later := state.sound.number_lt node _ state.numbered
      rw [own]
      exact Or.inl (Nat.le_trans state.low_le (Nat.le_of_lt later))
    · rcases exploring_above graph path node search seen walk state found member
        with below | above
      · refine Or.inr ⟨found, below, ?_, Relation.ReflTransGen.head edge reached⟩
        rw [← exploring_rank graph path node search seen walk before state found below, rank]
      · exact Or.inl (rank ▸ above)
  refine ⟨explored.sound, Search.keeps_trans _ _ _ state.keeps explored.keeps,
    explored.keeps node _ state.numbered, ?_, ?_, ⟨more ++ added, ?_, ?_⟩,
    Nat.le_trans (Nat.min_le_left _ _) state.low_le,
    exploring_lower graph path node search seen walk state inner.low candidate⟩
  · intro after member
    rcases List.mem_cons.mp member with rfl | earlier
    · exact explored.known
    · exact Search.keeps_known _ _ explored.keeps after (state.seen_known after earlier)
  · intro after member below
    rcases List.mem_cons.mp member with rfl | earlier
    · exact absurd fresh (state.sound.stack_known after (onStack after below))
    · exact Nat.le_trans (Nat.min_le_left _ _) (state.seen_low after earlier below)
  · rw [deeper, stack, List.append_assoc]
  · intro other member after below edge
    rcases List.mem_append.mp member with newest | newer
    · have bound := farther other newest after (onStack after below) edge
      rw [exploring_rank graph path node search seen walk before state after below] at bound
      exact Nat.le_trans (Nat.min_le_right _ _) bound
    · exact Nat.le_trans (Nat.min_le_left _ _) (far other newer after below edge)

end Following

theorem popThrough_append (root : α) (above below : List α) (absent : root ∉ above) :
    popThrough root (above ++ root :: below) = (above ++ [root], below) := by
  induction above with
  | nil => simp [popThrough]
  | cons node rest ih =>
      obtain ⟨different, deeper⟩ := not_or.mp (List.mem_cons.not.mp absent)
      simp [popThrough, Ne.symm different, ih deeper]

section Leaving

variable (graph : Precedence α) (path : List α) (node : α) (search : Search α) (walk : Walk α)
  (before : graph.Sound path search)
  (reached : ∀ opened ∈ path, graph.Reaches opened node)
  (state : graph.Exploring path node search (graph.successors node) walk)

include before state

omit [DecidableEq α] before in
theorem leaving_closed (other : α) (known : walk.search.Known other) (closed : other ∉ path)
    (after : α) (edge : graph.Edge other after) : walk.search.Known after := by
  by_cases same : other = node
  · subst other
    exact state.seen_known after edge
  · exact state.sound.closed_known other known (by simp [same, closed]) after edge

omit [DecidableEq α] before in
theorem leaving_unique (added : List α) (stack : walk.search.stack = added ++ node :: search.stack) :
    (added ++ [node]).Nodup ∧ ∀ other ∈ added ++ [node], other ∉ search.stack := by
  have unique := stack_nodup graph (node :: path) walk.search state.sound
  have split : added ++ node :: search.stack = (added ++ [node]) ++ search.stack := by simp
  rw [stack, split] at unique
  obtain ⟨first, _, apart⟩ := List.nodup_append.mp unique
  exact ⟨first, fun other member below => apart other member other below rfl⟩

omit [DecidableEq α] before in
include reached in
theorem leaving_connected (added : List α)
    (stack : walk.search.stack = added ++ node :: search.stack)
    (first second : α) (left : first ∈ added ++ [node]) (right : second ∈ added ++ [node]) :
    graph.Reaches first second := by
  have onStack : ∀ other ∈ added ++ [node], other ∈ walk.search.stack := by
    intro other member
    rw [stack]
    rcases List.mem_append.mp member with above | single
    · exact List.mem_append_left _ above
    · rw [List.mem_singleton.mp single]
      exact List.mem_append_right _ List.mem_cons_self
  have toNode : graph.Reaches first node := by
    -- all on the stack reach an open node, and each open node reaches this one
    obtain ⟨opened, inPath, _, back⟩ := state.sound.stack_reaches first (onStack first left)
    rcases List.mem_cons.mp inPath with rfl | older
    · exact back
    · exact back.trans (reached opened older)
  have fromNode : graph.Reaches node second := by
    refine state.sound.path_reaches node List.mem_cons_self second (onStack second right) ?_
    have sorted := state.sound.stack_sorted
    rw [stack] at sorted
    rcases List.mem_append.mp right with above | single
    · exact Nat.le_of_lt
        ((List.pairwise_append.mp sorted).2.2 second above node List.mem_cons_self)
    · exact Nat.le_of_eq (congrArg walk.search.rank (List.mem_singleton.mp single).symm)
  exact toNode.trans fromNode

omit [DecidableEq α] in
/-- If no edge leads further back than the node itself, none leads from its component to what is
left on the stack. -/
theorem leaving_apart (root : walk.low = search.next) (added : List α)
    (far : ∀ found ∈ added, ∀ after ∈ search.stack, graph.Edge found after →
      walk.low ≤ search.rank after)
    (other : α) (member : other ∈ added ++ [node]) (after : α) (edge : graph.Edge other after) :
    after ∉ search.stack := by
  intro below
  have bound : walk.low ≤ search.rank after := by
    rcases List.mem_append.mp member with above | single
    · exact far other above after below edge
    · rw [List.mem_singleton.mp single] at edge
      exact state.seen_low after edge below
  have earlier := rank_lt_next graph path search before after (before.stack_known after below)
  omega

omit [DecidableEq α] in
include reached in
/-- Members of the component lie on a cycle if there are several of them, or an edge leads from
the only one to itself. -/
theorem leaving_onCycle (root : walk.low = search.next) (added : List α)
    (stack : walk.search.stack = added ++ node :: search.stack)
    (far : ∀ found ∈ added, ∀ after ∈ search.stack, graph.Edge found after →
      walk.low ≤ search.rank after)
    (other : α) (member : other ∈ added ++ [node]) :
    graph.OnCycle other ↔ 1 < (added ++ [node]).length ∨ node ∈ graph.successors node := by
  have connected := leaving_connected graph path node search walk reached state added stack
  obtain ⟨unique, _⟩ := leaving_unique graph path node search walk state added stack
  constructor
  · intro cycle
    by_cases several : 1 < (added ++ [node]).length
    · exact Or.inl several
    · obtain rfl : added = [] := by
        cases added with
        | nil => rfl
        | cons first rest => simp at several
      obtain rfl : other = node := by simpa using member
      obtain ⟨after, edge, back⟩ := Relation.TransGen.head'_iff.mp cycle
      -- a way around through another node would come back from outside the component
      by_cases loop : after = other
      · exact Or.inr (loop ▸ edge)
      · have left : after ∉ walk.search.stack := by
          rw [stack]
          simpa [loop] using
            leaving_apart graph path other search walk before state root [] far other member
              after edge
        have gone := popped_reaches graph _ walk.search state.sound after other
          (state.seen_known after edge) left back
        exact absurd (by simp [stack]) gone.2
  · rintro (several | loop)
    · obtain ⟨partner, inside, different⟩ : ∃ partner ∈ added ++ [node], partner ≠ other := by
        by_cases same : other = node
        -- the root needs a partner above it, every other member has the root
        · obtain ⟨first, rest, rfl⟩ : ∃ first rest, added = first :: rest :=
            List.exists_cons_of_length_pos (by simpa using several)
          refine ⟨first, by simp, ?_⟩
          rintro rfl
          simp [same] at unique
        · exact ⟨node, by simp, Ne.symm same⟩
      rcases Relation.reflTransGen_iff_eq_or_transGen.mp (connected partner other inside member)
        with same | back
      · exact absurd same.symm different
      · exact Relation.TransGen.trans_right (connected other partner member inside) back
    · have there := connected other node member (by simp)
      have back := connected node other (by simp) member
      exact Relation.TransGen.trans_right there (Relation.TransGen.head' loop back)

omit [DecidableEq α] in
/-- Once the component is off the stack, the walk is where it was before, knowing more. -/
theorem popped_sound (root : walk.low = search.next) (added : List α)
    (stack : walk.search.stack = added ++ node :: search.stack)
    (far : ∀ found ∈ added, ∀ after ∈ search.stack, graph.Edge found after →
      walk.low ≤ search.rank after)
    (marked : List α)
    (marks : ∀ other, other ∈ marked ↔
      other ∈ walk.search.cyclic ∨ (other ∈ added ++ [node] ∧ graph.OnCycle other)) :
    graph.Sound path { walk.search with stack := search.stack, cyclic := marked } := by
  have same := exploring_rank graph path node search (graph.successors node) walk before state
  have sameOpened : ∀ opened ∈ path, walk.search.rank opened = search.rank opened :=
    fun opened inPath => same opened (before.path_subset inPath)
  obtain ⟨_, apart⟩ := leaving_unique graph path node search walk state added stack
  have onStack : ∀ other, other ∈ walk.search.stack ↔
      other ∈ added ++ [node] ∨ other ∈ search.stack := by
    intro other
    simp [stack, or_assoc]
  constructor
  -- what stays on the stack was there before and keeps its rank, so much is as in `before`
  case number_lt => exact state.sound.number_lt
  case stack_known =>
    intro other below
    exact Search.keeps_known _ _ state.keeps other (before.stack_known other below)
  case stack_sorted =>
    refine List.Pairwise.imp_of_mem ?_ before.stack_sorted
    intro later earlier first second ordered
    change walk.search.rank earlier < walk.search.rank later
    rw [same later first, same earlier second]
    exact ordered
  case path_subset => exact before.path_subset
  case path_reaches =>
    intro opened inPath other below ordered
    change walk.search.rank opened ≤ walk.search.rank other at ordered
    rw [sameOpened opened inPath, same other below] at ordered
    exact before.path_reaches opened inPath other below ordered
  case stack_reaches =>
    intro other below
    obtain ⟨opened, inPath, ordered, back⟩ := before.stack_reaches other below
    refine ⟨opened, inPath, ?_, back⟩
    change walk.search.rank opened ≤ walk.search.rank other
    rw [sameOpened opened inPath, same other below]
    exact ordered
  case closed_known => exact leaving_closed graph path node search walk state
  case popped_closed =>
    intro other known popped after edge
    by_cases member : other ∈ added ++ [node]
    · -- popped just now, with its component
      have closed : other ∉ path := fun inPath => popped (before.path_subset inPath)
      exact ⟨leaving_closed graph path node search walk state other known closed after edge,
        leaving_apart graph path node search walk before state root added far other member after
          edge⟩
    · -- popped some time before
      have gone : other ∉ walk.search.stack := by
        rw [onStack]
        exact not_or.mpr ⟨member, popped⟩
      obtain ⟨reachable, left⟩ := state.sound.popped_closed other known gone after edge
      exact ⟨reachable, fun below => left ((onStack after).mpr (Or.inr below))⟩
  case cyclic_iff =>
    intro other
    refine (marks other).trans ?_
    rw [state.sound.cyclic_iff other, onStack]
    constructor
    · rintro (⟨known, popped, cycle⟩ | ⟨member, cycle⟩)
      · exact ⟨known, fun below => popped (Or.inr below), cycle⟩
      · exact ⟨state.sound.stack_known other ((onStack other).mpr (Or.inl member)),
          apart other member, cycle⟩
    · rintro ⟨known, popped, cycle⟩
      by_cases member : other ∈ added ++ [node]
      · exact Or.inr ⟨member, cycle⟩
      · exact Or.inl ⟨known, not_or.mpr ⟨member, popped⟩, cycle⟩

include reached in
/-- The node is the first of a component, which leaves the stack. -/
theorem complete_explored (root : walk.low = search.next) :
    graph.Explored path node search ⟨graph.complete node walk.search, walk.low⟩ := by
  obtain ⟨added, stack, far⟩ := state.grown
  obtain ⟨unique, _⟩ := leaving_unique graph path node search walk state added stack
  have cycles :=
    leaving_onCycle graph path node search walk before reached state root added stack far
  have absent : node ∉ added := by
    intro member
    exact (List.nodup_append.mp unique).2.2 node member node List.mem_cons_self rfl
  have popped : popThrough node walk.search.stack = (added ++ [node], search.stack) := by
    rw [stack, popThrough_append node added search.stack absent]
  simp only [complete, popped]
  refine ⟨popped_sound graph path node search walk before state root added stack far _ ?_,
    state.keeps, ?_, ⟨[], rfl, by simp⟩, state.low_le, Or.inl root⟩
  -- a component is marked as a whole or not at all
  · intro other
    split
    · rename_i cyclic
      rw [List.mem_append, or_comm]
      exact or_congr_right
        ⟨fun member => ⟨member, (cycles other member).mpr cyclic⟩, And.left⟩
    · rename_i single
      refine ⟨Or.inl, ?_⟩
      rintro (earlier | ⟨member, cycle⟩)
      · exact earlier
      · exact absurd ((cycles other member).mp cycle) single
  · simp [Search.Known, state.numbered]

omit [DecidableEq α] in
/-- The node belongs to a component that was begun before it, and stays on the stack. -/
theorem leave_explored (inner : walk.low ≠ search.next) :
    graph.Explored path node search walk := by
  obtain ⟨added, stack, far⟩ := state.grown
  obtain ⟨target, below, rank, led⟩ := state.low_reached.resolve_left inner
  have same := exploring_rank graph path node search (graph.successors node) walk before state
  obtain ⟨opener, opened, lower, back⟩ := before.stack_reaches target below
  refine ⟨{ state.sound with
      path_subset := ?_, path_reaches := ?_, stack_reaches := ?_, closed_known := ?_ },
    state.keeps, ?_, ⟨added ++ [node], by simp [stack], ?_⟩, state.low_le, state.low_reached⟩
  · exact (List.cons_subset.mp state.sound.path_subset).2
  · intro other inPath
    exact state.sound.path_reaches other (List.mem_cons_of_mem node inPath)
  · intro other member
    obtain ⟨first, inPath, ordered, reachable⟩ := state.sound.stack_reaches other member
    rcases List.mem_cons.mp inPath with rfl | older
    -- the node is no longer open, but it reaches a node below that does the same service
    · refine ⟨opener, opened, ?_, reachable.trans (led.trans back)⟩
      rw [same opener (before.path_subset opened)]
      rw [exploring_node_rank graph path first search _ walk state] at ordered
      exact Nat.le_trans lower
        (Nat.le_trans (Nat.le_of_eq rank) (Nat.le_trans state.low_le ordered))
    · exact ⟨first, older, ordered, reachable⟩
  · exact leaving_closed graph path node search walk state
  · simp [Search.Known, state.numbered]
  · intro found member after inside edge
    rcases List.mem_append.mp member with above | single
    · exact far found above after inside edge
    · rw [List.mem_singleton.mp single] at edge
      exact state.seen_low after edge inside

end Leaving

def unknown (graph : Precedence α) (search : Search α) : List α :=
  graph.nodes.filter fun node => (search.number node).isNone

omit [DecidableEq α] in
theorem mem_unknown (graph : Precedence α) (search : Search α) (node : α) :
    node ∈ graph.unknown search ↔ node ∈ graph.nodes ∧ search.number node = none := by
  simp [unknown]

omit [DecidableEq α] in
theorem unknown_shrinks (graph : Precedence α) (valid : graph.WellFormed)
    (before after : Search α) (keeps : before.Keeps after) (node : α) (member : node ∈ graph.nodes)
    (fresh : before.number node = none) (known : after.Known node) :
    (graph.unknown after).length < (graph.unknown before).length := by
  have unique : (node :: graph.unknown after).Nodup := by
    refine List.nodup_cons.mpr ⟨?_, valid.nodes_nodup.filter _⟩
    intro still
    exact known ((mem_unknown graph after node).mp still).2
  refine unique.length_le_of_subset (List.cons_subset.mpr ⟨?_, ?_⟩)
  · exact (mem_unknown graph before node).mpr ⟨member, fresh⟩
  · intro other still
    obtain ⟨inside, without⟩ := (mem_unknown graph after other).mp still
    refine (mem_unknown graph before other).mpr ⟨inside, ?_⟩
    by_contra numbered
    exact Search.keeps_known before after keeps other numbered without

theorem foldl_follow_exploring (graph : Precedence α) (path : List α) (node : α)
    (search : Search α) (before : graph.Sound path search) (explore : α → Search α → Walk α)
    (targets seen : List α) (walk : Walk α)
    (edges : ∀ target ∈ targets, graph.Edge node target)
    (explored : ∀ target ∈ targets, ∀ inner, graph.Sound (node :: path) inner →
      search.Keeps inner → inner.Known node → inner.number target = none →
      graph.Explored (node :: path) target inner (explore target inner))
    (state : graph.Exploring path node search seen walk) :
    graph.Exploring path node search (targets.reverse ++ seen)
      (targets.foldl (follow explore) walk) := by
  induction targets generalizing seen walk with
  | nil => exact state
  | cons target rest ih =>
      have edge := edges target List.mem_cons_self
      have next :
          graph.Exploring path node search (target :: seen) (follow explore walk target) := by
        cases found : walk.search.number target with
        | none =>
            refine follow_new graph path node search seen walk before state target edge explore
              found ?_
            exact explored target List.mem_cons_self walk.search state.sound state.keeps
              (by simp [Search.Known, state.numbered]) found
        | some number =>
            exact follow_known graph path node search seen walk before state target number edge
              explore found
      have result := ih (target :: seen) (follow explore walk target)
        (fun other later => edges other (List.mem_cons_of_mem target later))
        (fun other later => explored other (List.mem_cons_of_mem target later)) next
      simpa using result

-- By induction on the depth, for all walks at once: entering a node leaves fewer unknown ones, so
-- the walks along its edges have depth enough.
theorem explore_explored (graph : Precedence α) (valid : graph.WellFormed) (depth : Nat)
    (path : List α) (node : α) (search : Search α) (sound : graph.Sound path search)
    (reached : ∀ opened ∈ path, graph.Reaches opened node) (member : node ∈ graph.nodes)
    (fresh : search.number node = none) (enough : (graph.unknown search).length ≤ depth) :
    graph.Explored path node search (graph.explore depth node search) := by
  induction depth generalizing path node search with
  | zero =>
      -- the node itself is unknown, so the depth is not used up
      have new := (mem_unknown graph search node).mpr ⟨member, fresh⟩
      rw [List.eq_nil_of_length_eq_zero (Nat.le_zero.mp enough)] at new
      exact absurd new List.not_mem_nil
  | succ depth ih =>
      rw [explore]
      generalize walked : (graph.successors node).foldl (follow (graph.explore depth))
        ⟨search.discover node, search.next⟩ = walk
      have state : graph.Exploring path node search (graph.successors node) walk := by
        have start := discover_exploring graph path search node sound fresh reached
        have finish := foldl_follow_exploring graph path node search sound (graph.explore depth)
          (graph.successors node) [] _ (fun _ edge => edge) ?_ start
        · rw [walked] at finish
          exact { finish with
            seen_known := fun after edge => finish.seen_known after (by simpa using edge)
            seen_low := fun after edge => finish.seen_low after (by simpa using edge) }
        · intro target edge inner innerSound keeps known new
          refine ih (node :: path) target inner innerSound ?_ (valid.after_mem node target edge)
            new ?_
          · intro opened inPath
            rcases List.mem_cons.mp inPath with rfl | older
            · exact Relation.ReflTransGen.single edge
            · exact (reached opened older).tail edge
          · have fewer := unknown_shrinks graph valid search inner keeps node member fresh known
            omega
      -- the node opens its component, or a node below it does
      by_cases root : walk.low = search.next
      · rw [if_pos root]
        exact complete_explored graph path node search walk sound reached state root
      · rw [if_neg root]
        exact leave_explored graph path node search walk sound state root

/-- Between two roots nothing is on the stack. -/
theorem exploreNew_sound (graph : Precedence α) (valid : graph.WellFormed) (search : Search α)
    (node : α) (sound : graph.Sound [] search) (member : node ∈ graph.nodes) :
    graph.Sound [] (graph.exploreNew search node) ∧ search.Keeps (graph.exploreNew search node) ∧
      (graph.exploreNew search node).Known node := by
  unfold exploreNew
  cases found : search.number node with
  | none =>
      have explored := explore_explored graph valid graph.nodes.length [] node search sound
        (by simp) member found (List.length_filter_le _ _)
      exact ⟨explored.sound, explored.keeps, explored.known⟩
  | some number => exact ⟨sound, fun _ _ kept => kept, by simp [Search.Known, found]⟩

theorem foldl_exploreNew_sound (graph : Precedence α) (valid : graph.WellFormed)
    (nodes : List α) (inside : nodes ⊆ graph.nodes) (search : Search α)
    (sound : graph.Sound [] search) :
    graph.Sound [] (nodes.foldl graph.exploreNew search) ∧
      search.Keeps (nodes.foldl graph.exploreNew search) ∧
      ∀ node ∈ nodes, (nodes.foldl graph.exploreNew search).Known node := by
  induction nodes generalizing search with
  | nil => exact ⟨sound, fun _ _ kept => kept, by simp⟩
  | cons node rest ih =>
      obtain ⟨first, kept, known⟩ := exploreNew_sound graph valid search node sound
        (inside List.mem_cons_self)
      obtain ⟨last, keeps, others⟩ := ih (List.cons_subset.mp inside).2 _ first
      refine ⟨last, Search.keeps_trans _ _ _ kept keeps, ?_⟩
      intro other member
      rcases List.mem_cons.mp member with rfl | later
      · exact Search.keeps_known _ _ keeps other known
      · exact others other later

theorem mem_cyclicNodes (graph : Precedence α) (valid : graph.WellFormed) (node : α) :
    node ∈ graph.cyclicNodes ↔ graph.OnCycle node := by
  obtain ⟨sound, _, known⟩ := foldl_exploreNew_sound graph valid graph.nodes
    (List.Subset.refl _) .start (start_sound graph)
  have empty : ∀ other, other ∉ graph.searched.stack := by
    intro other member
    obtain ⟨opened, inPath, _⟩ := sound.stack_reaches other member
    exact absurd inPath List.not_mem_nil
  simp only [cyclicNodes, List.mem_filter, decide_eq_true_eq]
  constructor
  · rintro ⟨_, cyclic⟩
    exact ((sound.cyclic_iff node).mp cyclic).2.2
  · intro cycle
    obtain ⟨after, edge, _⟩ := Relation.TransGen.head'_iff.mp cycle
    have member := valid.before_mem node after edge
    exact ⟨member, (sound.cyclic_iff node).mpr ⟨known node member, empty node, cycle⟩⟩

theorem order_eq_error (graph : Precedence α) (cyclic : Cyclic α) :
    graph.order = .error cyclic ↔ graph.order? = none ∧ cyclic = ⟨graph.cyclicNodes⟩ := by
  unfold Precedence.order
  cases graph.order? <;> simp [eq_comm]

theorem cyclicNodes_ne_nil (graph : Precedence α) (valid : graph.WellFormed) :
    graph.cyclicNodes ≠ [] ↔ graph.order? = none := by
  constructor
  · intro some
    obtain ⟨node, member⟩ := List.exists_mem_of_ne_nil _ some
    cases found : graph.order? with
    | none => rfl
    | some order =>
        exact absurd ((mem_cyclicNodes graph valid node).mp member)
          (acyclic_of_order? graph valid order found node)
  · intro failed empty
    refine order?_eq_none graph valid failed ?_
    intro node cycle
    have member := (mem_cyclicNodes graph valid node).mpr cycle
    rw [empty] at member
    exact List.not_mem_nil member

theorem cyclicNodes_eq_nil (graph : Precedence α) (valid : graph.WellFormed) (order : List α)
    (found : graph.order = .ok order) : graph.cyclicNodes = [] := by
  by_contra some
  have failed := (cyclicNodes_ne_nil graph valid).mp some
  rw [(order_eq_ok graph order).mp found] at failed
  simp at failed

/-- Exactly the nodes that reach themselves are found, in the order of the nodes. They are the
ones named where there is no order, and where there is none, there are some. -/
theorem cyclicNodes_of_build (steps : List (Step α)) :
    (∀ node, node ∈ (build steps).cyclicNodes ↔ (build steps).OnCycle node) ∧
      (build steps).cyclicNodes.Nodup ∧
      (build steps).cyclicNodes.Sublist (build steps).nodes ∧
      ((build steps).cyclicNodes ≠ [] ↔ ∃ cyclic, (build steps).order = .error cyclic) ∧
      ∀ cyclic, (build steps).order = .error cyclic →
        cyclic.nodes = (build steps).cyclicNodes ∧ cyclic.nodes ≠ [] := by
  have valid := build_wellFormed steps
  refine ⟨mem_cyclicNodes _ valid, valid.nodes_nodup.filter _, List.filter_sublist, ?_, ?_⟩
  · simp only [cyclicNodes_ne_nil _ valid, order_eq_error, exists_and_left, exists_eq, and_true]
  · intro cyclic failed
    obtain ⟨none, rfl⟩ := (order_eq_error _ cyclic).mp failed
    exact ⟨rfl, (cyclicNodes_ne_nil _ valid).mpr none⟩

/-- Two cycles, an edge from one to the other, a way in and a way out. -/
def knots : List (Step Nat) :=
  [.node 9, .edge 1 2, .edge 2 1, .edge 2 3, .edge 3 3, .edge 4 1, .edge 3 5]

theorem cyclicNodes_of_knots :
    (build knots).order = .error ⟨[1, 2, 3]⟩ ∧
      [1, 2, 3] = (build knots).cyclicNodes ∧ [1, 2, 3] ≠ ([] : List Nat) :=
  ⟨rfl, (cyclicNodes_of_build knots).2.2.2.2 ⟨[1, 2, 3]⟩ rfl⟩

end FrancaAudit.Precedence
