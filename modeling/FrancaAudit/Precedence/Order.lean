import FrancaAudit.Precedence.Component

/-!
Orders that respect a precedence.

The order is a depth-first walk towards the predecessors of each node; a node is emitted after all
of them. The walk fails as soon as it comes back to a node that is still on its path. The nodes on
cycles are then found on their own.
-/

namespace FrancaAudit.Precedence

variable {α : Type} [DecidableEq α]

/-- Emits `node` behind `done`, after its predecessors; `path` are the nodes waiting for it. -/
def emit (graph : Precedence α) : Nat → List α → List α → α → Option (List α)
  | 0, _, _, _ => none
  | fuel + 1, path, done, node =>
      if node ∈ done then some done
      else if node ∈ path then none
      else do
        let done ← (graph.predecessors node).foldlM (emit graph fuel (node :: path)) done
        return done ++ [node]

/-- Every node once, each before all that has to come after it; none if there is a cycle. A path
repeats no node, so it is never longer than the list of nodes. -/
def order? (graph : Precedence α) : Option (List α) :=
  graph.nodes.foldlM (graph.emit (graph.nodes.length + 1) []) []

structure Cyclic (α : Type) where
  nodes : List α

omit [DecidableEq α] in
def Cyclic.message (cyclic : Cyclic α) : String :=
  "graph contains a cycle through " ++ toString cyclic.nodes.length ++ " node(s)"

def order (graph : Precedence α) : Except (Cyclic α) (List α) :=
  match graph.order? with
  | some order => .ok order
  | none => .error ⟨graph.cyclicNodes⟩

end FrancaAudit.Precedence
