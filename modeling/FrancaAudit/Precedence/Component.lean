import FrancaAudit.Precedence.Basic

/-!
The nodes that lie on cycles, found by one depth-first walk along the edges.

Nodes are numbered as they are discovered. A discovered node stays on the stack until its
component is complete, the nodes that it reaches and that reach it. Walking on from a node yields
the least number of a node on the stack that an edge leads back to; if that is no less than the
number of the node itself, the node and all above it on the stack are a component.
-/

namespace FrancaAudit.Precedence

variable {α : Type} [DecidableEq α]

structure Search (α : Type) where
  next : Nat
  number : α → Option Nat
  /-- The nodes of components not yet complete, the latest discovery first. -/
  stack : List α
  cyclic : List α

namespace Search

omit [DecidableEq α] in
def start : Search α := ⟨0, fun _ => none, [], []⟩

def discover (search : Search α) (node : α) : Search α :=
  { search with
    next := search.next + 1
    number := fun other => if other = node then some search.next else search.number other
    stack := node :: search.stack }

end Search

def popThrough (root : α) : List α → List α × List α
  | [] => ([], [])
  | node :: rest =>
      if node = root then ([node], rest)
      else
        let (component, left) := popThrough root rest
        (node :: component, left)

/-- Completes the component discovered from `root`. A component of one node has a cycle only if
the node has an edge to itself. -/
def complete (graph : Precedence α) (root : α) (search : Search α) : Search α :=
  let (component, left) := popThrough root search.stack
  { search with
    stack := left
    cyclic :=
      if 1 < component.length ∨ root ∈ graph.successors root then component ++ search.cyclic
      else search.cyclic }

structure Walk (α : Type) where
  search : Search α
  low : Nat

/-- Follows an edge. A new target is walked on from; one that is still on the stack lies on a way
back, one that has left the stack does not. -/
def follow (explore : α → Search α → Walk α) (walk : Walk α) (target : α) : Walk α :=
  match walk.search.number target with
  | none =>
      let inner := explore target walk.search
      ⟨inner.search, min walk.low inner.low⟩
  | some number =>
      if target ∈ walk.search.stack then ⟨walk.search, min walk.low number⟩ else walk

def explore (graph : Precedence α) : Nat → α → Search α → Walk α
  | 0, _, search => ⟨search, search.next⟩
  | depth + 1, node, search =>
      let walk := (graph.successors node).foldl (follow (explore graph depth))
        ⟨search.discover node, search.next⟩
      if walk.low = search.next then ⟨graph.complete node walk.search, walk.low⟩ else walk

/-- Explores a node unless it is known already. The nodes on the way to a new one are all
different, which bounds the depth. -/
def exploreNew (graph : Precedence α) (search : Search α) (node : α) : Search α :=
  match search.number node with
  | none => (graph.explore graph.nodes.length node search).search
  | some _ => search

def searched (graph : Precedence α) : Search α := graph.nodes.foldl graph.exploreNew .start

def cyclicNodes (graph : Precedence α) : List α :=
  graph.nodes.filter fun node => node ∈ graph.searched.cyclic

end FrancaAudit.Precedence
