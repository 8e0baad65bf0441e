/-!
Precedence between things: an edge from `before` to `after` says that `before` has to come first.

Things are kept in the order of their first mention, an edge mentioning its source before its
target. An edge is entered on both of its sides, so that the neighbours of a node are known in
either direction, each once and in the order of their first insertion.
-/

namespace FrancaAudit

structure Precedence (α : Type) where
  nodes : List α
  successors : α → List α
  predecessors : α → List α

namespace Precedence

variable {α : Type}

def empty : Precedence α := ⟨[], fun _ => [], fun _ => []⟩

variable [DecidableEq α]

def enlist (items : List α) (item : α) : List α :=
  if item ∈ items then items else items ++ [item]

def enter (table : α → List α) (key item : α) : α → List α :=
  fun other => if other = key then enlist (table key) item else table other

def addNode (graph : Precedence α) (node : α) : Precedence α :=
  { graph with nodes := enlist graph.nodes node }

def addEdge (graph : Precedence α) (before after : α) : Precedence α where
  nodes := enlist (enlist graph.nodes before) after
  successors := enter graph.successors before after
  predecessors := enter graph.predecessors after before

def addNodes (graph : Precedence α) (nodes : List α) : Precedence α :=
  nodes.foldl addNode graph

def addEdges (graph : Precedence α) (edges : List (α × α)) : Precedence α :=
  edges.foldl (fun graph edge => graph.addEdge edge.1 edge.2) graph

def hasNode (graph : Precedence α) (node : α) : Bool := node ∈ graph.nodes

def hasEdge (graph : Precedence α) (before after : α) : Bool := after ∈ graph.successors before

end Precedence

end FrancaAudit
