import FrancaAudit.Check.Reporting

/-!
Names that several siblings share.
-/

namespace FrancaAudit.Check

/-- Puts the node into the group with its name. A new name opens a group behind the others. -/
def enter (name : String) (node : Node) : List (String × List Node) → List (String × List Node)
  | [] => [(name, [node])]
  | (known, nodes) :: rest =>
      if known = name then (known, nodes ++ [node]) :: rest
      else (known, nodes) :: enter name node rest

def nameGroups (items : List (String × Node)) : List (String × List Node) :=
  items.foldl (fun groups (name, node) => enter name node groups) []

def duplicateError (kind : DiagnosticKind) (what name : String) (node : Node) : Diagnostic :=
  .error kind node .name ("Duplicate " ++ what ++ " '" ++ name ++ "'")

def reportDuplicates (kind : DiagnosticKind) (what : String) (items : List (String × Node)) :
    Reporting Unit :=
  (nameGroups items).forM fun (name, nodes) =>
    if nodes.length < 2 then pure ()
    else nodes.forM fun node => report (duplicateError kind what name node)

def duplicateErrors (kind : DiagnosticKind) (what : String) (items : List (String × Node)) :
    List Diagnostic :=
  (reportDuplicates kind what items).findings

def named {α : Type} (items : List α) (name : α → String) (node : Nat → Node) :
    List (String × Node) :=
  items.zipIdx.map fun (item, index) => (name item, node index)

end FrancaAudit.Check
