import FrancaAudit.Check.Overload
import FrancaAudit.Proofs.Check.Reporting

/-!
What the rule on overloads adds to the sink, pair by pair.
-/

namespace FrancaAudit.Check

variable (model : Model)

def pairs {α : Type} : List α → List (α × α)
  | [] => []
  | first :: rest => rest.map (fun second => (first, second)) ++ pairs rest

section Pairs

variable (id : InterfaceId) (what : String) (node : MemberRef → Node) (feature : Feature)

def pairFindings (first second : Overload) : List Diagnostic :=
  if clashing id first second then
    [ambiguityError model id what feature first.name (node first.member),
      ambiguityError model id what feature first.name (node second.member)]
  else []

theorem appends_checkPair (first second : Overload) :
    Appends (checkPair model id what node feature first second)
      (pairFindings model id what node feature first second) := by
  unfold checkPair pairFindings
  split
  · exact (appends_report _).andThen (appends_report _)
  · exact appends_nothing

def ambiguityFindings (overloads : List Overload) : List Diagnostic :=
  (pairs overloads).flatMap fun (first, second) =>
    pairFindings model id what node feature first second

theorem appends_checkAmbiguity (overloads : List Overload) :
    Appends (checkAmbiguity model id what node feature overloads)
      (ambiguityFindings model id what node feature overloads) := by
  induction overloads with
  | nil => exact appends_nothing
  | cons first rest ih =>
      rw [ambiguityFindings, pairs, List.flatMap_append, List.flatMap_map]
      exact (appends_forM _ _ _ (appends_checkPair model id what node feature first)).andThen ih

end Pairs

theorem appends_checkOverloads :
    Appends (checkOverloads model)
      (model.interfaceIds.flatMap fun id =>
        let chain := model.inheritanceSet id
        ambiguityFindings model id "method" .method .inArgs
          (overloads model chain methodOverloads) ++
        ambiguityFindings model id "broadcast" .broadcast .outArgs
          (overloads model chain broadcastOverloads)) :=
  appends_forM _ _ _ fun _ =>
    (appends_checkAmbiguity model _ _ _ _ _).andThen (appends_checkAmbiguity model _ _ _ _ _)

end FrancaAudit.Check
