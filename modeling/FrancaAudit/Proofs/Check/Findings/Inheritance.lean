import FrancaAudit.Check.Inheritance
import FrancaAudit.Proofs.Check.Reporting

/-!
What the rules on inheritance add to the sink.

The rule on inherited names passes over an interface without a base. It would find nothing there:
all members of the chain are the interface's own.
-/

namespace FrancaAudit.Check

variable (model : Model)

def baseKindFindings (id : TypeId) (definition : TypeDef) : List Diagnostic :=
  match definition.kind.base?.bind model.type? with
  | none => []
  | some base =>
      if sameKind definition.kind base.kind then [] else [baseKindError id definition base]

theorem appends_checkBaseKind (id : TypeId) (definition : TypeDef) :
    Appends (checkBaseKind model id definition) (baseKindFindings model id definition) := by
  unfold checkBaseKind baseKindFindings
  cases definition.kind.base?.bind model.type? with
  | none => exact appends_nothing
  | some base => exact appends_reportUnless _ _

def clashFindings (id : InterfaceId) (what : String) (members : List Contribution) :
    List Diagnostic :=
  (clashes id members).map (clashError model id what members)

theorem appends_checkClashes (id : InterfaceId) (what : String) (members : List Contribution) :
    Appends (checkClashes model id what members) (clashFindings model id what members) :=
  appends_reports _ _

theorem origin_of_alone (id : InterfaceId)
    (members : InterfaceId → Interface → List (String × Node)) (member : Contribution)
    (brought : member ∈ contributions model [id] members) : member.origin = id := by
  obtain ⟨origin, alone, contributed⟩ := List.mem_flatMap.mp brought
  obtain rfl := List.mem_singleton.mp alone
  dsimp only at contributed
  split at contributed
  · exact absurd contributed List.not_mem_nil
  · obtain ⟨_, _, rfl⟩ := List.mem_map.mp contributed
    rfl

theorem clashFindings_alone (id : InterfaceId) (what : String)
    (members : InterfaceId → Interface → List (String × Node)) :
    clashFindings model id what (contributions model [id] members) = [] := by
  have none : (contributions model [id] members).filter (fun member => member.origin ≠ id) = [] := by
    simpa using origin_of_alone model id members
  have noPairs : ((contributions model [id] members).filter fun member => member.origin = id).flatMap
      (fun _ => ([] : List Node)) = [] := by simp
  simp only [clashFindings, clashes, none, List.filter_nil, List.flatMap_nil, noPairs,
    distinctNodes, List.map_nil]

def inheritedNameFindings (id : InterfaceId) : List Diagnostic :=
  let chain := model.inheritanceSet id
  clashFindings model id "attribute" (contributions model chain attributeMembers) ++
  clashFindings model id "type" (contributions model chain (typeMembers model)) ++
  clashFindings model id "constant" (contributions model chain (constantMembers model))

theorem appends_checkInheritedNames (id : InterfaceId) :
    Appends (checkInheritedNames model id) (inheritedNameFindings model id) := by
  unfold checkInheritedNames inheritedNameFindings
  dsimp only
  split
  · rename_i short
    have alone : model.inheritanceSet id = [id] := by
      rw [Model.inheritanceSet, List.cons_eq_cons, ← List.length_eq_zero_iff]
      exact ⟨rfl, Nat.lt_one_iff.mp (Nat.lt_of_succ_lt_succ short)⟩
    rw [alone, clashFindings_alone, clashFindings_alone, clashFindings_alone]
    exact appends_nothing
  · rw [List.append_assoc]
    exact (appends_checkClashes model _ _ _).andThen <|
      (appends_checkClashes model _ _ _).andThen (appends_checkClashes model _ _ _)

def baseContractFindings (id : InterfaceId) : List Diagnostic :=
  if (model.contract? id).isNone then []
  else match inheritedContract? model id with
    | none => []
    | some base => [baseContractError model id base]

theorem appends_checkBaseContract (id : InterfaceId) :
    Appends (checkBaseContract model id) (baseContractFindings model id) := by
  unfold checkBaseContract baseContractFindings
  split
  · exact appends_nothing
  · cases inheritedContract? model id with
    | none => exact appends_nothing
    | some base => exact appends_report _

theorem appends_checkInheritance :
    Appends (checkInheritance model)
      ((model.types.zipIdx.flatMap fun (definition, index) =>
        baseKindFindings model ⟨index⟩ definition) ++
      (model.interfaceIds.flatMap fun id =>
        inheritedNameFindings model id ++ baseContractFindings model id)) :=
  (appends_forM _ _ _ fun _ => appends_checkBaseKind model _ _).andThen <|
    appends_forM _ _ _ fun id =>
      (appends_checkInheritedNames model id).andThen (appends_checkBaseContract model id)

end FrancaAudit.Check
