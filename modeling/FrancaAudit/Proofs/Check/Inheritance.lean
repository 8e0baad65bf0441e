import FrancaAudit.Proofs.Check.Findings.Inheritance
import FrancaAudit.Proofs.Check.Findings.Shape
import FrancaAudit.Proofs.Model.Inheritance

/-!
Names and contracts along a chain of interfaces.

One rule holds the members of an interface against each other, another holds them against those of
its ancestors. Neither looks at two ancestors. Of these one is an ancestor of the other, so that
the rules have held them against each other at the nearer one.
-/

namespace FrancaAudit

inductive MemberKind
  | attribute
  | type
  | constant
deriving DecidableEq

def MemberKind.ofNode? : Node → Option MemberKind
  | .attribute _ => some .attribute
  | .type _ => some .type
  | .constant _ => some .constant
  | _ => none

namespace Model

variable (model : Model) (kind : MemberKind)

def memberNames (id : InterfaceId) : List String :=
  match model.interface? id with
  | none => []
  | some interface =>
      match kind with
      | .attribute => interface.attributes.map (·.name)
      | .type => interface.types.map model.typeName
      | .constant =>
          interface.constants.filterMap fun constant => (model.constant? constant).map (·.name)

/-- Two members, one of each interface, have the same name only if they are the same member. -/
def Apart (first second : InterfaceId) : Prop :=
  ∀ (index other : Nat) (name : String), (model.memberNames kind first)[index]? = some name →
    (model.memberNames kind second)[other]? = some name → first = second ∧ index = other

/-- The members that an interface and its ancestors list have names of their own. -/
def ApartInChain (id : InterfaceId) : Prop :=
  ∀ first second, Relation.ReflTransGen model.Extends id first →
    Relation.ReflTransGen model.Extends id second → model.Apart kind first second

def Contracted (id : InterfaceId) : Prop :=
  ∃ interface contract, model.interface? id = some interface ∧ interface.contract = some contract

/-- At most one interface of the chain has a contract. -/
def OneContract (id : InterfaceId) : Prop :=
  ∀ first second, Relation.ReflTransGen model.Extends id first →
    Relation.ReflTransGen model.Extends id second → model.Contracted first →
    model.Contracted second → first = second

theorem contracted_iff (id : InterfaceId) : model.Contracted id ↔ (model.contract? id).isSome := by
  simp only [Contracted, Option.isSome_iff_exists, contract?, Option.bind_eq_bind,
    Option.bind_eq_some_iff]
  exact exists_comm

theorem apart_symm (first second : InterfaceId) (apart : model.Apart kind first second) :
    model.Apart kind second first := by
  intro index other name here there
  obtain ⟨same, sameIndex⟩ := apart other index name there here
  exact ⟨same.symm, sameIndex.symm⟩

theorem apart_self (id : InterfaceId) :
    model.Apart kind id id ↔ (model.memberNames kind id).Nodup := by
  rw [List.nodup_iff_getElem?_ne_getElem?]
  constructor
  · intro apart index other before bound same
    have found := List.getElem?_eq_getElem bound
    exact absurd (apart index other _ (same.trans found) found).2 (Nat.ne_of_lt before)
  · intro distinct index other name here there
    refine ⟨rfl, ?_⟩
    obtain ⟨bound, _⟩ := List.getElem?_eq_some_iff.mp here
    obtain ⟨otherBound, _⟩ := List.getElem?_eq_some_iff.mp there
    rcases Nat.lt_trichotomy index other with before | same | behind
    · exact absurd (here.trans there.symm) (distinct index other before otherBound)
    · exact same
    · exact absurd (there.trans here.symm) (distinct other index behind bound)

theorem apart_distinct (first second : InterfaceId) (distinct : first ≠ second) :
    model.Apart kind first second ↔
      List.Disjoint (model.memberNames kind first) (model.memberNames kind second) := by
  constructor
  · intro apart name here there
    obtain ⟨index, foundHere⟩ := List.getElem?_of_mem here
    obtain ⟨other, foundThere⟩ := List.getElem?_of_mem there
    exact distinct (apart index other name foundHere foundThere).1
  · intro disjoint index other name here there
    exact absurd (List.mem_of_getElem? there) (disjoint (List.mem_of_getElem? here))

theorem apartInChain_iff :
    (∀ id, model.ApartInChain kind id) ↔
      (∀ id, (model.memberNames kind id).Nodup) ∧
        ∀ id, ∀ base ∈ model.inheritanceSet id, base ≠ id →
          List.Disjoint (model.memberNames kind id) (model.memberNames kind base) := by
  simp only [ApartInChain, ← related_in_line model _ (model.apart_symm kind), mem_inheritanceSet,
    ← apart_self]
  constructor
  · intro apart
    refine ⟨fun id => apart id id .refl, fun id base path other => ?_⟩
    exact (model.apart_distinct kind id base other.symm).mp (apart id base path)
  · rintro ⟨alone, against⟩ id base path
    by_cases same : base = id
    · exact same ▸ alone id
    · exact (model.apart_distinct kind id base (Ne.symm same)).mpr (against id base path same)

theorem oneContract_iff :
    (∀ id, model.OneContract id) ↔
      ∀ id, (model.contract? id).isSome → ∀ base ∈ model.baseInterfaces id,
        (model.contract? base).isNone := by
  have inLine := related_in_line model
    (fun first second => (model.contract? first).isSome → (model.contract? second).isSome →
      first = second)
    (fun first second unique there here => (unique here there).symm)
  simp only [OneContract, contracted_iff, ← inLine, mem_baseInterfaces]
  -- any two interfaces of a chain are in line, so each is held against its ancestors only
  constructor
  · rintro unique id contract base ⟨other, path⟩
    cases found : model.contract? base with
    | none => rfl
    | some inherited =>
        have same := unique id base path.to_reflTransGen contract (Option.isSome_of_eq_some found)
        exact absurd same.symm other
  · intro none id base path contract inherited
    rcases Relation.reflTransGen_iff_eq_or_transGen.mp path with same | longer
    · exact same.symm
    · by_contra other
      have absent := none id contract base ⟨Ne.symm other, longer⟩
      rw [Option.isNone_iff_eq_none.mp absent] at inherited
      exact absurd inherited (by simp)

end Model

namespace Check

variable (model : Model) (kind : MemberKind)

def membersOf (id : InterfaceId) (interface : Interface) : List (String × Node) :=
  match kind with
  | .attribute => attributeMembers id interface
  | .type => typeMembers model id interface
  | .constant => constantMembers model id interface

theorem names_membersOf (id : InterfaceId) (interface : Interface)
    (found : model.interface? id = some interface) :
    (membersOf model kind id interface).map (·.1) = model.memberNames kind id := by
  match kind with
  | .attribute =>
      simp only [Model.memberNames, found]
      exact map_named interface.attributes (·.name) fun index => .attribute ⟨id, index⟩
  | .type => simp [membersOf, typeMembers, Model.memberNames, found]
  | .constant =>
      simp [membersOf, constantMembers, Model.memberNames, found, List.map_filterMap,
        Function.comp_def]

theorem ofNode_membersOf (id : InterfaceId) (interface : Interface) (item : String × Node)
    (member : item ∈ membersOf model kind id interface) :
    MemberKind.ofNode? item.2 = some kind := by
  match kind with
  | .attribute =>
      obtain ⟨⟨_, index⟩, _, rfl⟩ := List.mem_map.mp member
      rfl
  | .type =>
      obtain ⟨type, _, rfl⟩ := List.mem_map.mp member
      rfl
  | .constant =>
      obtain ⟨constant, _, made⟩ := List.mem_filterMap.mp member
      obtain ⟨definition, _, rfl⟩ := Option.map_eq_some_iff.mp made
      rfl

def NoNameError (findings : List Diagnostic) : Prop :=
  ∀ finding ∈ findings, ¬ (finding.feature = .name ∧ MemberKind.ofNode? finding.node = some kind)

@[simp]
theorem noNameError_nil : NoNameError kind [] := by simp [NoNameError]

@[simp]
theorem noNameError_cons (finding : Diagnostic) (rest : List Diagnostic) :
    NoNameError kind (finding :: rest) ↔
      ¬ (finding.feature = .name ∧ MemberKind.ofNode? finding.node = some kind) ∧
        NoNameError kind rest := by
  simp only [NoNameError, List.forall_mem_cons]

@[simp]
theorem noNameError_append (first second : List Diagnostic) :
    NoNameError kind (first ++ second) ↔ NoNameError kind first ∧ NoNameError kind second := by
  simp only [NoNameError, List.forall_mem_append]

@[simp]
theorem noNameError_flatMap {α : Type} (items : List α) (findings : α → List Diagnostic) :
    NoNameError kind (items.flatMap findings) ↔
      ∀ item ∈ items, NoNameError kind (findings item) := by
  simp only [NoNameError, List.forall_mem_flatMap]

theorem noNameError_about (about : MemberKind) (findings : List Diagnostic)
    (named : ∀ finding ∈ findings,
      finding.feature = .name ∧ MemberKind.ofNode? finding.node = some about) :
    NoNameError kind findings ↔ (about = kind → findings = []) := by
  constructor
  · rintro quiet rfl
    exact List.eq_nil_iff_forall_not_mem.mpr fun finding member =>
      quiet finding member (named finding member)
  · rintro empty finding member ⟨_, node⟩
    have same : about = kind := Option.some.inj ((named finding member).2.symm.trans node)
    rw [empty same] at member
    exact absurd member List.not_mem_nil

theorem noNameError_duplicates (what : String) (items : List (String × Node))
    (foreign : ∀ item ∈ items, MemberKind.ofNode? item.2 = none) :
    NoNameError kind (duplicateShapeErrors what items) := by
  intro finding reported
  rw [duplicateShapeErrors, duplicateErrors_eq] at reported
  obtain ⟨item, shared, rfl⟩ := List.mem_map.mp reported
  rintro ⟨_, node⟩
  exact absurd ((foreign item (duplicates_subset items shared)).symm.trans node) (by simp)

theorem ofNode_namedArguments (id : InterfaceId) (operation : Operation) (direction : Direction)
    (arguments : List Argument) (item : String × Node)
    (member : item ∈ namedArguments id operation direction arguments) :
    MemberKind.ofNode? item.2 = none := by
  obtain ⟨_, _, rfl⟩ := List.mem_map.mp member
  rfl

theorem noNameError_crossDuplicates (inward outward : List (String × Node))
    (inside : ∀ item ∈ inward, MemberKind.ofNode? item.2 = none)
    (outside : ∀ item ∈ outward, MemberKind.ofNode? item.2 = none) :
    NoNameError kind (crossDuplicates inward outward) := by
  simp only [crossDuplicates, noNameError_flatMap]
  intro item member
  split
  · exact noNameError_nil kind
  · rename_i name node found
    have here := inside (name, node) (List.mem_of_find?_eq_some found)
    simp [crossError, shapeError, Diagnostic.error, here, outside item member]

theorem noNameError_fireAndForgetErrors (node : Node) (method : Method) :
    NoNameError kind (fireAndForgetErrors node method) := by
  unfold fireAndForgetErrors
  repeat' split
  all_goals simp [shapeError, Diagnostic.error]

theorem noNameError_errorCodeDuplicates (node : Node) (seen : List String)
    (enumerators : List (Enumerator × Nat)) :
    NoNameError kind (errorCodeDuplicates node seen enumerators) := by
  induction enumerators generalizing seen with
  | nil => exact noNameError_nil kind
  | cons item rest ih =>
      simp only [errorCodeDuplicates]
      split
      · simp [ih, errorCodeError, shapeError, Diagnostic.error, Diagnostic.atIndex]
      · exact ih _

theorem noNameError_methodFindings (id : InterfaceId) (index : Nat) (method : Method) :
    NoNameError kind (methodFindings id index method) := by
  have own (direction : Direction) (arguments : List Argument) :=
    ofNode_namedArguments id (.method index) direction arguments
  simp only [methodFindings, noNameError_append]
  exact ⟨⟨⟨⟨noNameError_duplicates kind _ _ (own .input method.inArgs),
    noNameError_duplicates kind _ _ (own .output method.outArgs)⟩,
    noNameError_crossDuplicates kind _ _ (own .input method.inArgs) (own .output method.outArgs)⟩,
    noNameError_fireAndForgetErrors kind _ method⟩, noNameError_errorCodeDuplicates kind _ _ _⟩

theorem noNameError_interfaceFindings (id : InterfaceId) (interface : Interface)
    (found : model.interface? id = some interface) :
    NoNameError kind (interfaceFindings model id interface) ↔
      (model.memberNames kind id).Nodup := by
  have grouped (about : MemberKind) (what : String) :
      NoNameError kind (duplicateShapeErrors what (membersOf model about id interface)) ↔
        (about = kind → (model.memberNames about id).Nodup) := by
    rw [noNameError_about kind about, duplicateShapeErrors, duplicateErrors_eq,
      List.map_eq_nil_iff, duplicates_eq_nil, names_membersOf model about id interface found]
    intro finding reported
    rw [duplicateShapeErrors, duplicateErrors_eq] at reported
    obtain ⟨item, shared, rfl⟩ := List.mem_map.mp reported
    exact ⟨rfl, ofNode_membersOf model about id interface item (duplicates_subset _ shared)⟩
  have methods : NoNameError kind
      (interface.methods.zipIdx.flatMap fun item => methodFindings id item.2 item.1) :=
    (noNameError_flatMap kind _ _).mpr fun item _ =>
      noNameError_methodFindings kind id item.2 item.1
  have broadcasts : NoNameError kind
      (interface.broadcasts.zipIdx.flatMap fun item => duplicateShapeErrors "argument name"
        (namedArguments id (.broadcast item.2) .output item.1.outArgs)) :=
    (noNameError_flatMap kind _ _).mpr fun item _ =>
      noNameError_duplicates kind _ _ (ofNode_namedArguments id (.broadcast item.2) .output _)
  have split : interfaceFindings model id interface =
      duplicateShapeErrors "type name" (membersOf model .type id interface) ++
      duplicateShapeErrors "constant name" (membersOf model .constant id interface) ++
      duplicateShapeErrors "attribute name" (membersOf model .attribute id interface) ++
      (interface.methods.zipIdx.flatMap fun item => methodFindings id item.2 item.1) ++
      (interface.broadcasts.zipIdx.flatMap fun item => duplicateShapeErrors "argument name"
        (namedArguments id (.broadcast item.2) .output item.1.outArgs)) :=
    (appends_checkInterface model id interface).findings_eq
  simp only [split, noNameError_append, methods, broadcasts, and_true, grouped]
  cases kind <;> simp

theorem mem_distinctNodes (nodes : List Node) (node : Node) :
    node ∈ distinctNodes nodes ↔ node ∈ nodes := by
  induction nodes with
  | nil => simp [distinctNodes]
  | cons first rest ih =>
      simp only [distinctNodes, List.mem_cons, List.mem_filter, ih, decide_eq_true_eq]
      by_cases same : node = first
      · simp [same]
      · simp [same]

theorem mem_contributions (chain : List InterfaceId) (member : Contribution) :
    member ∈ contributions model chain (membersOf model kind) ↔
      member.origin ∈ chain ∧ ∃ interface, model.interface? member.origin = some interface ∧
        (member.name, member.node) ∈ membersOf model kind member.origin interface := by
  simp only [contributions, List.mem_flatMap]
  constructor
  · rintro ⟨origin, inherited, brought⟩
    cases found : model.interface? origin with
    | none => simp [found] at brought
    | some interface =>
        simp only [found, List.mem_map] at brought
        obtain ⟨⟨name, node⟩, listed, rfl⟩ := brought
        exact ⟨inherited, interface, found, listed⟩
  · rintro ⟨inherited, interface, found, listed⟩
    refine ⟨member.origin, inherited, ?_⟩
    simp only [found, List.mem_map]
    exact ⟨_, listed, rfl⟩

theorem contributed_iff (chain : List InterfaceId) (origin : InterfaceId) (name : String) :
    (∃ member ∈ contributions model chain (membersOf model kind),
      member.origin = origin ∧ member.name = name) ↔
      origin ∈ chain ∧ name ∈ model.memberNames kind origin := by
  constructor
  · rintro ⟨member, brought, rfl, rfl⟩
    obtain ⟨inherited, interface, found, listed⟩ := (mem_contributions model kind _ _).mp brought
    rw [← names_membersOf model kind _ interface found]
    exact ⟨inherited, List.mem_map_of_mem listed⟩
  · rintro ⟨inherited, member⟩
    cases found : model.interface? origin with
    | none => simp [Model.memberNames, found] at member
    | some interface =>
        rw [← names_membersOf model kind origin interface found] at member
        obtain ⟨⟨name, node⟩, listed, rfl⟩ := List.mem_map.mp member
        exact ⟨⟨name, origin, node⟩,
          (mem_contributions model kind _ _).mpr ⟨inherited, interface, found, listed⟩, rfl, rfl⟩

theorem mem_clashes (id : InterfaceId) (members : List Contribution) (node : Node) :
    node ∈ clashes id members ↔
      ∃ own ∈ members, own.origin = id ∧ ∃ other ∈ members, other.origin ≠ id ∧
        other.name = own.name ∧ (node = own.node ∨ node = other.node) := by
  simp only [clashes, mem_distinctNodes, List.mem_flatMap, List.mem_filter, decide_eq_true_eq,
    List.mem_cons, List.not_mem_nil, or_false, and_assoc]

theorem clashes_eq_nil (id : InterfaceId) (members : List Contribution) :
    clashes id members = [] ↔
      ∀ own ∈ members, own.origin = id → ∀ other ∈ members, other.origin ≠ id →
        other.name ≠ own.name := by
  simp only [List.eq_nil_iff_forall_not_mem, mem_clashes]
  constructor
  · exact fun none own member here other otherMember there same =>
      none own.node ⟨own, member, here, other, otherMember, there, same, Or.inl rfl⟩
  · rintro distinct _ ⟨own, member, here, other, otherMember, there, same, _⟩
    exact distinct own member here other otherMember there same

theorem noNameError_clashFindings (about : MemberKind) (id : InterfaceId) (what : String) :
    NoNameError kind (clashFindings model id what
      (contributions model (model.inheritanceSet id) (membersOf model about))) ↔
      (about = kind → ∀ base ∈ model.inheritanceSet id, base ≠ id →
        List.Disjoint (model.memberNames about id) (model.memberNames about base)) := by
  rw [noNameError_about kind about, clashFindings, List.map_eq_nil_iff, clashes_eq_nil]
  · refine imp_congr_right fun _ => ?_
    constructor
    · intro distinct base inherited foreign name here there
      obtain ⟨own, member, ownHere, rfl⟩ := (contributed_iff model about _ id name).mpr
        ⟨List.mem_cons_self, here⟩
      obtain ⟨other, otherMember, rfl, same⟩ := (contributed_iff model about _ base own.name).mpr
        ⟨inherited, there⟩
      exact distinct own member ownHere other otherMember foreign same
    · rintro disjoint own member rfl other otherMember foreign same
      have here := (contributed_iff model about _ _ _).mp ⟨own, member, rfl, rfl⟩
      have there := (contributed_iff model about _ _ _).mp ⟨other, otherMember, rfl, same⟩
      exact disjoint _ there.1 foreign here.2 there.2
  · intro finding reported
    obtain ⟨node, clashing, rfl⟩ := List.mem_map.mp reported
    refine ⟨rfl, ?_⟩
    -- both members of a clash are reported, and both are of the kind
    obtain ⟨own, member, _, other, otherMember, _, _, rfl | rfl⟩ := (mem_clashes _ _ _).mp clashing
    · obtain ⟨_, interface, _, listed⟩ := (mem_contributions model about _ _).mp member
      exact ofNode_membersOf model about _ interface _ listed
    · obtain ⟨_, interface, _, listed⟩ := (mem_contributions model about _ _).mp otherMember
      exact ofNode_membersOf model about _ interface _ listed

theorem noNameError_inheritedNameFindings (id : InterfaceId) :
    NoNameError kind (inheritedNameFindings model id) ↔
      ∀ base ∈ model.inheritanceSet id, base ≠ id →
        List.Disjoint (model.memberNames kind id) (model.memberNames kind base) := by
  let brought (about : MemberKind) : List Contribution :=
    contributions model (model.inheritanceSet id) (membersOf model about)
  have split : inheritedNameFindings model id =
      clashFindings model id "attribute" (brought .attribute) ++
      clashFindings model id "type" (brought .type) ++
      clashFindings model id "constant" (brought .constant) := rfl
  simp only [split, brought, noNameError_append, noNameError_clashFindings]
  cases kind <;> simp

theorem noNameError_baseKindFindings (id : TypeId) (definition : TypeDef) :
    NoNameError kind (baseKindFindings model id definition) := by
  unfold baseKindFindings
  repeat' split
  all_goals simp [baseKindError, inheritanceError, Diagnostic.error]

theorem noNameError_baseContractFindings (id : InterfaceId) :
    NoNameError kind (baseContractFindings model id) := by
  unfold baseContractFindings
  repeat' split
  all_goals simp [baseContractError, inheritanceError, Diagnostic.error]

theorem noNameError_inheritanceFindings :
    NoNameError kind (inheritanceFindings model) ↔
      ∀ id, ∀ base ∈ model.inheritanceSet id, base ≠ id →
        List.Disjoint (model.memberNames kind id) (model.memberNames kind base) := by
  rw [inheritanceFindings, (appends_checkInheritance model).findings_eq]
  simp only [noNameError_append, noNameError_flatMap, noNameError_baseKindFindings,
    noNameError_baseContractFindings, noNameError_inheritedNameFindings, and_true, implies_true,
    true_and]
  constructor
  · intro apart id
    by_cases known : id ∈ model.interfaceIds
    · exact apart id known
    · -- what is no interface lists nothing
      rw [Model.mem_interfaceIds, Option.not_isSome_iff_eq_none] at known
      intro base _ _
      simp [Model.memberNames, known]
  · exact fun apart id _ => apart id

def NoContractError (findings : List Diagnostic) : Prop :=
  ∀ finding ∈ findings, finding.feature ≠ .contract

theorem noContractError_baseContractFindings (id : InterfaceId) :
    NoContractError (baseContractFindings model id) ↔ ((model.contract? id).isSome →
      ∀ base ∈ model.baseInterfaces id, (model.contract? base).isNone) := by
  unfold baseContractFindings inheritedContract?
  cases own : model.contract? id with
  | none => simp [NoContractError]
  | some contract =>
      cases nearest : (model.baseInterfaces id).find? fun base => (model.contract? base).isSome with
      | none =>
          have bare := List.find?_eq_none.mp nearest
          simpa [NoContractError] using bare
      | some base =>
          have member := List.mem_of_find?_eq_some nearest
          have inherited : (model.contract? base).isSome := by
            simpa using List.find?_some nearest
          have refuted : ¬ ∀ base ∈ model.baseInterfaces id, (model.contract? base).isNone := by
            intro bare
            have absent := bare base member
            simp [Option.isNone_iff_eq_none.mp absent] at inherited
          simp only [NoContractError, baseContractError, inheritanceError, Diagnostic.error]
          simpa using refuted

theorem noContractError_clashFindings (id : InterfaceId) (what : String)
    (members : List Contribution) : NoContractError (clashFindings model id what members) := by
  simp [NoContractError, clashFindings, clashError, inheritanceError, Diagnostic.error]

theorem noContractError_baseKindFindings (id : TypeId) (definition : TypeDef) :
    NoContractError (baseKindFindings model id definition) := by
  unfold baseKindFindings
  repeat' split
  all_goals simp [NoContractError, baseKindError, inheritanceError, Diagnostic.error]

theorem noContractError_inheritanceFindings :
    NoContractError (inheritanceFindings model) ↔
      ∀ id, (model.contract? id).isSome → ∀ base ∈ model.baseInterfaces id,
        (model.contract? base).isNone := by
  have types : ∀ item ∈ model.types.zipIdx,
      NoContractError (baseKindFindings model ⟨item.2⟩ item.1) :=
    fun item _ => noContractError_baseKindFindings model ⟨item.2⟩ item.1
  have names (id : InterfaceId) : NoContractError (inheritedNameFindings model id) := by
    simp only [inheritedNameFindings, NoContractError, List.forall_mem_append]
    exact ⟨⟨noContractError_clashFindings model id _ _, noContractError_clashFindings model id _ _⟩,
      noContractError_clashFindings model id _ _⟩
  calc NoContractError (inheritanceFindings model)
    _ ↔ ∀ id ∈ model.interfaceIds, NoContractError (baseContractFindings model id) := by
        rw [inheritanceFindings, (appends_checkInheritance model).findings_eq]
        simp only [NoContractError, List.forall_mem_append, List.forall_mem_flatMap] at types names ⊢
        exact ⟨fun quiet id known => (quiet.2 id known).2,
          fun quiet => ⟨types, fun id known => ⟨names id, quiet id known⟩⟩⟩
    _ ↔ _ := by
        simp only [noContractError_baseContractFindings]
        constructor
        · intro bare id contract
          -- only an interface has a contract
          have known : id ∈ model.interfaceIds := by
            rw [Model.mem_interfaceIds]
            exact Option.isSome_of_isSome_bind contract
          exact bare id known contract
        · exact fun bare id _ => bare id

/-- Over a whole model, members of one chain of interfaces share no name if and only if nothing is
reported about the names of single interfaces and of interfaces and their ancestors, and a chain has
one contract at most if and only if nothing is reported about contracts. -/
theorem chains_apart_iff :
    (∀ kind, (∀ id interface, model.interface? id = some interface →
        NoNameError kind (interfaceFindings model id interface)) ∧
      NoNameError kind (inheritanceFindings model) ↔ ∀ id, model.ApartInChain kind id) ∧
    (NoContractError (inheritanceFindings model) ↔ ∀ id, model.OneContract id) := by
  constructor
  · intro kind
    rw [noNameError_inheritanceFindings, Model.apartInChain_iff]
    refine and_congr_left fun _ => ?_
    constructor
    · intro quiet id
      cases found : model.interface? id with
      | none => simp [Model.memberNames, found]
      | some interface =>
          exact (noNameError_interfaceFindings model kind id interface found).mp
            (quiet id interface found)
    · exact fun distinct id interface found =>
        (noNameError_interfaceFindings model kind id interface found).mpr (distinct id)
  · rw [noContractError_inheritanceFindings, Model.oneContract_iff]

end Check

end FrancaAudit
