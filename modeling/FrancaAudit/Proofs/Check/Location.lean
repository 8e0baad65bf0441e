import FrancaAudit.Proofs.Check.Behaviour
import FrancaAudit.Proofs.Check.Builtin
import FrancaAudit.Proofs.Check.Dependency
import FrancaAudit.Proofs.Check.Inheritance
import FrancaAudit.Proofs.Check.Overload
import FrancaAudit.Proofs.Check.Visibility
import FrancaAudit.Proofs.Model.Node

/-!
Where findings stand.

Each rule is shown to report errors only, at elements that the model mentions. A rule arrives at its
elements by walking over the model, so the element is there; the one exception are the types that a
container lists, whose names are compared without a look at the type. In a linked model these exist
as well.
-/

namespace FrancaAudit

/-- The model has the element, or a reference stored in it names the type. -/
inductive Model.Mentions (model : Model) : Node → Prop
  | element (node : Node) (has : model.HasNode node) : Mentions model node
  | type (id : TypeId) (stored : model.Stores (.type id)) : Mentions model (.type id)

theorem Model.hasNode_of_mentions (model : Model) (linked : model.Linked) (node : Node)
    (mentioned : model.Mentions node) : model.HasNode node := by
  cases mentioned with
  | element node has => exact has
  | type id stored => exact model.knows_of_stores linked _ stored

namespace Check

variable (model : Model)

theorem errorsAt_mentioned (findings : List Diagnostic)
    (errors : ErrorsAt model.HasNode findings) : ErrorsAt model.Mentions findings :=
  fun finding reported => ⟨(errors finding reported).1, .element _ (errors finding reported).2⟩

theorem errorsAt_dependencyFindings : ErrorsAt model.HasNode (dependencyFindings model) := by
  rw [dependencyFindings, (appends_checkDependencies model).findings_eq, errorsAt_append,
    errorsAt_map, errorsAt_map]
  constructor
  · intro id cyclic
    obtain ⟨target, step, _⟩ := Relation.TransGen.head'_iff.mp ((mem_cyclicTypes model id).mp cyclic)
    exact ⟨rfl, dependsOn_source model id target step⟩
  · intro id cyclic
    obtain ⟨base, ⟨interface, known, _⟩, _⟩ :=
      Relation.TransGen.head'_iff.mp ((mem_cyclicInterfaces model id).mp cyclic)
    exact ⟨rfl, Option.isSome_of_eq_some known⟩

theorem errorsAt_topLevelNames : ErrorsAt model.HasNode (topLevelNames model) := by
  refine errorsAt_duplicateErrors _ _ _ _ ?_
  rw [List.forall_mem_append, forall_named, forall_named]
  exact ⟨fun _ _ located => Option.isSome_of_eq_some located,
    fun _ _ located => Option.isSome_of_eq_some located⟩

theorem errorsAt_definitionNames (types : List TypeId) (constants : List ConstantId)
    (mentioned : ∀ id ∈ types, model.Mentions (.type id)) :
    ErrorsAt model.Mentions (definitionNames model types constants) := by
  rw [definitionNames, errorsAt_append]
  constructor
  · exact errorsAt_duplicateErrors _ _ _ _ (List.forall_mem_map.mpr mentioned)
  · refine errorsAt_duplicateErrors _ _ _ _ fun item listed => ?_
    obtain ⟨id, _, made⟩ := List.mem_filterMap.mp listed
    obtain ⟨definition, found, rfl⟩ := Option.map_eq_some_iff.mp made
    exact .element _ (Option.isSome_of_eq_some found)

theorem errorsAt_crossDuplicates (holds : Node → Prop) (inward outward : List (String × Node))
    (ofInward : ∀ item ∈ inward, holds item.2) (ofOutward : ∀ item ∈ outward, holds item.2) :
    ErrorsAt holds (crossDuplicates inward outward) := by
  rw [crossDuplicates, errorsAt_flatMap]
  rintro ⟨name, outNode⟩ listed
  cases found : inward.find? fun item => item.1 = name with
  | none => simp [found]
  | some item =>
      have inside := ofInward item (List.mem_of_find?_eq_some found)
      simp [found, crossError, shapeError, Diagnostic.error, inside, ofOutward _ listed]

theorem errorsAt_fireAndForgetErrors (node : Node) (method : Method) :
    ErrorsAt (· = node) (fireAndForgetErrors node method) := by
  unfold fireAndForgetErrors
  split_ifs <;> simp [shapeError, Diagnostic.error]

theorem errorsAt_errorCodeDuplicates (node : Node) (items : List (Enumerator × Nat))
    (seen : List String) : ErrorsAt (· = node) (errorCodeDuplicates node seen items) := by
  induction items generalizing seen with
  | nil => simp [errorCodeDuplicates]
  | cons item rest ih =>
      rw [errorCodeDuplicates]
      split_ifs
      · exact (errorsAt_cons ..).mpr ⟨⟨rfl, rfl⟩, ih seen⟩
      · exact ih _

theorem errorsAt_here (holds : Node → Prop) (node : Node) (here : holds node)
    (findings : List Diagnostic) (errors : ErrorsAt (· = node) findings) :
    ErrorsAt holds findings := by
  intro finding reported
  obtain ⟨grave, same⟩ := errors finding reported
  exact ⟨grave, same ▸ here⟩

theorem errorsAt_methodFindings (id : InterfaceId) (index : Nat) (method : Method)
    (found : model.method? ⟨id, index⟩ = some method) :
    ErrorsAt model.HasNode (methodFindings id index method) := by
  have here : model.HasNode (.method ⟨id, index⟩) := Option.isSome_of_eq_some found
  have inward : ∀ item ∈ namedArguments id (.method index) .input method.inArgs,
      model.HasNode item.2 :=
    (forall_named ..).mpr fun place argument located => by
      simp [Model.HasNode, Model.argument?, found, located]
  have outward : ∀ item ∈ namedArguments id (.method index) .output method.outArgs,
      model.HasNode item.2 :=
    (forall_named ..).mpr fun place argument located => by
      simp [Model.HasNode, Model.argument?, found, located]
  simp only [methodFindings, errorsAt_append]
  exact ⟨⟨⟨⟨errorsAt_duplicateErrors _ _ _ _ inward, errorsAt_duplicateErrors _ _ _ _ outward⟩,
    errorsAt_crossDuplicates _ _ _ inward outward⟩,
    errorsAt_here _ _ here _ (errorsAt_fireAndForgetErrors _ method)⟩,
    errorsAt_here _ _ here _ (errorsAt_errorCodeDuplicates _ _ [])⟩

theorem errorsAt_interfaceFindings (id : InterfaceId) (interface : Interface)
    (known : model.interface? id = some interface) :
    ErrorsAt model.Mentions (interfaceFindings model id interface) := by
  rw [interfaceFindings, (appends_checkInterface model id interface).findings_eq]
  simp only [errorsAt_append, errorsAt_flatMap, Prod.forall, List.mk_mem_zipIdx_iff_getElem?]
  refine ⟨⟨⟨?_, ?_⟩, ?_⟩, ?_⟩
  · exact errorsAt_definitionNames model _ _ fun type listed =>
      .type type (.interfaceType interface type (List.mem_of_getElem? known) listed)
  · refine errorsAt_mentioned model _ (errorsAt_duplicateErrors _ _ _ _ ?_)
    refine (forall_named ..).mpr fun index item located => ?_
    simp [Model.HasNode, Model.attribute?, known, located]
  · intro method index located
    refine errorsAt_mentioned model _ (errorsAt_methodFindings model id index method ?_)
    simp [Model.method?, known, located]
  · intro broadcast index located
    refine errorsAt_mentioned model _ (errorsAt_duplicateErrors _ _ _ _ ?_)
    refine (forall_named ..).mpr fun place argument inside => ?_
    simp [Model.HasNode, Model.argument?, Model.broadcast?, known, located, inside]

theorem errorsAt_emptyTypeFindings (node : Node) (kind : TypeKind) :
    ErrorsAt (· = node) (emptyTypeFindings node kind) := by
  cases kind <;> simp only [emptyTypeFindings, errorsAt_nil] <;> split_ifs <;>
    simp [shapeError, Diagnostic.error]

theorem errorsAt_typeFindings (id : TypeId) (definition : TypeDef)
    (found : model.type? id = some definition) :
    ErrorsAt model.HasNode (typeFindings id definition) := by
  simp only [typeFindings, errorsAt_append]
  refine ⟨⟨?_, ?_⟩, ?_⟩
  · exact errorsAt_here _ _ (Option.isSome_of_eq_some found) _ (errorsAt_emptyTypeFindings _ _)
  · refine errorsAt_duplicateErrors _ _ _ _ ((forall_named ..).mpr fun index item located => ?_)
    simp [Model.HasNode, Model.enumerator?, found, located]
  · refine errorsAt_duplicateErrors _ _ _ _ ((forall_named ..).mpr fun index item located => ?_)
    simp [Model.HasNode, Model.field?, found, located]

theorem errorsAt_annotationFindings : ErrorsAt model.HasNode (annotationFindings model) := by
  simp only [annotationFindings, errorsAt_flatMap, Prod.forall]
  intro site listed item index _
  have has := model.annotatableSites_hasNode site (List.mem_filter.mp listed).1
  split_ifs <;> simp [tagError, Diagnostic.error, Diagnostic.atIndex, Diagnostic.withSpan, has]

theorem errorsAt_typeFindingsOf : ErrorsAt model.HasNode (typeFindingsOf model) := by
  rw [typeFindingsOf, (appends_checkTypes model).findings_eq]
  simp only [errorsAt_append, errorsAt_flatMap]
  constructor
  · intro site listed
    obtain ⟨place, stands⟩ := (model.mem_typeSites site).mp listed
    have has := model.typeAt?_hasNode place site stands
    unfold intervalFindings
    split <;> simp [intervalError, typeError, Diagnostic.error, Diagnostic.withSpan, has]
  · intro site listed
    obtain ⟨place, stands⟩ := (model.mem_exprSites site).mp listed
    rw [valueFindings, errorsAt_map]
    exact fun _ _ => ⟨rfl, model.exprAt?_hasNode place site stands⟩

theorem errorsAt_baseKindFindings (id : TypeId) (definition : TypeDef) :
    ErrorsAt (· = .type id) (baseKindFindings model id definition) := by
  unfold baseKindFindings
  split
  · simp
  · split_ifs <;> simp [baseKindError, inheritanceError, Diagnostic.error]

theorem membersOf_mentioned (kind : MemberKind) (id : InterfaceId) (interface : Interface)
    (known : model.interface? id = some interface) (item : String × Node)
    (member : item ∈ membersOf model kind id interface) : model.Mentions item.2 := by
  match kind with
  | .attribute =>
      obtain ⟨⟨_, index⟩, located, rfl⟩ := List.mem_map.mp member
      have found := List.mk_mem_zipIdx_iff_getElem?.mp located
      exact .element _ (by simp [Model.HasNode, Model.attribute?, known, found])
  | .type =>
      obtain ⟨type, listed, rfl⟩ := List.mem_map.mp member
      exact .type type (.interfaceType interface type (List.mem_of_getElem? known) listed)
  | .constant =>
      obtain ⟨constant, _, made⟩ := List.mem_filterMap.mp member
      obtain ⟨definition, found, rfl⟩ := Option.map_eq_some_iff.mp made
      exact .element _ (Option.isSome_of_eq_some found)

theorem errorsAt_clashFindings (kind : MemberKind) (id : InterfaceId) (what : String)
    (chain : List InterfaceId) :
    ErrorsAt model.Mentions
      (clashFindings model id what (contributions model chain (membersOf model kind))) := by
  have brought (member : Contribution)
      (inside : member ∈ contributions model chain (membersOf model kind)) :
      model.Mentions member.node := by
    obtain ⟨_, interface, known, listed⟩ := (mem_contributions model kind _ _).mp inside
    exact membersOf_mentioned model kind _ interface known _ listed
  rw [clashFindings, errorsAt_map]
  intro node clashing
  refine ⟨rfl, ?_⟩
  obtain ⟨own, ownInside, _, other, otherInside, _, _, rfl | rfl⟩ := (mem_clashes ..).mp clashing
  · exact brought own ownInside
  · exact brought other otherInside

theorem errorsAt_inheritedNameFindings (id : InterfaceId) :
    ErrorsAt model.Mentions (inheritedNameFindings model id) := by
  rw [inheritedNameFindings, errorsAt_append, errorsAt_append]
  exact ⟨⟨errorsAt_clashFindings model .attribute id _ _, errorsAt_clashFindings model .type id _ _⟩,
    errorsAt_clashFindings model .constant id _ _⟩

theorem errorsAt_baseContractFindings (id : InterfaceId) :
    ErrorsAt model.HasNode (baseContractFindings model id) := by
  unfold baseContractFindings
  split_ifs with none
  · exact errorsAt_nil _
  · have has : model.HasNode (.contract id) := by
      simpa [Model.HasNode, Option.isSome_iff_ne_none] using none
    split <;> simp [baseContractError, inheritanceError, Diagnostic.error, has]

theorem errorsAt_inheritanceFindings : ErrorsAt model.Mentions (inheritanceFindings model) := by
  rw [inheritanceFindings, (appends_checkInheritance model).findings_eq]
  simp only [errorsAt_append, errorsAt_flatMap, Prod.forall, List.mk_mem_zipIdx_iff_getElem?]
  constructor
  · intro definition index found
    have has : model.HasNode (.type ⟨index⟩) := Option.isSome_of_eq_some found
    exact errorsAt_mentioned model _
      (errorsAt_here _ _ has _ (errorsAt_baseKindFindings model ⟨index⟩ definition))
  · intro id _
    exact ⟨errorsAt_inheritedNameFindings model id,
      errorsAt_mentioned model _ (errorsAt_baseContractFindings model id)⟩

theorem errorsAt_ambiguityFindings (holds : Node → Prop) (id : InterfaceId) (what : String)
    (node : MemberRef → Node) (feature : Feature) (overloads : List Overload)
    (all : ∀ overload ∈ overloads, holds (node overload.member)) :
    ErrorsAt holds (ambiguityFindings model id what node feature overloads) := by
  rw [ambiguityFindings, errorsAt_flatMap]
  rintro ⟨first, second⟩ paired
  have both := ((mem_pairs overloads first second).mp paired).subset
  have ofFirst := all first (both (by simp))
  have ofSecond := all second (both (by simp))
  dsimp only [pairFindings]
  split_ifs <;> simp [ambiguityError, Diagnostic.error, ofFirst, ofSecond]

theorem errorsAt_overloadFindings : ErrorsAt model.HasNode (overloadFindings model) := by
  rw [overloadFindings, (appends_checkOverloads model).findings_eq]
  simp only [errorsAt_flatMap, errorsAt_append]
  intro id _
  constructor
  · refine errorsAt_ambiguityFindings model _ id _ _ _ _ fun overload visible => ?_
    obtain ⟨_, found⟩ := (mem_overloads model .method _ overload).mp visible
    obtain ⟨method, located, _⟩ := Option.map_eq_some_iff.mp found
    exact Option.isSome_of_eq_some located
  · refine errorsAt_ambiguityFindings model _ id _ _ _ _ fun overload visible => ?_
    obtain ⟨_, found⟩ := (mem_overloads model .broadcast _ overload).mp visible
    obtain ⟨broadcast, located, _⟩ := Option.map_eq_some_iff.mp found
    exact Option.isSome_of_eq_some located

theorem uses_hasNode (place : UsePlace) (use : Use) (used : Used)
    (uses : model.Uses place use used) : model.HasNode use.node := by
  cases uses with
  | type place site target stands named =>
      exact model.typeAt?_hasNode place site ((model.typeAt?_eq_some place site).mpr stands)
  | base id definition base found extended => exact Option.isSome_of_eq_some found
  | errors ref method errors target found declared named => exact Option.isSome_of_eq_some found
  | expression place site path element stands refers =>
      exact model.exprAt?_hasNode place site ((model.exprAt?_eq_some place site).mpr stands)
  | target id state index position transition assignment found listed =>
      exact Option.isSome_of_eq_some ((model.hasTransition_iff id state index transition).mp found)

theorem errorsAt_hiddenFindings (use : Use) (what : String) (target : Owner) :
    ErrorsAt (· = use.node) (hiddenFindings model use what target) := by
  intro finding reported
  obtain ⟨confined, _, _, rfl⟩ := (mem_hiddenFindings model use what target finding).mp reported
  exact ⟨rfl, rfl⟩

theorem errorsAt_visibilityFindings : ErrorsAt model.HasNode (visibilityFindings model) := by
  rw [visibilityFindings, (appends_checkVisibility model).findings_eq, errorsAt_append,
    errorsAt_flatMap, errorsAt_flatMap]
  constructor
  · rintro ⟨use, target⟩ listed
    obtain ⟨place, _, uses⟩ := (mem_of_surveys _ _ (typeUses_survey model) _).mp listed
    dsimp only
    unfold typeUseFindings
    split
    · exact errorsAt_nil _
    · exact errorsAt_here _ _ (uses_hasNode model place use _ uses) _
        (errorsAt_hiddenFindings model use _ _)
  · rintro ⟨use, target⟩ listed
    obtain ⟨place, _, uses⟩ := (mem_of_surveys _ _ (elementUses_survey model) _).mp listed
    dsimp only
    unfold elementUseFindings
    split
    · exact errorsAt_nil _
    · exact errorsAt_here _ _ (uses_hasNode model place use _ uses) _
        (errorsAt_hiddenFindings model use _ _)

theorem errorsAt_contractFindings : ErrorsAt model.HasNode (contractFindings model) := by
  intro finding reported
  obtain ⟨id, contract, agreed, inside⟩ := (mem_contractFindings model finding).mp reported
  refine errorsAt_contractFindingsOf model model.HasNode id contract ?_ ?_ finding inside
  · intro index item located
    simp [Model.HasNode, Model.stateVariable?, agreed, located]
  · intro position state located
    refine ⟨by simp [Model.HasNode, Model.state?, agreed, located], ?_⟩
    intro index transition listed
    simp [Model.HasNode, Model.transition?, Model.state?, agreed, located, listed]

theorem errorsAt_shapeFindings : ErrorsAt model.Mentions (shapeFindings model false) := by
  rw [shapeFindings, (appends_checkShape model false).findings_eq]
  simp only [errorsAt_append, errorsAt_flatMap, Prod.forall, List.mk_mem_zipIdx_iff_getElem?]
  refine ⟨⟨⟨⟨?_, ?_⟩, ?_⟩, ?_⟩, ?_⟩
  · exact errorsAt_mentioned model _ (errorsAt_topLevelNames model)
  · exact fun collection declared => errorsAt_definitionNames model _ _ fun id listed =>
      .type id (.collectionType collection id declared listed)
  · exact fun interface index known =>
      ⟨errorsAt_interfaceFindings model ⟨index⟩ interface known, errorsAt_nil _⟩
  · exact fun definition index found =>
      errorsAt_mentioned model _ (errorsAt_typeFindings model ⟨index⟩ definition found)
  · exact errorsAt_mentioned model _ (errorsAt_annotationFindings model)

theorem errorsAt_builtinFindings (mode : Mode) :
    ErrorsAt model.Mentions (builtinFindings ⟨mode, false⟩ model) := by
  simp only [builtinFindings, groups, List.flatMap_cons, List.flatMap_nil, errorsAt_append,
    errorsAt_nil, and_true]
  exact ⟨errorsAt_mentioned model _ (errorsAt_dependencyFindings model),
    errorsAt_shapeFindings model,
    errorsAt_mentioned model _ (errorsAt_typeFindingsOf model),
    errorsAt_inheritanceFindings model,
    errorsAt_mentioned model _ (errorsAt_overloadFindings model),
    errorsAt_mentioned model _ (errorsAt_visibilityFindings model),
    errorsAt_mentioned model _ (errorsAt_contractFindings model)⟩

theorem elementOrderFindings_warn (id : InterfaceId) (interface : Interface) :
    ∀ finding ∈ elementOrderFindings model id interface,
      finding.severity = .warning ∧ finding.node = .interface id := by
  unfold elementOrderFindings
  split
  · simp
  · split
    · simp
    · simp only [List.forall_mem_append, List.forall_mem_flatMap, Prod.forall]
      constructor <;>
      · intro listed index _
        split_ifs <;> simp [orderWarning, Diagnostic.warning, Diagnostic.atIndex]

theorem mem_shapeFindings (elementOrder : Bool) (finding : Diagnostic)
    (reported : finding ∈ shapeFindings model elementOrder) :
    finding ∈ shapeFindings model false ∨ ∃ id interface, model.interface? id = some interface ∧
      finding ∈ elementOrderFindings model id interface := by
  cases elementOrder with
  | false => exact .inl reported
  | true =>
      simp only [shapeFindings, (appends_checkShape model _).findings_eq, List.mem_append,
        List.mem_flatMap, Prod.exists, List.mk_mem_zipIdx_iff_getElem?] at reported ⊢
      obtain (((names | inCollection) | ⟨interface, index, known, own | advice⟩) | ofType) | tags :=
        reported
      · exact .inl (.inl (.inl (.inl (.inl names))))
      · exact .inl (.inl (.inl (.inl (.inr inCollection))))
      · exact .inl (.inl (.inl (.inr ⟨interface, index, known, .inl own⟩)))
      · exact .inr ⟨⟨index⟩, interface, known, advice⟩
      · exact .inl (.inl (.inr ofType))
      · exact .inl (.inr tags)

theorem mem_builtinFindings (options : Options) (finding : Diagnostic)
    (reported : finding ∈ builtinFindings options model) :
    finding ∈ builtinFindings ⟨options.mode, false⟩ model ∨
      ∃ id interface, model.interface? id = some interface ∧
        finding ∈ elementOrderFindings model id interface := by
  simp only [builtinFindings, groups, List.flatMap_cons, List.flatMap_nil, List.mem_append] at *
  obtain ofCycles | ofShapes | rest := reported
  · exact .inl (.inl ofCycles)
  · exact (mem_shapeFindings model _ finding ofShapes).imp (fun kept => .inr (.inl kept)) id
  · exact .inl (.inr (.inr rest))

theorem finding_hasNode (linked : model.Linked) (options : Options) (finding : Diagnostic)
    (reported : finding ∈ run options [] model) : model.HasNode finding.node := by
  rw [run_eq] at reported
  obtain error | ⟨id, interface, known, advice⟩ := mem_builtinFindings model options finding reported
  · exact model.hasNode_of_mentions linked _
      (errorsAt_builtinFindings model options.mode finding error).2
  · rw [(elementOrderFindings_warn model id interface finding advice).2]
    exact Option.isSome_of_eq_some known

/-- Every finding on a linked model stands at an element that the model has, and the description of
this element is its path, with no placeholder in it. -/
theorem findings_located (linked : model.Linked) (options : Options) (finding : Diagnostic)
    (reported : finding ∈ run options [] model) :
    model.HasNode finding.node ∧ model.path? finding.node = some (model.describe finding.node) := by
  have has := finding_hasNode model linked options finding reported
  exact ⟨has, model.path?_eq_describe linked finding.node has⟩

/-- The interface on a circle that has a contract, whose one transition leads to a missing state. -/
def knottedInterface : Interface where
  __ := ringInterface "B" 0
  attributes := [⟨"mode", .unknown, [], ⟨.primitive .uint8, false⟩, false, false⟩]
  contract := some ⟨.unknown, [],
    [⟨"idle", .unknown, [⟨.unknown, ⟨.unknown, ⟨.set, ⟨⟨1⟩, 0⟩⟩⟩, none, [], 7⟩]⟩]⟩

/-- Circles of types and of interfaces, and a transition to a state that is not there. -/
def knot : Model where
  __ := ring
  interfaces := [ringInterface "A" 1, knottedInterface, ringInterface "C" 1]

theorem knot_located :
    (run .standard [] knot).map (·.node) =
        ringTypes.map .type ++ [.interface ⟨0⟩, .interface ⟨1⟩, .transition ⟨1⟩ 0 0] ∧
      ∀ finding ∈ run .standard [] knot, knot.HasNode finding.node ∧
        knot.path? finding.node = some (knot.describe finding.node) :=
  ⟨by decide, findings_located knot rfl .standard⟩

end Check

end FrancaAudit
