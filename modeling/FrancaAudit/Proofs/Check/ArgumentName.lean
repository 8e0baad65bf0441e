import FrancaAudit.Proofs.Check.Location

/-!
Names that a method gives to several of its arguments.

The arguments of both directions share one space of names. Three rules cover it: one for each
direction, and one that holds each outward argument against the first inward argument of its name.
The third passes over an inward argument that repeats the name, but the first has reported that one
already.
-/

namespace FrancaAudit.Check

variable (model : Model)

def argumentOf (ref : MemberRef) (direction : Direction) (index : Nat) : ArgumentRef :=
  ⟨ref.interface, .method ref.index, direction, index⟩

def isArgumentOf (ref : MemberRef) : Node → Bool
  | .argument place => place.interface = ref.interface ∧ place.operation = .method ref.index
  | _ => false

def concernsArgument (ref : MemberRef) (finding : Diagnostic) : Bool :=
  finding.kind = .structuralViolation && isArgumentOf ref finding.node

def argumentNameErrors (ref : MemberRef) (method : Method) : List Diagnostic :=
  let inward := namedArguments ref.interface (.method ref.index) .input method.inArgs
  let outward := namedArguments ref.interface (.method ref.index) .output method.outArgs
  duplicateShapeErrors "argument name" inward ++ duplicateShapeErrors "argument name" outward ++
    crossDuplicates inward outward

theorem isArgumentOf_iff (ref : MemberRef) (node : Node) :
    isArgumentOf ref node ↔
      ∃ direction index, node = .argument (argumentOf ref direction index) := by
  cases node with
  | argument place =>
      obtain ⟨interface, operation, direction, index⟩ := place
      simp [isArgumentOf, argumentOf]
  | _ => simp [isArgumentOf]

theorem isArgumentOf_unique (ref other : MemberRef) (node : Node) (here : isArgumentOf ref node)
    (there : isArgumentOf other node) : ref = other := by
  obtain ⟨_, _, rfl⟩ := (isArgumentOf_iff ref node).mp here
  obtain ⟨_, _, same⟩ := (isArgumentOf_iff other _).mp there
  simp only [argumentOf, Node.argument.injEq, ArgumentRef.mk.injEq, Operation.method.injEq] at same
  obtain ⟨_, _⟩ := ref
  obtain ⟨_, _⟩ := other
  simp_all

theorem isArgumentOf_named (ref : MemberRef) (direction : Direction) (arguments : List Argument) :
    ∀ item ∈ namedArguments ref.interface (.method ref.index) direction arguments,
      isArgumentOf ref item.2 := by
  intro item member
  obtain ⟨_, _, rfl⟩ := List.mem_map.mp member
  simp [isArgumentOf]

theorem errorsAt_argumentNameErrors (ref : MemberRef) (method : Method) :
    ErrorsAt (fun node => isArgumentOf ref node) (argumentNameErrors ref method) := by
  have inward := isArgumentOf_named ref .input method.inArgs
  have outward := isArgumentOf_named ref .output method.outArgs
  simp only [argumentNameErrors, errorsAt_append]
  exact ⟨⟨errorsAt_duplicateErrors _ _ _ _ inward, errorsAt_duplicateErrors _ _ _ _ outward⟩,
    errorsAt_crossDuplicates _ _ _ inward outward⟩

theorem of_argumentNameErrors (ref : MemberRef) (method : Method) :
    Of [.structuralViolation] (argumentNameErrors ref method) := by
  simp [argumentNameErrors, of_duplicateShapeErrors, of_crossDuplicates]

theorem filter_apart (ref : MemberRef) (findings : List Diagnostic)
    (apart : ErrorsAt (fun node => ¬ isArgumentOf ref node) findings) :
    findings.filter (concernsArgument ref) = [] := by
  rw [List.filter_eq_nil_iff]
  intro finding reported concerned
  simp only [concernsArgument, Bool.and_eq_true] at concerned
  exact (apart finding reported).2 concerned.2

theorem kind_of_concernsArgument (ref : MemberRef) (finding : Diagnostic)
    (concerned : concernsArgument ref finding) : finding.kind = .structuralViolation := by
  simp only [concernsArgument, Bool.and_eq_true, decide_eq_true_eq] at concerned
  exact concerned.1

theorem filter_here (ref : MemberRef) (node : Node) (findings : List Diagnostic)
    (errors : ErrorsAt (· = node) findings) (apart : ¬ isArgumentOf ref node) :
    findings.filter (concernsArgument ref) = [] :=
  filter_apart ref findings (errorsAt_here _ node apart findings errors)

theorem filter_duplicates (ref : MemberRef) (what : String) (items : List (String × Node))
    (apart : ∀ item ∈ items, ¬ isArgumentOf ref item.2) :
    (duplicateShapeErrors what items).filter (concernsArgument ref) = [] :=
  filter_apart ref _ (errorsAt_duplicateErrors _ _ _ _ apart)

theorem filter_named {α : Type} (ref : MemberRef) (what : String) (items : List α)
    (name : α → String) (node : Nat → Node) (apart : ∀ index, ¬ isArgumentOf ref (node index)) :
    (duplicateShapeErrors what (named items name node)).filter (concernsArgument ref) = [] := by
  apply filter_duplicates
  intro item member
  obtain ⟨_, _, rfl⟩ := List.mem_map.mp member
  exact apart _

theorem filter_definitionNames (ref : MemberRef) (types : List TypeId)
    (constants : List ConstantId) :
    (definitionNames model types constants).filter (concernsArgument ref) = [] := by
  rw [definitionNames, List.filter_append, filter_duplicates, filter_duplicates, List.append_nil]
  · intro item listed
    obtain ⟨id, _, made⟩ := List.mem_filterMap.mp listed
    obtain ⟨definition, _, rfl⟩ := Option.map_eq_some_iff.mp made
    simp [isArgumentOf]
  · intro item listed
    obtain ⟨id, _, rfl⟩ := List.mem_map.mp listed
    simp [isArgumentOf]

theorem filter_typeFindings (ref : MemberRef) (id : TypeId) (definition : TypeDef) :
    (typeFindings id definition).filter (concernsArgument ref) = [] := by
  have empty := filter_here ref _ _ (errorsAt_emptyTypeFindings (.type id) definition.kind)
    (by simp [isArgumentOf])
  rw [typeFindings, List.filter_append, List.filter_append, empty, filter_named, filter_named]
  · rfl
  all_goals simp [isArgumentOf]

theorem filter_elementOrder (ref : MemberRef) (id : InterfaceId) (interface : Interface) :
    (elementOrderFindings model id interface).filter (concernsArgument ref) = [] := by
  rw [List.filter_eq_nil_iff]
  intro finding advice
  rw [concernsArgument, (elementOrderFindings_warn model id interface finding advice).2]
  simp [isArgumentOf]

theorem flatMap_zipIdx {α β : Type} (items : List α) (pieces : α × Nat → List β) (index : Nat)
    (item : α) (located : items[index]? = some item)
    (others : ∀ entry other, items[other]? = some entry → other ≠ index →
      pieces (entry, other) = []) :
    items.zipIdx.flatMap pieces = pieces (item, index) := by
  have once : (items.zipIdx.map Prod.snd).Nodup := by
    rw [List.zipIdx_map_snd]
    exact List.nodup_range'
  have silent (entry : α × Nat) (member : entry ∈ items.zipIdx) (different : entry.2 ≠ index) :
      pieces entry = [] :=
    others entry.1 entry.2 (List.mk_mem_zipIdx_iff_getElem?.mp member) different
  -- the list, cut at the item, has other positions in front and behind
  obtain ⟨front, back, split⟩ :=
    List.append_of_mem (List.mk_mem_zipIdx_iff_getElem?.mpr located)
  rw [split, List.map_append, List.map_cons] at once
  have before : front.flatMap pieces = [] := by
    rw [List.flatMap_eq_nil_iff]
    intro entry member
    apply silent entry
    · simp [split, member]
    · exact (List.nodup_append.mp once).2.2 _ (List.mem_map_of_mem member) _ List.mem_cons_self
  have behind : back.flatMap pieces = [] := by
    rw [List.flatMap_eq_nil_iff]
    intro entry member
    apply silent entry
    · simp [split, member]
    · intro same
      have inside : entry.2 ∈ back.map Prod.snd := List.mem_map_of_mem member
      rw [same] at inside
      exact (List.nodup_cons.mp (List.nodup_append.mp once).2.1).1 inside
  rw [split, List.flatMap_append, List.flatMap_cons, before, behind, List.nil_append,
    List.append_nil]

/-- Only the rules on names have something to say about the arguments of a method. -/
theorem filter_methodFindings (ref other : MemberRef) (method : Method) :
    (methodFindings other.interface other.index method).filter (concernsArgument ref) =
      (argumentNameErrors other method).filter (concernsArgument ref) := by
  have split : methodFindings other.interface other.index method =
      argumentNameErrors other method ++ fireAndForgetErrors (.method other) method ++
        errorCodeDuplicates (.method other) []
          ((method.errors.map (·.ownEnumerators)).getD []).zipIdx := rfl
  have apart : ¬ isArgumentOf ref (.method other) := by simp [isArgumentOf]
  rw [split, List.filter_append, List.filter_append,
    filter_here ref _ _ (errorsAt_fireAndForgetErrors _ method) apart,
    filter_here ref _ _ (errorsAt_errorCodeDuplicates _ _ []) apart, List.append_nil,
    List.append_nil]

theorem filter_ownNames (ref : MemberRef) (method : Method) :
    (argumentNameErrors ref method).filter (concernsArgument ref) =
      argumentNameErrors ref method := by
  rw [List.filter_eq_self]
  intro finding reported
  have kind := List.mem_singleton.mp (of_argumentNameErrors ref method finding reported)
  simp [concernsArgument, kind, (errorsAt_argumentNameErrors ref method finding reported).2]

theorem filter_otherNames (ref other : MemberRef) (method : Method) (different : other ≠ ref) :
    (argumentNameErrors other method).filter (concernsArgument ref) = [] := by
  apply filter_apart
  intro finding reported
  obtain ⟨grave, there⟩ := errorsAt_argumentNameErrors other method finding reported
  exact ⟨grave, fun here => different (isArgumentOf_unique other ref finding.node there here)⟩

theorem filter_interfaceFindings (ref : MemberRef) (id : InterfaceId) (interface : Interface) :
    (interfaceFindings model id interface).filter (concernsArgument ref) =
      interface.methods.zipIdx.flatMap fun item =>
        (argumentNameErrors ⟨id, item.2⟩ item.1).filter (concernsArgument ref) := by
  have broadcasts : ((interface.broadcasts.zipIdx.flatMap fun item =>
      broadcastFindings id item.2 item.1).filter (concernsArgument ref)) = [] := by
    rw [List.filter_flatMap, List.flatMap_eq_nil_iff]
    exact fun _ _ => filter_named ref _ _ _ _ (by simp [isArgumentOf])
  rw [interfaceFindings, (appends_checkInterface model id interface).findings_eq,
    List.filter_append, List.filter_append, List.filter_append, filter_definitionNames,
    filter_named ref _ _ _ _ (by simp [isArgumentOf]), broadcasts, List.append_nil,
    List.nil_append, List.nil_append, List.filter_flatMap]
  exact List.flatMap_congr fun item _ => filter_methodFindings ref ⟨id, item.2⟩ item.1

theorem filter_ownInterface (ref : MemberRef) (interface : Interface) (method : Method)
    (located : interface.methods[ref.index]? = some method) :
    (interfaceFindings model ref.interface interface).filter (concernsArgument ref) =
      argumentNameErrors ref method := by
  rw [filter_interfaceFindings, flatMap_zipIdx interface.methods _ ref.index method located]
  · exact filter_ownNames ref method
  · intro entry other _ different
    apply filter_otherNames
    intro same
    exact different (congrArg MemberRef.index same)

theorem filter_otherInterface (ref : MemberRef) (id : InterfaceId) (interface : Interface)
    (different : id ≠ ref.interface) :
    (interfaceFindings model id interface).filter (concernsArgument ref) = [] := by
  rw [filter_interfaceFindings, List.flatMap_eq_nil_iff]
  intro item _
  apply filter_otherNames
  intro same
  exact different (congrArg MemberRef.interface same)

theorem filter_shapeErrors (ref : MemberRef) (method : Method)
    (found : model.method? ref = some method) (elementOrder : Bool) :
    (shapeFindings model elementOrder).filter (concernsArgument ref) =
      argumentNameErrors ref method := by
  obtain ⟨interface, known, located⟩ := Option.bind_eq_some_iff.mp found
  have topLevel : (topLevelNames model).filter (concernsArgument ref) = [] := by
    apply filter_duplicates
    rw [List.forall_mem_append, forall_named (fun node => ¬ isArgumentOf ref node),
      forall_named (fun node => ¬ isArgumentOf ref node)]
    simp [isArgumentOf]
  have advice (id : InterfaceId) (interface : Interface) :
      (if elementOrder then elementOrderFindings model id interface else []).filter
        (concernsArgument ref) = [] := by
    cases elementOrder
    · rfl
    · exact filter_elementOrder model ref id interface
  have tags : (annotationFindings model).filter (concernsArgument ref) = [] :=
    filter_foreign _ _ _ (kind_of_concernsArgument ref) _ (of_annotationFindings model) (by simp)
  rw [shapeFindings, (appends_checkShape model elementOrder).findings_eq]
  simp only [List.filter_append, List.filter_flatMap, topLevel, advice, filter_definitionNames,
    filter_typeFindings, tags, List.append_nil]
  have silent {α : Type} (items : List α) : (items.flatMap fun _ => ([] : List Diagnostic)) = [] :=
    List.flatMap_eq_nil_iff.mpr fun _ _ => rfl
  rw [silent, silent, flatMap_zipIdx model.interfaces _ ref.interface.index interface known]
  · simpa using filter_ownInterface model ref interface method located
  · intro entry other _ different
    apply filter_otherInterface
    intro same
    exact different (congrArg InterfaceId.index same)

/-- All that a pass finds about the structure at the arguments of a method are the errors on their
names. -/
theorem filter_run (ref : MemberRef) (method : Method) (found : model.method? ref = some method)
    (options : Options) :
    (run options [] model).filter (concernsArgument ref) = argumentNameErrors ref method := by
  rw [filter_run_of_kind model _ _ (kind_of_concernsArgument ref), findingsOfKind,
    filter_shapeErrors model ref method found]

def argumentsOf (method : Method) : Direction → List Argument
  | .input => method.inArgs
  | .output => method.outArgs

theorem argument?_of_method (ref : MemberRef) (method : Method)
    (found : model.method? ref = some method) (direction : Direction) (index : Nat) :
    model.argument? (argumentOf ref direction index) = (argumentsOf method direction)[index]? := by
  cases direction <;> simp [Model.argument?, argumentOf, argumentsOf, found]

def sharedMessage (name : String) : String := "Duplicate argument name '" ++ name ++ "'"

def crossMessage (name : String) : String :=
  "Duplicate argument name '" ++ name ++ "' used for in and out"

/-- The error that an argument has a name which is given twice, within one direction or across
both. -/
structure SharedNameError (place : ArgumentRef) (name : String) (finding : Diagnostic) : Prop where
  grave : finding.severity = .error
  kind : finding.kind = .structuralViolation
  node : finding.node = .argument place
  feature : finding.feature = .name
  message : finding.message = sharedMessage name ∨ finding.message = crossMessage name

variable (ref : MemberRef) (method : Method)

def listed (direction : Direction) : List (String × Node) :=
  namedArguments ref.interface (.method ref.index) direction (argumentsOf method direction)

theorem argumentNameErrors_eq :
    argumentNameErrors ref method =
      duplicateShapeErrors "argument name" (listed ref method .input) ++
        duplicateShapeErrors "argument name" (listed ref method .output) ++
        crossDuplicates (listed ref method .input) (listed ref method .output) := rfl

theorem mem_listed (direction : Direction) (name : String) (node : Node) :
    (name, node) ∈ listed ref method direction ↔
      ∃ index argument, (argumentsOf method direction)[index]? = some argument ∧
        argument.name = name ∧ node = .argument (argumentOf ref direction index) := by
  simp only [listed, namedArguments, named, List.mem_map, Prod.exists, Prod.mk.injEq,
    List.mk_mem_zipIdx_iff_getElem?, argumentOf]
  rw [exists_comm]
  refine exists_congr fun index => exists_congr fun argument => and_congr_right fun _ => ?_
  exact and_congr_right fun _ => eq_comm

theorem of_listed (direction other : Direction) (index : Nat) (argument : Argument)
    (located : (argumentsOf method direction)[index]? = some argument) (name : String)
    (member : (name, .argument (argumentOf ref direction index)) ∈ listed ref method other) :
    direction = other ∧ argument.name = name := by
  obtain ⟨place, entry, there, named, same⟩ := (mem_listed ref method other name _).mp member
  obtain ⟨rfl, rfl⟩ : direction = other ∧ index = place := by simpa [argumentOf] using same
  obtain rfl : argument = entry := Option.some.inj (located.symm.trans there)
  exact ⟨rfl, named⟩

theorem map_listed (direction : Direction) :
    (listed ref method direction).map (·.1) = (argumentsOf method direction).map (·.name) := by
  rw [listed, namedArguments, map_named]

/-- An argument is reported for its own direction exactly if another of that direction has its
name. -/
theorem mem_duplicates_listed (direction : Direction) (index : Nat) (name : String) :
    (name, .argument (argumentOf ref direction index)) ∈ duplicates (listed ref method direction) ↔
      ∃ argument, (argumentsOf method direction)[index]? = some argument ∧ argument.name = name ∧
        ∃ otherIndex other, otherIndex ≠ index ∧
          (argumentsOf method direction)[otherIndex]? = some other ∧ other.name = name := by
  rw [mem_duplicates, map_listed, mem_listed]
  constructor
  · rintro ⟨⟨place, argument, located, rfl, same⟩, many⟩
    obtain rfl : index = place := by simpa [argumentOf] using same
    refine ⟨argument, located, rfl, ?_⟩
    rw [two_le_count_iff _ index _ (by simp [located])] at many
    obtain ⟨otherIndex, different, there⟩ := many
    obtain ⟨other, otherLocated, alike⟩ := Option.map_eq_some_iff.mp (List.getElem?_map .. ▸ there)
    exact ⟨otherIndex, other, different, otherLocated, alike⟩
  · rintro ⟨argument, located, rfl, otherIndex, other, different, otherLocated, alike⟩
    refine ⟨⟨index, argument, located, rfl, rfl⟩, ?_⟩
    rw [two_le_count_iff _ index _ (by simp [located])]
    exact ⟨otherIndex, different, by simp [otherLocated, alike]⟩

/-- An outward argument comes together with the first inward argument of its name. -/
def Crosses (inNode outNode : Node) (name : String) : Prop :=
  (name, outNode) ∈ listed ref method .output ∧
    (listed ref method .input).find? (fun item => item.1 = name) = some (name, inNode)

theorem mem_crossDuplicates (finding : Diagnostic) :
    finding ∈ crossDuplicates (listed ref method .input) (listed ref method .output) ↔
      ∃ inNode outNode name, Crosses ref method inNode outNode name ∧
        (finding = shapeError inNode .name (crossMessage name) ∨
          finding = shapeError outNode .name (crossMessage name)) := by
  simp only [crossDuplicates, List.mem_flatMap]
  constructor
  · rintro ⟨⟨name, outNode⟩, member, reported⟩
    dsimp only at reported
    split at reported
    · exact absurd reported List.not_mem_nil
    · rename_i other inNode found
      obtain rfl : other = name := by simpa using List.find?_some found
      exact ⟨inNode, outNode, other, ⟨member, found⟩, List.mem_pair.mp reported⟩
  · rintro ⟨inNode, outNode, name, ⟨member, found⟩, made⟩
    refine ⟨(name, outNode), member, ?_⟩
    dsimp only
    rw [found]
    exact List.mem_pair.mpr made

theorem mem_argumentNameErrors (finding : Diagnostic) :
    finding ∈ argumentNameErrors ref method ↔
      (∃ direction name node, (name, node) ∈ duplicates (listed ref method direction) ∧
        finding = shapeError node .name (sharedMessage name)) ∨
      ∃ inNode outNode name, Crosses ref method inNode outNode name ∧
        (finding = shapeError inNode .name (crossMessage name) ∨
          finding = shapeError outNode .name (crossMessage name)) := by
  have text (name : String) :
      "Duplicate " ++ "argument name" ++ " '" ++ name ++ "'" = sharedMessage name := rfl
  have within (direction : Direction) :
      finding ∈ duplicateShapeErrors "argument name" (listed ref method direction) ↔
        ∃ name node, (name, node) ∈ duplicates (listed ref method direction) ∧
          finding = shapeError node .name (sharedMessage name) := by
    simp only [duplicateShapeErrors, duplicateErrors_eq, duplicateError, List.mem_map, Prod.exists,
      text, shapeError]
    refine exists_congr fun name => exists_congr fun node => and_congr_right fun _ => eq_comm
  rw [argumentNameErrors_eq, List.mem_append, List.mem_append, within, within, mem_crossDuplicates]
  refine or_congr_left ?_
  constructor
  · rintro (shared | shared)
    · exact ⟨.input, shared⟩
    · exact ⟨.output, shared⟩
  · rintro ⟨direction, shared⟩
    cases direction
    · exact Or.inl shared
    · exact Or.inr shared

def SharesName (direction : Direction) (index : Nat) (name : String) : Prop :=
  ∃ otherDirection otherIndex other,
    (argumentsOf method otherDirection)[otherIndex]? = some other ∧
      (otherDirection, otherIndex) ≠ (direction, index) ∧ other.name = name

theorem sharesName_of_duplicate (direction : Direction) (index : Nat) (name : String)
    (shared : (name, .argument (argumentOf ref direction index)) ∈
      duplicates (listed ref method direction)) : SharesName method direction index name := by
  obtain ⟨_, _, _, otherIndex, other, different, located, alike⟩ :=
    (mem_duplicates_listed ref method direction index name).mp shared
  exact ⟨direction, otherIndex, other, located, by simpa using different, alike⟩

theorem sharesName_of_crosses (inNode outNode : Node) (name : String)
    (crosses : Crosses ref method inNode outNode name) (direction : Direction) (index : Nat)
    (here : inNode = .argument (argumentOf ref direction index) ∨
      outNode = .argument (argumentOf ref direction index)) :
    SharesName method direction index name := by
  obtain ⟨outMember, found⟩ := crosses
  obtain ⟨inIndex, inArgument, inLocated, inName, rfl⟩ :=
    (mem_listed ref method .input name inNode).mp (List.mem_of_find?_eq_some found)
  obtain ⟨outIndex, outArgument, outLocated, outName, rfl⟩ :=
    (mem_listed ref method .output name outNode).mp outMember
  -- each of the two is the other argument for the one of them that is here
  rcases here with here | here
  · obtain ⟨rfl, rfl⟩ : .input = direction ∧ inIndex = index := by simpa [argumentOf] using here
    exact ⟨.output, outIndex, outArgument, outLocated, by simp, outName⟩
  · obtain ⟨rfl, rfl⟩ : .output = direction ∧ outIndex = index := by simpa [argumentOf] using here
    exact ⟨.input, inIndex, inArgument, inLocated, by simp, inName⟩

theorem crosses_exists (name : String) (inIndex : Nat) (inArgument : Argument)
    (inLocated : method.inArgs[inIndex]? = some inArgument) (inName : inArgument.name = name)
    (outNode : Node) (outMember : (name, outNode) ∈ listed ref method .output) :
    ∃ first, Crosses ref method (.argument (argumentOf ref .input first)) outNode name := by
  have member : (name, .argument (argumentOf ref .input inIndex)) ∈ listed ref method .input :=
    (mem_listed ref method .input _ _).mpr ⟨inIndex, inArgument, inLocated, inName, rfl⟩
  cases found : (listed ref method .input).find? (fun item => item.1 = name) with
  | none =>
      have absent := List.find?_eq_none.mp found _ member
      simp at absent
  | some item =>
      obtain ⟨other, node⟩ := item
      obtain rfl : other = name := by simpa using List.find?_some found
      obtain ⟨first, _, _, _, rfl⟩ :=
        (mem_listed ref method .input other node).mp (List.mem_of_find?_eq_some found)
      exact ⟨first, outMember, found⟩

theorem sharesName_of_error (direction : Direction) (index : Nat) (argument : Argument)
    (located : (argumentsOf method direction)[index]? = some argument) (finding : Diagnostic)
    (reported : finding ∈ argumentNameErrors ref method)
    (here : finding.node = .argument (argumentOf ref direction index)) :
    SharesName method direction index argument.name := by
  rcases (mem_argumentNameErrors ref method finding).mp reported with shared | crossed
  · obtain ⟨otherDirection, name, node, shared, rfl⟩ := shared
    obtain rfl : node = .argument (argumentOf ref direction index) := here
    obtain ⟨rfl, rfl⟩ := of_listed ref method direction otherDirection index argument located name
      (duplicates_subset _ shared)
    exact sharesName_of_duplicate ref method direction index _ shared
  · obtain ⟨inNode, outNode, name, crosses, made⟩ := crossed
    have stands : inNode = .argument (argumentOf ref direction index) ∨
        outNode = .argument (argumentOf ref direction index) := by
      rcases made with rfl | rfl
      · exact .inl here
      · exact .inr here
    have named : argument.name = name := by
      rcases stands with rfl | rfl
      · exact (of_listed ref method direction .input index argument located name
          (List.mem_of_find?_eq_some crosses.2)).2
      · exact (of_listed ref method direction .output index argument located name crosses.1).2
    rw [named]
    exact sharesName_of_crosses ref method inNode outNode name crosses direction index stands

theorem error_of_sharesName (direction : Direction) (index : Nat) (argument : Argument)
    (located : (argumentsOf method direction)[index]? = some argument)
    (shares : SharesName method direction index argument.name) :
    ∃ finding ∈ argumentNameErrors ref method,
      SharedNameError (argumentOf ref direction index) argument.name finding := by
  obtain ⟨otherDirection, otherIndex, other, otherLocated, different, alike⟩ := shares
  -- reported within its direction, whatever the other direction holds
  have within (third : Nat) (further : Argument) (apart : third ≠ index)
      (there : (argumentsOf method direction)[third]? = some further)
      (same : further.name = argument.name) :
      ∃ finding ∈ argumentNameErrors ref method,
        SharedNameError (argumentOf ref direction index) argument.name finding := by
    have shared := (mem_duplicates_listed ref method direction index argument.name).mpr
      ⟨argument, located, rfl, third, further, apart, there, same⟩
    exact ⟨_, (mem_argumentNameErrors ref method _).mpr (.inl ⟨direction, _, _, shared, rfl⟩),
      rfl, rfl, rfl, rfl, .inl rfl⟩
  have across (inNode outNode : Node) (crosses : Crosses ref method inNode outNode argument.name)
      (here : inNode = .argument (argumentOf ref direction index) ∨
        outNode = .argument (argumentOf ref direction index)) :
      ∃ finding ∈ argumentNameErrors ref method,
        SharedNameError (argumentOf ref direction index) argument.name finding := by
    refine ⟨shapeError (.argument (argumentOf ref direction index)) .name
      (crossMessage argument.name), ?_, rfl, rfl, rfl, rfl, .inr rfl⟩
    refine (mem_argumentNameErrors ref method _).mpr (.inr ⟨_, _, _, crosses, ?_⟩)
    rcases here with rfl | rfl
    · exact .inl rfl
    · exact .inr rfl
  cases direction with
  | input =>
      cases otherDirection with
      | input =>
          exact within otherIndex other (by simpa using different) otherLocated alike
      | output =>
          have outMember := (mem_listed ref method .output argument.name _).mpr
            ⟨otherIndex, other, otherLocated, alike, rfl⟩
          obtain ⟨first, crosses⟩ :=
            crosses_exists ref method argument.name index argument located rfl _ outMember
          by_cases leads : first = index
          · exact across _ _ crosses (.inl (by rw [leads]))
          · -- another inward argument is the one that is held against the outward one
            obtain ⟨third, further, there, same, node⟩ := (mem_listed ref method .input _ _).mp
              (List.mem_of_find?_eq_some crosses.2)
            obtain rfl : first = third := by simpa [argumentOf] using node
            exact within first further leads there same
  | output =>
      cases otherDirection with
      | input =>
          have outMember := (mem_listed ref method .output argument.name _).mpr
            ⟨index, argument, located, rfl, rfl⟩
          obtain ⟨first, crosses⟩ :=
            crosses_exists ref method argument.name otherIndex other otherLocated alike _ outMember
          exact across _ _ crosses (.inr rfl)
      | output =>
          exact within otherIndex other (by simpa using different) otherLocated alike

def saysAcross (finding : Diagnostic) : Bool :=
  " used for in and out".toList.isSuffixOf finding.message.toList

def isCrossError (ref : MemberRef) (finding : Diagnostic) : Bool :=
  finding.isError && saysAcross finding && concernsArgument ref finding

theorem crossMessage_eq (name : String) :
    crossMessage name = sharedMessage name ++ " used for in and out" := by
  have ending : "' used for in and out" = "'" ++ " used for in and out" := by decide
  unfold crossMessage sharedMessage
  rw [ending, String.append_assoc, String.append_assoc, String.append_assoc]

theorem crossMessage_ends (name : String) :
    " used for in and out".toList <:+ (crossMessage name).toList := by
  rw [crossMessage_eq, String.toList_append]
  exact List.suffix_append _ _

theorem sharedMessage_ends (name : String) :
    ¬ " used for in and out".toList <:+ (sharedMessage name).toList := by
  -- one ends with a letter, the other with a quote
  rintro ⟨front, same⟩
  unfold sharedMessage at same
  have last := congrArg List.getLast? same
  rw [String.toList_append, List.getLast?_append, List.getLast?_append] at last
  revert last
  simp

theorem length_crossDuplicates_singleton (inward : List (String × Node)) (item : String × Node) :
    (crossDuplicates inward [item]).length = if item.1 ∈ inward.map (·.1) then 2 else 0 := by
  simp only [crossDuplicates, List.flatMap_cons, List.flatMap_nil, List.append_nil]
  cases found : inward.find? fun other => other.1 = item.1 with
  | none =>
      rw [if_neg]
      · rfl
      · intro used
        obtain ⟨other, member, same⟩ := List.mem_map.mp used
        have absent := List.find?_eq_none.mp found other member
        simp [same] at absent
  | some other =>
      have same : other.1 = item.1 := by simpa using List.find?_some found
      rw [if_pos (same ▸ List.mem_map_of_mem (List.mem_of_find?_eq_some found))]
      rfl

theorem length_crossDuplicates (inward outward : List (String × Node)) :
    (crossDuplicates inward outward).length =
      2 * outward.countP fun item => item.1 ∈ inward.map (·.1) := by
  induction outward with
  | nil => rfl
  | cons item rest ih =>
      have step : crossDuplicates inward (item :: rest) =
          crossDuplicates inward [item] ++ crossDuplicates inward rest := by
        simp [crossDuplicates]
      rw [step, List.length_append, ih, List.countP_cons, length_crossDuplicates_singleton]
      by_cases used : item.1 ∈ inward.map (·.1)
      · rw [if_pos used, if_pos (decide_eq_true used)]
        omega
      · rw [if_neg used, if_neg (by simpa using used)]
        omega

theorem filter_across :
    (argumentNameErrors ref method).filter saysAcross =
      crossDuplicates (listed ref method .input) (listed ref method .output) := by
  have within (direction : Direction) :
      (duplicateShapeErrors "argument name" (listed ref method direction)).filter saysAcross =
        [] := by
    rw [List.filter_eq_nil_iff]
    intro finding reported
    rw [duplicateShapeErrors, duplicateErrors_eq] at reported
    obtain ⟨⟨name, node⟩, _, rfl⟩ := List.mem_map.mp reported
    rw [saysAcross, List.isSuffixOf_iff_suffix]
    exact sharedMessage_ends name
  rw [argumentNameErrors_eq, List.filter_append, List.filter_append, within, within,
    List.nil_append, List.nil_append, List.filter_eq_self]
  intro finding reported
  obtain ⟨_, _, name, _, made⟩ := (mem_crossDuplicates ref method finding).mp reported
  rw [saysAcross, List.isSuffixOf_iff_suffix]
  rcases made with rfl | rfl
  · exact crossMessage_ends name
  · exact crossMessage_ends name

theorem filter_isError (findings : List Diagnostic) (holds : Node → Prop)
    (errors : ErrorsAt holds findings) : findings.filter Diagnostic.isError = findings := by
  rw [List.filter_eq_self]
  intro finding reported
  simpa [Diagnostic.isError] using (errors finding reported).1

theorem length_cross :
    (crossDuplicates (listed ref method .input) (listed ref method .output)).length =
      2 * method.outArgs.countP fun argument =>
        argument.name ∈ method.inArgs.map (·.name) := by
  have names : ((listed ref method .output).map (·.1)).countP
      (fun name => name ∈ method.inArgs.map (·.name)) =
        method.outArgs.countP fun argument => argument.name ∈ method.inArgs.map (·.name) := by
    rw [map_listed, List.countP_map]
    rfl
  rw [length_crossDuplicates, map_listed, ← names, List.countP_map]
  rfl

/-- For every method, an argument is reported for its name exactly if another argument of the
method, in either direction, has it. For a name that is used in both directions there are two
errors for each outward argument of that name. -/
theorem argument_names_reported (options : Options) (ref : MemberRef) (method : Method)
    (found : model.method? ref = some method) :
    (∀ direction index argument,
      model.argument? (argumentOf ref direction index) = some argument →
        ((∃ finding ∈ run options [] model,
            SharedNameError (argumentOf ref direction index) argument.name finding) ↔
          ∃ otherDirection otherIndex other,
            model.argument? (argumentOf ref otherDirection otherIndex) = some other ∧
              (otherDirection, otherIndex) ≠ (direction, index) ∧
              other.name = argument.name)) ∧
    ((run options [] model).filter (isCrossError ref)).length =
      2 * method.outArgs.countP fun argument =>
        argument.name ∈ method.inArgs.map (·.name) := by
  constructor
  · intro direction index argument located
    simp only [argument?_of_method model ref method found] at located ⊢
    constructor
    · rintro ⟨finding, reported, error⟩
      apply sharesName_of_error ref method direction index argument located finding
      · rw [← filter_run model ref method found options, List.mem_filter]
        refine ⟨reported, ?_⟩
        simp [concernsArgument, error.kind, error.node, isArgumentOf, argumentOf]
      · exact error.node
    · intro shares
      obtain ⟨finding, reported, error⟩ :=
        error_of_sharesName ref method direction index argument located shares
      rw [← filter_run model ref method found options, List.mem_filter] at reported
      exact ⟨finding, reported.1, error⟩
  · -- errors across the directions are among those on names, which are known one by one
    have parts : isCrossError ref = fun finding =>
        finding.isError && (saysAcross finding && concernsArgument ref finding) := by
      funext finding
      rw [isCrossError, Bool.and_assoc]
    have errors : ErrorsAt (fun node => isArgumentOf ref node)
        ((argumentNameErrors ref method).filter saysAcross) :=
      fun finding reported =>
        errorsAt_argumentNameErrors ref method finding (List.mem_of_mem_filter reported)
    rw [parts, ← List.filter_filter, ← List.filter_filter, filter_run model ref method found,
      filter_isError _ _ errors, filter_across, length_cross]

def bareArgument (name : String) : Argument := ⟨name, .unknown, [], ⟨.primitive .int8, false⟩⟩

/-- One name is given to two inward arguments, two are used in both directions. -/
def meet : Method :=
  ⟨"meet", .unknown, [], none, false, ["a", "b", "a", "c"].map bareArgument,
    ["a", "c", "d"].map bareArgument, none⟩

def crowded : Model where
  name := "crowded"
  collections := []
  interfaces := [⟨"Crowd", .unknown, [], none, [], [meet], [], [], [], none⟩]
  types := []
  constants := []

theorem crowded_names :
    crowded.method? ⟨⟨0⟩, 0⟩ = some meet ∧
      (∃ finding ∈ run .standard [] crowded,
        SharedNameError (argumentOf ⟨⟨0⟩, 0⟩ .input 2) "a" finding) ∧
      ((run .standard [] crowded).filter (isCrossError ⟨⟨0⟩, 0⟩)).length = 4 := by
  have found : crowded.method? ⟨⟨0⟩, 0⟩ = some meet := rfl
  obtain ⟨reported, counted⟩ := argument_names_reported crowded .standard ⟨⟨0⟩, 0⟩ meet found
  exact ⟨found, (reported .input 2 _ rfl).mpr ⟨.output, 0, _, rfl, by decide, rfl⟩,
    counted.trans (by decide)⟩

end FrancaAudit.Check
