import FrancaAudit.Proofs.Check.Initializer
import FrancaAudit.Proofs.Model.Subexpression
import FrancaAudit.Proofs.Model.WithoutSpans

/-!
What is found out about expressions does not depend on spans.

Types, problems and integer values of an expression are the same for a model and for the model
without its spans. So is the outcome of holding a value against a type, but for the type that the
reason of a misfit may name.
-/

namespace FrancaAudit.Check

variable (model : Model)

@[simp]
theorem elementType?_withoutSpans (element : ElementRef) :
    elementType? model.withoutSpans element = elementType? model element := by
  simp only [elementType?, Model.element?_withoutSpans]
  cases model.element? element with
  | none => rfl
  | some found => cases element <;> simp [Option.bind_map]

@[simp]
theorem fieldType?_withoutSpans (owner : TypeId) (index : Nat) :
    fieldType? model.withoutSpans owner index = fieldType? model owner index := by
  simp [fieldType?, Option.bind_map]

@[simp]
theorem infer_withoutSpans (expr : Expr) :
    infer model.withoutSpans expr = infer model expr := by
  fun_induction infer model expr <;> simp [infer, *]

theorem binaryProblems_withoutSpans (op : BinaryOp) (left right : Option ValueType) :
    binaryProblems model.withoutSpans op left right = binaryProblems model op left right := by
  simp [binaryProblems]

theorem memberProblems_withoutSpans (base : Option ValueType) (owner : TypeId) (index : Nat) :
    memberProblems model.withoutSpans base owner index = memberProblems model base owner index := by
  simp [memberProblems]

mutual

@[simp]
theorem problems_withoutSpans (expr : Expr) :
    problems model.withoutSpans expr = problems model expr := by
  cases expr with
  | literal value => rfl
  | ref element => rfl
  | member base owner index =>
      simp only [problems, problems_withoutSpans base, infer_withoutSpans,
        memberProblems_withoutSpans]
  | unary op operand => simp only [problems, problems_withoutSpans operand, infer_withoutSpans]
  | binary op left right =>
      simp only [problems, problems_withoutSpans left, problems_withoutSpans right,
        infer_withoutSpans, binaryProblems_withoutSpans]
  | compound inits => exact initProblems_withoutSpans inits
  | bracket items => exact itemProblems_withoutSpans items

theorem initProblems_withoutSpans (inits : List FieldInit) :
    problems.initProblems model.withoutSpans inits = problems.initProblems model inits := by
  match inits with
  | [] => rfl
  | ⟨_, _, value⟩ :: rest =>
      simp only [problems.initProblems, problems_withoutSpans value, initProblems_withoutSpans rest]

theorem itemProblems_withoutSpans (items : List BracketItem) :
    problems.itemProblems model.withoutSpans items = problems.itemProblems model items := by
  match items with
  | [] => rfl
  | .item value :: rest =>
      simp only [problems.itemProblems, problems_withoutSpans value, itemProblems_withoutSpans rest]
  | .entry key value :: rest =>
      simp only [problems.itemProblems, problems_withoutSpans key, problems_withoutSpans value,
        itemProblems_withoutSpans rest]

end

@[simp]
theorem message_withoutSpans (problem : Problem) :
    problem.message model.withoutSpans = problem.message model := by
  unfold Problem.message
  cases problem with
  | notAnElement owner index type =>
      simp only [Model.field?_withoutSpans, Model.typeName_withoutSpans, Option.map_map,
        Function.comp_def, Field.withoutSpans_name]
  | _ => simp only [Model.label_withoutSpans]

theorem foldWithin_withoutSpans (levels : Nat) (expr : Expr) :
    foldWithin model.withoutSpans levels expr = foldWithin model levels expr := by
  induction levels generalizing expr with
  | zero => rfl
  | succ levels ih =>
      cases expr with
      | ref element =>
          cases element with
          | constant id =>
              simp only [foldWithin, Model.constant?_withoutSpans]
              cases model.constant? id <;> simp [ih]
          | _ => rfl
      | unary op operand => cases op <;> simp [foldWithin, ih]
      | binary op left right => simp [foldWithin, ih]
      | literal value => cases value <;> rfl
      | _ => rfl

@[simp]
theorem foldInt_withoutSpans (expr : Expr) :
    foldInt model.withoutSpans expr = foldInt model expr :=
  foldWithin_withoutSpans model _ expr

def Misfit.withoutSpans : Misfit → Misfit
  | .outOfRange value wanted => .outOfRange value wanted.withoutSpans
  | .inElement element reason => .inElement element reason.withoutSpans
  | .inItem index reason => .inItem index reason.withoutSpans
  | reason => reason

@[simp]
theorem Misfit.message_withoutSpans (reason : Misfit) :
    reason.withoutSpans.message model.withoutSpans = reason.message model := by
  induction reason with
  | outOfRange value wanted =>
      unfold message withoutSpans
      simp only [Model.typeRefLabel_withoutSpans]
  | foreignEnumerator owner index wanted =>
      unfold message withoutSpans
      simp only [Model.enumerator?_withoutSpans, Option.map_map, Function.comp_def,
        Enumerator.withoutSpans_name, Model.typeName_withoutSpans]
  | inElement element reason ih | inItem index reason ih =>
      unfold message withoutSpans
      simp only [ih]
  | _ =>
      unfold message withoutSpans
      simp only [Model.typeName_withoutSpans, Model.label_withoutSpans]

def outcome (checked : Except Misfit Unit) : Except Misfit Unit := checked.mapError (·.withoutSpans)

@[simp]
theorem outcome_ok (done : Unit) : outcome (.ok done) = .ok done := rfl

@[simp]
theorem outcome_error (reason : Misfit) : outcome (.error reason) = .error reason.withoutSpans := rfl

theorem fitsByType_withoutSpans (expr : Expr) (type : DeclaredType) :
    fitsByType model.withoutSpans expr type.withoutSpans = outcome (fitsByType model expr type) := by
  simp only [fitsByType, Model.valueType_withoutSpans, infer_withoutSpans,
    Model.compatible_withoutSpans]
  cases model.valueType type with
  | none => rfl
  | some wanted =>
      cases infer model expr with
      | none => rfl
      | some found =>
          dsimp only
          split_ifs <;> rfl

theorem fitsScalar_withoutSpans (expr : Expr) (ref : TypeRef) :
    fitsScalar model.withoutSpans expr ref.withoutSpans = outcome (fitsScalar model expr ref) :=
  fitsByType_withoutSpans model expr ⟨ref, false⟩

theorem fitsRange_withoutSpans (expr : Expr) (ref : TypeRef) (range : Range) :
    fitsRange model.withoutSpans expr ref.withoutSpans range =
      outcome (fitsRange model expr ref range) := by
  simp only [fitsRange, foldInt_withoutSpans, fitsScalar_withoutSpans]
  cases foldInt model expr with
  | none => rfl
  | some value =>
      dsimp only
      split_ifs <;> rfl

theorem fitBytes_withoutSpans (ref : TypeRef) (items : List BracketItem) (index : Nat) :
    fitBytes model.withoutSpans ref.withoutSpans items index =
      outcome (fitBytes model ref items index) := by
  induction items generalizing index with
  | nil => rfl
  | cons item rest ih =>
      cases item with
      | entry key value => rfl
      | item value =>
          simp only [fitBytes, fitsRange_withoutSpans, ih]
          cases fitsRange model value ref byteRange <;> rfl

theorem fitsEnumeration_withoutSpans (expr : Expr) (id : TypeId) (ref : TypeRef) :
    fitsEnumeration model.withoutSpans expr id ref.withoutSpans =
      outcome (fitsEnumeration model expr id ref) := by
  unfold fitsEnumeration
  split
  · simp only [Model.baseTypes_withoutSpans]
    split_ifs <;> rfl
  · exact fitsScalar_withoutSpans model expr ref

@[simp]
theorem initializedField?_withoutSpans (fields : List Model.DeclaredField) (owner : TypeId)
    (index : Nat) :
    initializedField? (fields.map (·.withoutSpans)) owner index =
      (initializedField? fields owner index).map (·.withoutSpans) := by
  rw [initializedField?, List.find?_map]
  rfl

theorem checkComplete_withoutSpans (fields : List Model.DeclaredField)
    (seen : List (TypeId × Nat)) :
    checkComplete (fields.map (·.withoutSpans)) seen = outcome (checkComplete fields seen) := by
  have missing : firstMissing? (fields.map (·.withoutSpans)) seen =
      (firstMissing? fields seen).map (·.withoutSpans) := by
    rw [firstMissing?, List.find?_map]
    rfl
  simp only [checkComplete, missing]
  cases firstMissing? fields seen <;> rfl

def Wanted.withoutSpans : Wanted → Wanted
  | .array element => .array element.withoutSpans
  | .map key value => .map key.withoutSpans value.withoutSpans
  | asked => asked

def Steady (expr : Expr) : Prop :=
  ∀ type : DeclaredType,
    fits model.withoutSpans expr type.withoutSpans = outcome (fits model expr type)

theorem fitItems_withoutSpans (items : List BracketItem)
    (each : ∀ value, .item value ∈ items → Steady model value) (index : Nat) (element : TypeRef) :
    fitItems model.withoutSpans items index element.withoutSpans =
      outcome (fitItems model items index element) := by
  induction items generalizing index with
  | nil => rw [fitItems, fitItems]; rfl
  | cons item rest ih =>
      cases item with
      | entry key value => rw [fitItems, fitItems]; rfl
      | item value =>
          have here := each value List.mem_cons_self ⟨element, false⟩
          have later := ih (fun other inside => each other (List.mem_cons_of_mem _ inside))
          rw [DeclaredType.withoutSpans] at here
          simp only [fitItems, here, later]
          cases fits model value ⟨element, false⟩ <;> rfl

theorem fitEntries_withoutSpans (items : List BracketItem)
    (each : ∀ key value, .entry key value ∈ items → Steady model key ∧ Steady model value)
    (keyType valueType : TypeRef) :
    fitEntries model.withoutSpans items keyType.withoutSpans valueType.withoutSpans =
      outcome (fitEntries model items keyType valueType) := by
  induction items with
  | nil => rw [fitEntries, fitEntries]; rfl
  | cons item rest ih =>
      cases item with
      | item value => rw [fitEntries, fitEntries]; rfl
      | entry key value =>
          obtain ⟨ofKey, ofValue⟩ := each key value List.mem_cons_self
          have keyFits := ofKey ⟨keyType, false⟩
          have valueFits := ofValue ⟨valueType, false⟩
          have later := ih (fun key value inside => each key value (List.mem_cons_of_mem _ inside))
          rw [DeclaredType.withoutSpans] at keyFits valueFits
          simp only [fitEntries, keyFits, valueFits, later]
          cases fits model key ⟨keyType, false⟩ with
          | error reason => rfl
          | ok _ => cases fits model value ⟨valueType, false⟩ <;> rfl

theorem fitFields_withoutSpans (inits : List FieldInit)
    (each : ∀ init ∈ inits, Steady model init.value) (struct : TypeId)
    (fields : List Model.DeclaredField) (seen : List (TypeId × Nat)) :
    fitFields model.withoutSpans inits struct (fields.map (·.withoutSpans)) seen =
      outcome (fitFields model inits struct fields seen) := by
  induction inits generalizing seen with
  | nil => simpa only [fitFields] using checkComplete_withoutSpans fields seen
  | cons init rest ih =>
      obtain ⟨owner, index, value⟩ := init
      have here : Steady model value := each ⟨owner, index, value⟩ List.mem_cons_self
      have later := ih (fun other inside => each other (List.mem_cons_of_mem _ inside))
      simp only [fitFields, initializedField?_withoutSpans, later]
      cases initializedField? fields owner index with
      | none => rfl
      | some found =>
          simp only [Option.map_some, Model.DeclaredField.withoutSpans_field,
            Field.withoutSpans_name, Field.withoutSpans_type, here found.field.type]
          split_ifs with repeated
          · rfl
          · cases fits model value found.field.type <;> rfl

theorem fitAlternative_withoutSpans (inits : List FieldInit)
    (each : ∀ init ∈ inits, Steady model init.value) (union : TypeId) :
    fitAlternative model.withoutSpans inits union = outcome (fitAlternative model inits union) := by
  match inits with
  | [] => rw [fitAlternative, fitAlternative] <;> simp [Misfit.withoutSpans]
  | [⟨owner, index, value⟩] =>
      have here : Steady model value := each ⟨owner, index, value⟩ List.mem_cons_self
      simp only [fitAlternative, Model.allFields_withoutSpans, initializedField?_withoutSpans]
      cases initializedField? (model.allFields union) owner index with
      | none => rfl
      | some found =>
          simp only [Option.map_some, Model.DeclaredField.withoutSpans_field,
            Field.withoutSpans_name, Field.withoutSpans_type, here found.field.type]
          cases fits model value found.field.type <;> rfl
  | first :: second :: rest => rw [fitAlternative, fitAlternative] <;> simp [Misfit.withoutSpans]

theorem wanted_withoutSpans (resolved : TypeRef) :
    wanted model.withoutSpans resolved.withoutSpans = (wanted model resolved).withoutSpans := by
  simp only [wanted, TypeRef.withoutSpans_kind]
  cases resolved.kind with
  | primitive primitive =>
      dsimp only [wantedOfPrimitive]
      cases primitive.range? with
      | some range => rfl
      | none => dsimp only; split_ifs <;> rfl
  | interval lower upper => rfl
  | derived id =>
      simp only [Model.type?_withoutSpans]
      cases model.type? id with
      | none => rfl
      | some definition =>
          simp only [Option.map_some, TypeDef.withoutSpans_kind]
          cases definition.kind <;> rfl

theorem init_inside (inits : List FieldInit) (init : FieldInit) (listed : init ∈ inits) :
    ∃ step, (step, init.value) ∈ (Expr.compound inits).children := by
  obtain ⟨index, located⟩ := List.getElem?_of_mem listed
  exact ⟨_, (Expr.mem_children_compound ..).mpr ⟨index, init, located, rfl, rfl⟩⟩

theorem held_inside (items : List BracketItem) (item : BracketItem) (listed : item ∈ items)
    (child : Expr) (held : ∀ index, ∃ step, (step, child) ∈ Expr.heldChildren index item) :
    ∃ step, (step, child) ∈ (Expr.bracket items).children := by
  obtain ⟨index, located⟩ := List.getElem?_of_mem listed
  obtain ⟨step, here⟩ := held index
  exact ⟨step, (Expr.mem_children_bracket ..).mpr ⟨index, item, located, here⟩⟩

theorem steady_items (items : List BracketItem)
    (inside : ∀ step child, (step, child) ∈ (Expr.bracket items).children → Steady model child)
    (value : Expr) (listed : .item value ∈ items) : Steady model value := by
  obtain ⟨step, child⟩ := held_inside items _ listed value fun index =>
    ⟨.item index, List.mem_singleton.mpr rfl⟩
  exact inside step value child

theorem steady_entries (items : List BracketItem)
    (inside : ∀ step child, (step, child) ∈ (Expr.bracket items).children → Steady model child)
    (key value : Expr) (listed : .entry key value ∈ items) :
    Steady model key ∧ Steady model value := by
  obtain ⟨step, ofKey⟩ := held_inside items _ listed key fun index =>
    ⟨.key index, List.mem_cons_self⟩
  obtain ⟨other, ofValue⟩ := held_inside items _ listed value fun index =>
    ⟨.value index, List.mem_cons_of_mem _ (List.mem_singleton.mpr rfl)⟩
  exact ⟨inside step key ofKey, inside other value ofValue⟩

theorem fitsAs_withoutSpans (expr : Expr)
    (inside : ∀ step child, (step, child) ∈ expr.children → Steady model child) (ref : TypeRef)
    (asked : Wanted) :
    fitsAs model.withoutSpans expr ref.withoutSpans asked.withoutSpans =
      outcome (fitsAs model expr ref asked) := by
  have otherwise := fitsScalar_withoutSpans model expr ref
  -- what is not written down as the type wants it is held against the type by its own type
  cases asked with
  | anything => rfl
  | integer range => exact fitsRange_withoutSpans model expr ref range
  | enumeration id => exact fitsEnumeration_withoutSpans model expr id ref
  | plain => exact otherwise
  | bytes =>
      cases expr with
      | bracket items => exact fitBytes_withoutSpans model ref items 0
      | _ => exact otherwise
  | struct id =>
      cases expr with
      | compound inits =>
          have each (init : FieldInit) (listed : init ∈ inits) : Steady model init.value :=
            (init_inside inits init listed).elim fun step => inside step init.value
          have fields := fitFields_withoutSpans model inits each id (model.allFields id) []
          rwa [← Model.allFields_withoutSpans] at fields
      | _ => exact otherwise
  | union id =>
      cases expr with
      | compound inits =>
          have each (init : FieldInit) (listed : init ∈ inits) : Steady model init.value :=
            (init_inside inits init listed).elim fun step => inside step init.value
          exact fitAlternative_withoutSpans model inits each id
      | _ => exact otherwise
  | array element =>
      cases expr with
      | bracket items =>
          exact fitItems_withoutSpans model items (steady_items model items inside) 0 element
      | _ => exact otherwise
  | map key value =>
      cases expr with
      | bracket items =>
          exact fitEntries_withoutSpans model items (steady_entries model items inside) key value
      | _ => exact otherwise

theorem fits_unresolved (ref : TypeRef) (lost : model.resolveAlias ref = none) (expr : Expr) :
    fits model expr ⟨ref, false⟩ = .ok () := by
  cases expr <;> rw [fits, lost]

theorem fits_withoutSpans (expr : Expr) : Steady model expr := by
  induction expr using Expr.inductionOn with
  | inner expr inside =>
      rintro ⟨ref, isArray⟩
      cases isArray with
      | true =>
          rw [DeclaredType.withoutSpans]
          cases expr with
          | bracket items =>
              rw [fits_items, fits_items]
              exact fitItems_withoutSpans model items (steady_items model items inside) 0 ref
          | _ =>
              rw [fits_array _ _ _ (by simp), fits_array _ _ _ (by simp)]
              exact fitsByType_withoutSpans model _ ⟨ref, true⟩
      | false =>
          have aliases := Model.resolveAlias_withoutSpans model ref
          cases found : model.resolveAlias ref with
          | none =>
              rw [found] at aliases
              rw [fits_unresolved model ref found, DeclaredType.withoutSpans,
                fits_unresolved model.withoutSpans _ aliases, outcome_ok]
          | some resolved =>
              rw [found] at aliases
              rw [fits_resolved model ref resolved found, DeclaredType.withoutSpans,
                fits_resolved model.withoutSpans _ _ aliases, wanted_withoutSpans]
              exact fitsAs_withoutSpans model expr inside resolved _

end FrancaAudit.Check
