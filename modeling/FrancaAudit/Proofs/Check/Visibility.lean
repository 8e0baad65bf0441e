import FrancaAudit.Proofs.Check.Findings.Visibility
import FrancaAudit.Proofs.Model.Inheritance
import FrancaAudit.Proofs.Model.Stored
import FrancaAudit.Proofs.Model.Subexpression

/-!
Uses of declarations, and which of them are hidden.

The rules go through the uses of a model in five walks. Together these survey the places of use: a
finding stands for each place where something hidden is used, and for no place twice.
-/

namespace FrancaAudit

open Check (Use)

/-- Where a declaration can be used. -/
inductive UsePlace
  | type (place : TypePlace)
  | base (id : TypeId)
  | errors (method : MemberRef)
  | expression (place : ExprPlace) (path : List Expr.Step)
  | target (interface : InterfaceId) (state transition index : Nat)

def UsePlace.OfType : UsePlace → Prop
  | .type _ | .base _ | .errors _ => True
  | .expression .. | .target .. => False

inductive Used
  | type (id : TypeId)
  | element (element : ElementRef)

namespace Model

variable (model : Model)

/-- The declarations that the model uses, and how each use is reported. -/
inductive Uses : UsePlace → Use → Used → Prop
  | type (place : TypePlace) (site : TypeSite) (target : TypeId)
      (stands : model.TypeStandsAt place site) (named : site.ref.kind = .derived target) :
      Uses (.type place) ⟨site.node, .derived, none, model.spanOfTypeSite site, site.context⟩
        (.type target)
  | base (id : TypeId) (definition : TypeDef) (base : TypeId)
      (found : model.type? id = some definition) (extended : definition.kind.HasBase base) :
      Uses (.base id) ⟨.type id, .base, none, definition.span, definition.owner⟩ (.type base)
  | errors (ref : MemberRef) (method : Method) (errors : MethodErrors) (target : TypeId)
      (found : model.method? ref = some method) (declared : method.errors = some errors)
      (named : errors.Draws target) :
      Uses (.errors ref) ⟨.method ref, .errors, none, method.span, .interface ref.interface⟩
        (.type target)
  | expression (place : ExprPlace) (site : ExprSite) (path : List Expr.Step)
      (element : ElementRef) (stands : model.ExprStandsAt place site)
      (refers : site.expr.RefersAt path element) :
      Uses (.expression place path)
        ⟨site.node, site.feature, site.index, model.spanOf site.node, site.context⟩
        (.element element)
  | target (id : InterfaceId) (state index position : Nat) (transition : Transition)
      (assignment : Assignment) (found : model.HasTransition id state index transition)
      (listed : transition.assignments[position]? = some assignment) :
      Uses (.target id state index position)
        ⟨.transition id state index, .target, some position, assignment.span, .interface id⟩
        (.element assignment.target)

/-- What a declaration is called in a finding, and the container that has it. -/
inductive Declared : Used → String → Owner → Prop
  | type (id : TypeId) (definition : TypeDef) (found : model.type? id = some definition) :
      Declared (.type id) ("Type " ++ definition.name) definition.owner
  | attribute (id : InterfaceId) (index : Nat) (item : Attribute)
      (found : model.HasAttribute ⟨id, index⟩ item) :
      Declared (.element (.attribute id index)) ("Attribute " ++ item.name) (.interface id)
  | argument (ref : ArgumentRef) (item : Argument) (found : model.HasArgument ref item) :
      Declared (.element (.argument ref)) ("Argument " ++ item.name) (.interface ref.interface)
  | constant (id : ConstantId) (definition : ConstantDef)
      (found : model.constant? id = some definition) :
      Declared (.element (.constant id)) ("Constant " ++ definition.name) definition.owner
  | stateVariable (id : InterfaceId) (index : Nat) (item : StateVariable)
      (found : model.HasStateVariable id index item) :
      Declared (.element (.stateVariable id index)) ("State variable " ++ item.name)
        (.interface id)
  | field (owner : TypeId) (index : Nat) (definition : TypeDef) (field : Field)
      (found : model.type? owner = some definition)
      (listed : definition.kind.HasField index field) :
      Declared (.element (.field owner index)) ("Element of struct or union " ++ field.name)
        definition.owner
  | enumerator (owner : TypeId) (index : Nat) (definition : TypeDef) (enumerator : Enumerator)
      (found : model.type? owner = some definition)
      (listed : definition.kind.HasEnumerator index enumerator) :
      Declared (.element (.enumerator owner index)) ("Enumerator " ++ enumerator.name)
        definition.owner

/-- The container is the interface or derived from it. -/
def Sees (context : Owner) (confined : InterfaceId) : Prop :=
  ∃ user, context = .interface user ∧ Relation.ReflTransGen model.Extends user confined

/-- What stands at the place uses what an interface confines to itself and cannot see it. -/
def HiddenUse (place : UsePlace) (use : Use) (what : String) (confined : InterfaceId) : Prop :=
  (∃ used, model.Uses place use used ∧ model.Declared used what (.interface confined)) ∧
    ¬ model.Sees use.context confined

def hiddenFinding (use : Use) (what : String) (confined : InterfaceId) : Diagnostic :=
  ⟨.error, .visibilityViolation, use.node, use.feature, use.index, use.span,
    what ++ " can only be referenced inside interface " ++ model.interfaceName confined ++
      " or derived interfaces"⟩

def Reports (place : UsePlace) (finding : Diagnostic) : Prop :=
  ∃ use what confined, model.HiddenUse place use what confined ∧
    finding = model.hiddenFinding use what confined

end Model

namespace Check

variable (model : Model)

theorem sees_interface (user confined : InterfaceId) :
    model.Sees (.interface user) confined ↔ confined ∈ model.inheritanceSet user := by
  simp [Model.Sees, Model.mem_inheritanceSet]

theorem hiddenIn?_eq_some (context target : Owner) (confined : InterfaceId) :
    hiddenIn? model context target = some confined ↔
      target = .interface confined ∧ ¬ model.Sees context confined := by
  cases target with
  | collection id => simp [hiddenIn?, Owner.interface?]
  | interface owner =>
      cases context with
      -- a collection has no bases and sees nothing that is confined
      | collection id => simp [hiddenIn?, Owner.interface?, Model.Sees]
      | interface user =>
          simp only [hiddenIn?, Owner.interface?, sees_interface, Option.bind_eq_bind,
            Option.bind_some]
          by_cases seen : owner ∈ model.inheritanceSet user
          · rw [if_pos seen]
            simp only [reduceCtorEq, false_iff, not_and, not_not]
            rintro ⟨⟩
            exact seen
          · rw [if_neg seen]
            constructor
            · rintro ⟨⟩
              exact ⟨rfl, seen⟩
            · rintro ⟨⟨⟩, _⟩
              rfl

theorem mem_hiddenFindings (use : Use) (what : String) (target : Owner) (finding : Diagnostic) :
    finding ∈ hiddenFindings model use what target ↔
      ∃ confined, target = .interface confined ∧ ¬ model.Sees use.context confined ∧
        finding = model.hiddenFinding use what confined := by
  simp only [← and_assoc, ← hiddenIn?_eq_some]
  unfold hiddenFindings
  cases hiddenIn? model use.context target with
  | none => simp
  | some confined => simp [hiddenError, Model.hiddenFinding, Diagnostic.error]

theorem length_hiddenFindings (use : Use) (what : String) (target : Owner) :
    (hiddenFindings model use what target).length ≤ 1 := by
  unfold hiddenFindings
  split <;> simp

theorem declared_type (id : TypeId) (what : String) (owner : Owner) :
    model.Declared (.type id) what owner ↔
      ∃ definition, model.type? id = some definition ∧ what = "Type " ++ definition.name ∧
        definition.owner = owner := by
  constructor
  · rintro ⟨⟩
    exact ⟨_, ‹_›, rfl, rfl⟩
  · rintro ⟨definition, found, rfl, rfl⟩
    exact .type id definition found

theorem declared_element (element : ElementRef) (what : String) (owner : Owner) :
    model.Declared (.element element) what owner ↔
      ∃ found, model.element? element = some found ∧
        what = found.kind.label ++ " " ++ found.name ∧ found.owner = owner := by
  constructor
  · intro declared
    cases declared with
    | «attribute» id index item found =>
        rw [Model.hasAttribute_iff] at found
        exact ⟨⟨.attribute, _, _, some item.type⟩, by simp [Model.element?, found], rfl, rfl⟩
    | argument ref item found =>
        rw [Model.hasArgument_iff] at found
        exact ⟨⟨.argument, _, _, some item.type⟩, by simp [Model.element?, found], rfl, rfl⟩
    | constant id definition found =>
        exact ⟨⟨.constant, _, _, some definition.type⟩, by simp [Model.element?, found], rfl, rfl⟩
    | stateVariable id index item found =>
        rw [Model.hasStateVariable_iff] at found
        exact ⟨⟨.stateVariable, _, _, some item.type⟩, by simp [Model.element?, found], rfl, rfl⟩
    | field id index definition field found listed =>
        have located := (definition.kind.fields_eq_some index field).mpr listed
        exact ⟨⟨.field, _, _, some field.type⟩, by simp [Model.element?, found, located], rfl, rfl⟩
    | enumerator id index definition enumerator found listed =>
        have located := (definition.kind.enumerators_eq_some index enumerator).mpr listed
        exact ⟨⟨.enumerator, _, _, none⟩, by simp [Model.element?, found, located], rfl, rfl⟩
  · rintro ⟨resolved, found, rfl, rfl⟩
    cases element with
    | «attribute» id index =>
        obtain ⟨item, located, ⟨⟩⟩ := Option.bind_eq_some_iff.mp found
        exact .attribute id index item ((model.hasAttribute_iff _ item).mpr located)
    | argument ref =>
        obtain ⟨item, located, ⟨⟩⟩ := Option.bind_eq_some_iff.mp found
        exact .argument ref item ((model.hasArgument_iff ref item).mpr located)
    | constant id =>
        obtain ⟨definition, located, ⟨⟩⟩ := Option.bind_eq_some_iff.mp found
        exact .constant id definition located
    | stateVariable id index =>
        obtain ⟨item, located, ⟨⟩⟩ := Option.bind_eq_some_iff.mp found
        exact .stateVariable id index item ((model.hasStateVariable_iff id index item).mpr located)
    | field id index =>
        obtain ⟨definition, located, inner⟩ := Option.bind_eq_some_iff.mp found
        obtain ⟨field, listed, ⟨⟩⟩ := Option.bind_eq_some_iff.mp inner
        exact .field id index definition field located
          ((definition.kind.fields_eq_some index field).mp listed)
    | enumerator id index =>
        obtain ⟨definition, located, inner⟩ := Option.bind_eq_some_iff.mp found
        obtain ⟨enumerator, listed, ⟨⟩⟩ := Option.bind_eq_some_iff.mp inner
        exact .enumerator id index definition enumerator located
          ((definition.kind.enumerators_eq_some index enumerator).mp listed)

theorem mem_typeUseFindings (use : Use) (target : TypeId) (finding : Diagnostic) :
    finding ∈ typeUseFindings model use target ↔
      ∃ what confined, model.Declared (.type target) what (.interface confined) ∧
        ¬ model.Sees use.context confined ∧ finding = model.hiddenFinding use what confined := by
  simp only [declared_type]
  unfold typeUseFindings
  cases found : model.type? target with
  | none => simp
  | some definition =>
      simp only [mem_hiddenFindings, Option.some.injEq, exists_eq_left', and_assoc, exists_and_left,
        exists_eq_left]

theorem mem_elementUseFindings (use : Use) (target : ElementRef) (finding : Diagnostic) :
    finding ∈ elementUseFindings model use target ↔
      ∃ what confined, model.Declared (.element target) what (.interface confined) ∧
        ¬ model.Sees use.context confined ∧ finding = model.hiddenFinding use what confined := by
  simp only [declared_element]
  unfold elementUseFindings
  cases found : model.element? target with
  | none => simp
  | some element =>
      simp only [mem_hiddenFindings, Option.some.injEq, exists_eq_left', and_assoc, exists_and_left,
        exists_eq_left]

theorem length_typeUseFindings (use : Use) (target : TypeId) :
    (typeUseFindings model use target).length ≤ 1 := by
  unfold typeUseFindings
  split
  · simp
  · exact length_hiddenFindings model _ _ _

theorem length_elementUseFindings (use : Use) (target : ElementRef) :
    (elementUseFindings model use target).length ≤ 1 := by
  unfold elementUseFindings
  split
  · simp
  · exact length_hiddenFindings model _ _ _

abbrev SurveysTypeUses (region : UsePlace → Prop) (uses : List (Use × TypeId)) : Prop :=
  Surveys (fun place entry => model.Uses place entry.1 (.type entry.2)) region uses

abbrev SurveysElementUses (region : UsePlace → Prop) (uses : List (Use × ElementRef)) : Prop :=
  Surveys (fun place entry => model.Uses place entry.1 (.element entry.2)) region uses

theorem typeSiteUses_survey :
    SurveysTypeUses model (fun place => ∃ inner, place = .type inner) (typeSiteUses model) := by
  refine surveys_embed _ _ _ UsePlace.type (fun _ _ => UsePlace.type.inj) ?_
    (surveys_filterMap _ _ _ model.typeSites_stored)
  rintro place ⟨use, target⟩
  constructor
  · rintro ⟨⟨inner, rfl⟩, used⟩
    cases used with
    | type _ site _ stands named =>
        refine ⟨inner, trivial, ⟨site, stands, ?_⟩, rfl⟩
        simp [(Model.derivedId?_eq_some ..).mpr named]
  · rintro ⟨inner, _, ⟨site, stands, picked⟩, rfl⟩
    obtain ⟨target, named, ⟨⟩⟩ := Option.map_eq_some_iff.mp picked
    exact ⟨⟨inner, rfl⟩, .type inner site target stands ((Model.derivedId?_eq_some ..).mp named)⟩

theorem baseUses_survey :
    SurveysTypeUses model (fun place => ∃ index, place = .base ⟨index⟩) (baseUses model) := by
  rw [baseUses, filterMap_zipIdx]
  refine surveys_indexed model.types (fun index => UsePlace.base ⟨index⟩) _ ?_ ?_ ?_
  · intro first second same
    exact congrArg TypeId.index (UsePlace.base.inj same)
  · rintro index definition located ⟨use, target⟩
    rw [Option.map_eq_some_iff]
    constructor
    · intro used
      cases used with
      | base _ other base found extended =>
          obtain rfl := Option.some.inj (located.symm.trans found)
          exact ⟨target, (definition.kind.base?_eq_some target).mpr extended, rfl⟩
    · rintro ⟨base, extended, ⟨⟩⟩
      exact .base ⟨index⟩ definition target located
        ((definition.kind.base?_eq_some target).mp extended)
  · rintro index ⟨use, target⟩ used
    cases used with
    | base _ definition base found extended => exact (List.getElem?_eq_some_iff.mp found).1

theorem methodErrors_survey (id : InterfaceId) (interface : Interface)
    (known : model.interface? id = some interface) :
    SurveysTypeUses model (fun place => ∃ index, place = .errors ⟨id, index⟩)
      (interface.methods.zipIdx.filterMap fun (method, index) =>
        (method.errors.bind (·.enumeration?)).map fun target =>
          (⟨.method ⟨id, index⟩, .errors, none, method.span, .interface id⟩, target)) := by
  rw [filterMap_zipIdx]
  refine surveys_indexed interface.methods (fun index => UsePlace.errors ⟨id, index⟩) _ ?_ ?_ ?_
  · intro first second same
    exact (MemberRef.mk.inj (UsePlace.errors.inj same)).2
  · rintro index method located ⟨use, target⟩
    have listed : model.method? ⟨id, index⟩ = some method := by simp [Model.method?, known, located]
    rw [Option.map_eq_some_iff]
    constructor
    · intro used
      cases used with
      | errors _ other errors _ found declared named =>
          obtain rfl := Option.some.inj (listed.symm.trans found)
          exact ⟨target, by simp [declared, (errors.enumeration?_eq_some target).mpr named], rfl⟩
    · rintro ⟨_, picked, ⟨⟩⟩
      obtain ⟨errors, declared, named⟩ := Option.bind_eq_some_iff.mp picked
      exact .errors ⟨id, index⟩ method errors target listed declared
        ((errors.enumeration?_eq_some target).mp named)
  · rintro index ⟨use, target⟩ used
    cases used with
    | errors _ method errors _ found declared named =>
        simp only [Model.method?, known] at found
        exact (List.getElem?_eq_some_iff.mp found).1

theorem errorUses_survey :
    SurveysTypeUses model (fun place => ∃ position index, place = .errors ⟨⟨position⟩, index⟩)
      (errorUses model) := by
  refine surveys_placed _ _
    (fun position place => ∃ index, place = UsePlace.errors ⟨⟨position⟩, index⟩) ?_
    (fun position => methodErrors_survey model ⟨position⟩) ?_
  · rintro first second _ ⟨_, rfl⟩ ⟨_, same⟩
    exact congrArg InterfaceId.index (MemberRef.mk.inj (UsePlace.errors.inj same)).1
  · rintro position _ ⟨use, target⟩ ⟨index, rfl⟩ used
    cases used with
    | errors _ method errors _ found declared named =>
        obtain ⟨interface, known, _⟩ := Option.bind_eq_some_iff.mp found
        exact (List.getElem?_eq_some_iff.mp known).1

abbrev siteUse (site : ExprSite) : Use :=
  ⟨site.node, site.feature, site.index, model.spanOf site.node, site.context⟩

theorem siteUses_survey (site : ExprSite) :
    SurveysAll
      (fun path entry => ∃ element, site.expr.RefersAt path element ∧
        entry = (siteUse model site, element))
      (site.expr.elementRefs.map fun target => (siteUse model site, target)) := by
  refine surveys_map _ _ _ id _ Function.injective_id ?_ (Expr.elementRefs_survey site.expr)
  rintro path entry
  simp [eq_comm]

theorem expressionUses_survey :
    SurveysElementUses model (fun place => ∃ inner path, place = .expression inner path)
      (expressionUses model) := by
  refine surveys_embed _ _ _
    (fun inner : ExprPlace × List Expr.Step => UsePlace.expression inner.1 inner.2) ?_ ?_
    (surveys_nested _ _ _ model.exprSites_stored (siteUses_survey model))
  · rintro ⟨first, ahead⟩ ⟨second, behind⟩ same
    exact Prod.ext (UsePlace.expression.inj same).1 (UsePlace.expression.inj same).2
  · rintro place ⟨use, element⟩
    constructor
    · rintro ⟨⟨inner, path, rfl⟩, used⟩
      cases used with
      | expression _ site _ _ stands refers =>
          exact ⟨(inner, path), trivial, ⟨site, stands, element, refers, rfl⟩, rfl⟩
    · rintro ⟨⟨inner, path⟩, _, ⟨site, stands, _, refers, ⟨⟩⟩, rfl⟩
      exact ⟨⟨inner, path, rfl⟩, .expression inner site path element stands refers⟩

theorem transitionTargets_survey (id : InterfaceId) (state index : Nat) (transition : Transition)
    (found : model.HasTransition id state index transition) :
    SurveysElementUses model (fun place => ∃ position, place = .target id state index position)
      (transition.assignments.zipIdx.map fun (assignment, place) =>
        (⟨.transition id state index, .target, some place, assignment.span, .interface id⟩,
          assignment.target)) := by
  rw [map_zipIdx]
  refine surveys_indexed transition.assignments (UsePlace.target id state index)
    (fun position assignment => some _) ?_ ?_ ?_
  · intro first second same
    exact (UsePlace.target.inj same).2.2.2
  · rintro position assignment listed ⟨use, element⟩
    rw [Option.some.injEq]
    constructor
    · intro used
      cases used with
      | target _ _ _ _ other another located there =>
          obtain rfl := model.hasTransition_unique id state index _ _ found located
          obtain rfl := Option.some.inj (listed.symm.trans there)
          rfl
    · rintro ⟨⟩
      exact .target id state index position transition assignment found listed
  · rintro position ⟨use, element⟩ used
    cases used with
    | target _ _ _ _ other another located there =>
        obtain rfl := model.hasTransition_unique id state index _ _ found located
        exact (List.getElem?_eq_some_iff.mp there).1

theorem interfaceTargets_survey (id : InterfaceId) (interface : Interface)
    (known : model.interface? id = some interface) :
    SurveysElementUses model
      (fun place => ∃ state index position, place = .target id state index position)
      (interface.contract.toList.flatMap fun contract =>
        Model.placed contract.states fun state declared =>
          Model.placed declared.transitions fun index transition =>
            transition.assignments.zipIdx.map fun (assignment, place) =>
              (⟨.transition id state index, .target, some place, assignment.span, .interface id⟩,
                assignment.target)) := by
  cases agreed : interface.contract with
  | none =>
      -- no contract, no place in one
      refine surveys_nil _ ?_
      rintro _ ⟨use, element⟩ ⟨state, index, position, rfl⟩ used
      cases used with
      | target _ _ _ _ transition assignment found listed =>
          obtain ⟨other, contract, _, again, contracted, _⟩ := found
          obtain rfl := Option.some.inj (known.symm.trans again)
          exact nomatch agreed.symm.trans contracted
  | some contract =>
      rw [Option.toList_some, List.flatMap_singleton]
      have located := (Model.contract?_eq_some model id contract).mpr ⟨interface, known, agreed⟩
      refine Model.surveys_transitions model id contract located
        (fun state index place => ∃ position, place = UsePlace.target id state index position) _
        ?_ ?_ fun state index transition found => transitionTargets_survey model id state index
          transition ((model.hasTransition_iff id state index transition).mpr found)
      · rintro state index otherState otherIndex _ ⟨_, rfl⟩ ⟨_, same⟩
        exact ⟨(UsePlace.target.inj same).2.1, (UsePlace.target.inj same).2.2.1⟩
      · rintro state index _ ⟨use, element⟩ ⟨position, rfl⟩ used
        cases used with
        | target _ _ _ _ transition assignment found listed =>
            exact ⟨transition, (model.hasTransition_iff id state index transition).mp found⟩

theorem targetUses_survey :
    SurveysElementUses model
      (fun place => ∃ owner state index position, place = .target ⟨owner⟩ state index position)
      (targetUses model) := by
  refine surveys_placed _ _
    (fun owner place => ∃ state index position, place = UsePlace.target ⟨owner⟩ state index position)
    ?_ (fun owner => interfaceTargets_survey model ⟨owner⟩) ?_
  · rintro first second _ ⟨_, _, _, rfl⟩ ⟨_, _, _, same⟩
    exact congrArg InterfaceId.index (UsePlace.target.inj same).1
  · rintro owner _ ⟨use, element⟩ ⟨state, index, position, rfl⟩ used
    cases used with
    | target _ _ _ _ transition assignment found listed =>
        obtain ⟨interface, _, _, known, _⟩ := found
        exact (List.getElem?_eq_some_iff.mp known).1

theorem typeUses_survey :
    SurveysTypeUses model UsePlace.OfType
      (typeSiteUses model ++ baseUses model ++ errorUses model) := by
  refine surveys_region _ _ _ ?_ (surveys_append _ _ _ _ (surveys_append _ _ _ _
    (typeSiteUses_survey model) (baseUses_survey model) ?_) (errorUses_survey model) ?_)
  · rintro place ⟨use, target⟩ used
    cases used with
    | type inner _ _ _ _ => simp [UsePlace.OfType]
    | base id _ _ _ _ =>
        obtain ⟨index⟩ := id
        simp [UsePlace.OfType]
    | errors ref _ _ _ _ _ _ =>
        obtain ⟨⟨position⟩, index⟩ := ref
        simp [UsePlace.OfType]
  · rintro _ ⟨_, rfl⟩ ⟨_, same⟩
    exact UsePlace.noConfusion same
  · rintro _ (⟨_, rfl⟩ | ⟨_, rfl⟩) ⟨_, _, same⟩
    · exact UsePlace.noConfusion same
    · exact UsePlace.noConfusion same

theorem elementUses_survey :
    SurveysElementUses model (fun place => ¬ place.OfType)
      (expressionUses model ++ targetUses model) := by
  refine surveys_region _ _ _ ?_ (surveys_append _ _ _ _ (expressionUses_survey model)
    (targetUses_survey model) ?_)
  · rintro place ⟨use, element⟩ used
    cases used with
    | expression inner _ path _ _ _ => simp [UsePlace.OfType]
    | target id state index position _ _ _ _ =>
        obtain ⟨owner⟩ := id
        simp [UsePlace.OfType]
  · rintro _ ⟨_, _, rfl⟩ ⟨_, _, _, _, same⟩
    exact UsePlace.noConfusion same

theorem used_type (place : UsePlace) (use : Use) (used : Used) (here : place.OfType)
    (uses : model.Uses place use used) : ∃ id, Used.type id = used := by
  cases uses with
  | type _ _ target _ _ => exact ⟨target, rfl⟩
  | base _ _ base _ _ => exact ⟨base, rfl⟩
  | errors _ _ _ target _ _ _ => exact ⟨target, rfl⟩
  | expression _ _ _ _ _ _ | target _ _ _ _ _ _ _ _ => exact here.elim

theorem used_element (place : UsePlace) (use : Use) (used : Used) (here : ¬ place.OfType)
    (uses : model.Uses place use used) : ∃ element, Used.element element = used := by
  cases uses with
  | expression _ _ _ element _ _ => exact ⟨element, rfl⟩
  | target _ _ _ _ _ assignment _ _ => exact ⟨assignment.target, rfl⟩
  | type _ _ _ _ _ | base _ _ _ _ _ | errors _ _ _ _ _ _ _ => exact absurd trivial here

/-- The findings of a walk report the hidden uses in its region, if it lists all that is used
there. -/
theorem findings_survey {Target : Type} (used : Target → Used) (region : UsePlace → Prop)
    (findings : Use → Target → List Diagnostic)
    (reported : ∀ use target finding, finding ∈ findings use target ↔
      ∃ what confined, model.Declared (used target) what (.interface confined) ∧
        ¬ model.Sees use.context confined ∧ finding = model.hiddenFinding use what confined)
    (single : ∀ use target, (findings use target).length ≤ 1)
    (only : ∀ place use item, region place → model.Uses place use item →
      ∃ target, used target = item)
    (uses : List (Use × Target))
    (listed : Surveys (fun place entry => model.Uses place entry.1 (used entry.2)) region uses) :
    Surveys model.Reports region (uses.flatMap fun entry => findings entry.1 entry.2) := by
  refine surveys_congr _ _ _ (fun place finding => and_congr_right fun here => ?_)
    (surveys_singles _ _ _ (fun entry => single entry.1 entry.2) listed)
  constructor
  · rintro ⟨⟨use, target⟩, stands, member⟩
    obtain ⟨what, confined, declared, hidden, rfl⟩ := (reported use target finding).mp member
    exact ⟨use, what, confined, ⟨⟨used target, stands, declared⟩, hidden⟩, rfl⟩
  · rintro ⟨use, what, confined, ⟨⟨item, stands, declared⟩, hidden⟩, rfl⟩
    obtain ⟨target, rfl⟩ := only place use item here stands
    exact ⟨(use, target), stands, (reported use target _).mpr
      ⟨what, confined, declared, hidden, rfl⟩⟩

theorem visibilityFindings_survey :
    SurveysAll model.Reports (visibilityFindings model) := by
  rw [visibilityFindings, (appends_checkVisibility model).findings_eq]
  have types := findings_survey model .type _ _ (mem_typeUseFindings model)
    (length_typeUseFindings model) (used_type model) _ (typeUses_survey model)
  have elements := findings_survey model .element _ _ (mem_elementUseFindings model)
    (length_elementUseFindings model) (used_element model) _ (elementUses_survey model)
  refine surveys_region _ _ _ (fun place finding _ => ?_)
    (surveys_append _ _ _ _ types elements fun place here there => there here)
  exact iff_true_intro (Classical.em place.OfType)

/-- There is one finding for each hidden use, and no other. -/
theorem visibilityFindings_once :
    ∃ places : List UsePlace, places.Nodup ∧
      (∀ place, place ∈ places ↔ ∃ use what confined, model.HiddenUse place use what confined) ∧
      List.Forall₂ model.Reports places (visibilityFindings model) := by
  obtain ⟨entries, listed, once, all⟩ := visibilityFindings_survey model
  refine ⟨entries.map Prod.fst, once, fun place => ?_, ?_⟩
  · simp only [List.mem_map, Prod.exists, exists_and_right, exists_eq_right, all, true_and]
    constructor
    · rintro ⟨_, use, what, confined, hidden, _⟩
      exact ⟨use, what, confined, hidden⟩
    · rintro ⟨use, what, confined, hidden⟩
      exact ⟨_, use, what, confined, hidden, rfl⟩
  · rw [← listed, List.forall₂_map_left_iff, List.forall₂_map_right_iff, List.forall₂_same]
    rintro ⟨place, finding⟩ member
    exact ((all place finding).mp member).2

def failingInterface (name : String) (base : Option InterfaceId) (types : List TypeId) :
    Interface where
  name := name
  span := .unknown
  annotations := []
  base := base
  attributes := []
  methods := [⟨"open", .unknown, [], none, false, [], [], some (.enumeration ⟨0⟩)⟩,
    ⟨"shut", .unknown, [], none, false, [], [], some (.inline (some ⟨0⟩) [])⟩]
  broadcasts := []
  types := types
  constants := []
  contract := none

/-- An interface with types of its own, its heir, and a stranger. Heir and stranger use the types
alike, for error codes, for error codes of their own, and as a base. -/
def neighbors : Model where
  name := "neighbors"
  collections := []
  interfaces := [failingInterface "Owner" none [⟨0⟩, ⟨1⟩],
    failingInterface "Heir" (some ⟨0⟩) [⟨2⟩], failingInterface "Stranger" none [⟨3⟩]]
  types := [⟨"Fault", .unknown, .interface ⟨0⟩, [], .enumeration none []⟩,
    ⟨"Root", .unknown, .interface ⟨0⟩, [], .struct none true []⟩,
    ⟨"Leaf", .unknown, .interface ⟨1⟩, [], .struct (some ⟨1⟩) true []⟩,
    ⟨"Weed", .unknown, .interface ⟨2⟩, [], .struct (some ⟨1⟩) true []⟩]
  constants := []

theorem neighbors_hidden (place : UsePlace) (use : Use) (target : TypeId) (definition : TypeDef)
    (uses : neighbors.Uses place use (.type target)) (foreign : use.context = .interface ⟨2⟩)
    (found : neighbors.type? target = some definition) (own : definition.owner = .interface ⟨0⟩) :
    ∃ use what confined, neighbors.HiddenUse place use what confined := by
  have declared :
      neighbors.Declared (.type target) ("Type " ++ definition.name) (.interface ⟨0⟩) := by
    rw [← own]
    exact .type target definition found
  refine ⟨use, _, ⟨0⟩, ⟨_, uses, declared⟩, ?_⟩
  rw [foreign, sees_interface]
  decide

/-- The stranger has one finding for each of its uses, and nobody else has any. -/
theorem neighbors_reported :
    ∃ places : List UsePlace, places.Nodup ∧
      List.Forall₂ neighbors.Reports places (visibilityFindings neighbors) ∧
      places.length = 3 ∧ .base ⟨3⟩ ∈ places ∧ .errors ⟨⟨2⟩, 0⟩ ∈ places ∧
      .errors ⟨⟨2⟩, 1⟩ ∈ places := by
  obtain ⟨places, once, all, reports⟩ := visibilityFindings_once neighbors
  refine ⟨places, once, reports, reports.length_eq, ?_, ?_, ?_⟩
  · exact (all _).mpr (neighbors_hidden _ _ ⟨1⟩ _
      (.base ⟨3⟩ _ ⟨1⟩ rfl (.struct ⟨1⟩ true [])) rfl rfl rfl)
  · exact (all _).mpr (neighbors_hidden _ _ ⟨0⟩ _
      (.errors ⟨⟨2⟩, 0⟩ _ _ ⟨0⟩ rfl rfl (.enumeration ⟨0⟩)) rfl rfl rfl)
  · exact (all _).mpr (neighbors_hidden _ _ ⟨0⟩ _
      (.errors ⟨⟨2⟩, 1⟩ _ _ ⟨0⟩ rfl rfl (.inline ⟨0⟩ [])) rfl rfl rfl)

end Check

end FrancaAudit
