import FrancaAudit.Proofs.Check.Kind
import FrancaAudit.Proofs.Model.Node

/-!
Annotations whose tag is not recognized, and what is found about them.

A declaration carries its annotations itself, and so do the error codes that a method lists. The
flat list of annotations has those of every declaration, once each, and none of the error codes, so
that the findings are complete for declarations only.
-/

namespace FrancaAudit

/-- Where an annotation can stand: at an element, or at an error code of a method's own list. -/
inductive AnnotationPlace
  | element (node : Node) (index : Nat)
  | errorCode (method : MemberRef) (position index : Nat)

namespace AnnotationPlace

def node : AnnotationPlace → Node
  | .element node _ => node
  | .errorCode method .. => .method method

def index : AnnotationPlace → Nat
  | .element _ index | .errorCode _ _ index => index

def OfElement : AnnotationPlace → Prop
  | .element .. => True
  | .errorCode .. => False

end AnnotationPlace

namespace Model

variable (model : Model)

def annotations? : Node → Option (List Annotation)
  | .collection id => (model.collection? id).map (·.annotations)
  | .interface id => (model.interface? id).map (·.annotations)
  | .type id => (model.type? id).map (·.annotations)
  | .field owner index => (model.field? owner index).map (·.annotations)
  | .enumerator owner index => (model.enumerator? owner index).map (·.annotations)
  | .constant id => (model.constant? id).map (·.annotations)
  | .attribute ref => (model.attribute? ref).map (·.annotations)
  | .method ref => (model.method? ref).map (·.annotations)
  | .broadcast ref => (model.broadcast? ref).map (·.annotations)
  | .argument ref => (model.argument? ref).map (·.annotations)
  | .model | .contract _ | .stateVariable .. | .state .. | .transition .. => none

def annotationAt? : AnnotationPlace → Option Annotation
  | .element node index => do
      let annotations ← model.annotations? node
      annotations[index]?
  | .errorCode ref position index => do
      let method ← model.method? ref
      let errors ← method.errors
      let enumerator ← errors.ownEnumerators[position]?
      enumerator.annotations[index]?

/-- The annotation stands at the place, and its tag is that of no kind of annotation. -/
structure UnknownTagAt (place : AnnotationPlace) (item : Annotation) : Prop where
  stands : model.annotationAt? place = some item
  unknown : ∀ kind : AnnotationKind, kind.tag ≠ item.tag

def annotationSite? (node : Node) : Option AnnotationSite :=
  (model.annotations? node).map fun annotations => ⟨node, annotations⟩

abbrev SurveysAnnotations (region : Node → Prop) (sites : List AnnotationSite) : Prop :=
  Surveys (fun node site => model.annotationSite? node = some site) region sites

/-- The declaration that an element is part of, at the outermost level. -/
def declaring : Node → Node
  | .field owner _ | .enumerator owner _ => .type owner
  | .attribute ref | .method ref | .broadcast ref => .interface ref.interface
  | .argument ref => .interface ref.interface
  | .contract interface | .stateVariable interface _ | .state interface _
  | .transition interface .. => .interface interface
  | node => node

theorem annotationSite?_hasNode (node : Node) (site : AnnotationSite)
    (stands : model.annotationSite? node = some site) : model.HasNode (declaring node) := by
  obtain ⟨annotations, found, _⟩ := Option.map_eq_some_iff.mp stands
  cases node with
  | model | contract _ | stateVariable _ _ | state _ _ | transition _ _ _ =>
      exact absurd found (Option.some_ne_none _).symm
  | argument ref =>
      obtain ⟨argument, located, _⟩ := Option.map_eq_some_iff.mp found
      exact argument?_has model ref argument located
  | field _ _ | enumerator _ _ | «attribute» _ | method _ | broadcast _ =>
      obtain ⟨item, located, _⟩ := Option.map_eq_some_iff.mp found
      exact Option.isSome_of_isSome_bind (Option.isSome_of_eq_some located)
  | collection _ | interface _ | type _ | constant _ =>
      obtain ⟨item, located, _⟩ := Option.map_eq_some_iff.mp found
      exact Option.isSome_of_eq_some located

theorem siblings_survey {β : Type} (items : List β) (node : Nat → Node)
    (annotations : β → List Annotation) (injective : Function.Injective node)
    (located : ∀ index, model.annotations? (node index) = items[index]?.map annotations) :
    model.SurveysAnnotations (fun other => ∃ index, other = node index)
      (placed items fun index item => [⟨node index, annotations item⟩]) := by
  apply surveys_positions model.annotationSite? items node _ injective
  · intro index item listed
    simp [annotationSite?, located, listed]
  · intro index beyond
    simp [annotationSite?, located, beyond]

theorem annotationSitesOfType_survey (id : TypeId) (definition : TypeDef)
    (found : model.type? id = some definition) :
    model.SurveysAnnotations (fun node => declaring node = .type id)
      (annotationSitesOfType id definition) := by
  have own := surveys_lookup model.annotationSite? (.type id) [⟨.type id, definition.annotations⟩]
    (by simp [annotationSite?, annotations?, found])
  have fields := siblings_survey model definition.kind.fields (.field id) (·.annotations)
    (fun first second same => (Node.field.inj same).2)
    (fun index => by simp [annotations?, field?, found])
  have enumerators := siblings_survey model definition.kind.enumerators (.enumerator id)
    (·.annotations) (fun first second same => (Node.enumerator.inj same).2)
    (fun index => by simp [annotations?, enumerator?, found])
  refine surveys_region _ _ _ (fun node site _ => ?_)
    (surveys_append _ _ _ _ (surveys_append _ _ _ _ own fields ?_) enumerators ?_)
  · cases node <;> simp [declaring, eq_comm]
  · rintro _ rfl
    simp
  · rintro _ (rfl | ⟨index, rfl⟩)
    · simp
    · simp

section Interface

variable (id : InterfaceId) (interface : Interface) (known : model.interface? id = some interface)

include known

theorem argumentAnnotations_survey :
    model.SurveysAnnotations (fun node => ∃ ref, node = .argument ref ∧ ref.interface = id)
      ((model.interfaceArguments id).map fun (ref, argument) =>
        ⟨.argument ref, argument.annotations⟩) := by
  refine surveys_convert _ model.annotationSite? _ _ Node.argument _
    (fun first second => Node.argument.inj) ?_
    (interfaceArguments_survey model id interface known)
  rintro ref rfl
  simp [annotationSite?, annotations?, argumentAt?, Function.comp_def]

theorem annotationSitesOfInterface_survey :
    model.SurveysAnnotations (fun node => declaring node = .interface id)
      (model.annotationSitesOfInterface id interface) := by
  have own := surveys_lookup model.annotationSite? (.interface id)
    [⟨.interface id, interface.annotations⟩] (by simp [annotationSite?, annotations?, known])
  have attributes := siblings_survey model interface.attributes (.attribute ⟨id, ·⟩)
    (·.annotations) (fun first second same => (MemberRef.mk.inj (Node.attribute.inj same)).2)
    (fun index => by simp [annotations?, attribute?, known])
  have methods := siblings_survey model interface.methods (.method ⟨id, ·⟩)
    (·.annotations) (fun first second same => (MemberRef.mk.inj (Node.method.inj same)).2)
    (fun index => by simp [annotations?, method?, known])
  have broadcasts := siblings_survey model interface.broadcasts (.broadcast ⟨id, ·⟩)
    (·.annotations) (fun first second same => (MemberRef.mk.inj (Node.broadcast.inj same)).2)
    (fun index => by simp [annotations?, broadcast?, known])
  have arguments := argumentAnnotations_survey model id interface known
  refine surveys_region _ _ _ (fun node site stands => ?_)
    (surveys_append _ _ _ _ (surveys_append _ _ _ _ (surveys_append _ _ _ _
      (surveys_append _ _ _ _ own attributes ?_) methods ?_) broadcasts ?_) arguments ?_)
  · cases node with
    | «attribute» ref | method ref | broadcast ref =>
        obtain ⟨container, index⟩ := ref
        simp [declaring]
    | contract _ | stateVariable _ _ | state _ _ | transition _ _ _ =>
        simp [annotationSite?, annotations?] at stands
    | _ => simp [declaring]
  · rintro _ rfl
    simp
  · rintro _ (rfl | ⟨index, rfl⟩)
    · simp
    · simp
  · rintro _ ((rfl | ⟨index, rfl⟩) | ⟨index, rfl⟩)
    · simp
    · simp
    · simp
  · rintro _ (((rfl | ⟨index, rfl⟩) | ⟨index, rfl⟩) | ⟨index, rfl⟩)
    · simp
    · simp
    · simp
    · simp

end Interface

theorem annotatableSites_survey :
    SurveysAll (fun node site => model.annotationSite? node = some site)
      model.annotatableSites := by
  have collections := siblings_survey model model.collections
    (fun index => .collection ⟨index⟩) (·.annotations)
    (fun first second same => congrArg CollectionId.index (Node.collection.inj same))
    (fun index => rfl)
  have types := surveys_keyed declaring model.HasNode (annotationSite?_hasNode model)
    model.types (fun index => .type ⟨index⟩) _
    (fun first second same => congrArg TypeId.index (Node.type.inj same))
    (by simp [HasNode, type?]) fun index => annotationSitesOfType_survey model ⟨index⟩
  have constants := siblings_survey model model.constants (fun index => .constant ⟨index⟩)
    (·.annotations) (fun first second same => congrArg ConstantId.index (Node.constant.inj same))
    (fun index => rfl)
  have interfaces := surveys_keyed declaring model.HasNode (annotationSite?_hasNode model)
    model.interfaces (fun index => .interface ⟨index⟩) _
    (fun first second same => congrArg InterfaceId.index (Node.interface.inj same))
    (by simp [HasNode, interface?]) fun index => annotationSitesOfInterface_survey model ⟨index⟩
  -- the four lists hold declarations of different sorts, and together all that has annotations
  refine surveys_region _ _ _ (fun node site stands => ?_)
    (surveys_append _ _ _ _ (surveys_append _ _ _ _
      (surveys_append _ _ _ _ collections types ?_) constants ?_) interfaces ?_)
  · cases node with
    | model => simp [annotationSite?, annotations?] at stands
    | collection id => exact iff_of_true (.inl (.inl (.inl ⟨id.index, rfl⟩))) trivial
    | type id | field id _ | enumerator id _ =>
        exact iff_of_true (.inl (.inl (.inr ⟨id.index, rfl⟩))) trivial
    | constant id => exact iff_of_true (.inl (.inr ⟨id.index, rfl⟩)) trivial
    | interface id | contract id | stateVariable id _ | state id _ | transition id _ _ =>
        exact iff_of_true (.inr ⟨id.index, rfl⟩) trivial
    | «attribute» ref | method ref | broadcast ref | argument ref =>
        exact iff_of_true (.inr ⟨ref.interface.index, rfl⟩) trivial
  · rintro _ ⟨index, rfl⟩
    simp [declaring]
  · rintro node (⟨index, rfl⟩ | ⟨index, inside⟩) ⟨other, same⟩
    · simp at same
    · simp [same, declaring] at inside
  · rintro node ((⟨index, rfl⟩ | ⟨index, inside⟩) | ⟨index, rfl⟩) ⟨other, there⟩
    · simp [declaring] at there
    · simp [inside] at there
    · simp [declaring] at there

end Model

theorem AnnotationKind.ofTag?_eq_none (tag : String) :
    AnnotationKind.ofTag? tag = none ↔ ∀ kind : AnnotationKind, kind.tag ≠ tag := by
  simp only [AnnotationKind.ofTag?, List.find?_eq_none, decide_eq_true_eq]
  constructor
  · intro unlisted kind
    exact unlisted kind (by cases kind <;> decide)
  · intro unknown kind _
    exact unknown kind

namespace Check

variable (model : Model)

def unknownTagFinding (place : AnnotationPlace) (item : Annotation) : Diagnostic :=
  ⟨.error, .unknownTag, place.node, .annotations, some place.index, item.span,
    "Invalid annotation type '@" ++ item.tag ++ "'"⟩

theorem tagFindings_survey (site : AnnotationSite) :
    SurveysAll (fun index finding => ∃ item, site.annotations[index]? = some item ∧
        (∀ kind : AnnotationKind, kind.tag ≠ item.tag) ∧
        finding = unknownTagFinding (.element site.node index) item)
      (Model.placed site.annotations fun index item =>
        if item.kind?.isSome then [] else [unknownTagFinding (.element site.node index) item]) := by
  have found (item : Annotation) :
      item.kind?.isSome = false ↔ ∀ kind : AnnotationKind, kind.tag ≠ item.tag := by
    rw [Option.isSome_eq_false_iff, Option.isNone_iff_eq_none, Annotation.kind?,
      AnnotationKind.ofTag?_eq_none]
  refine surveys_region _ _ _ (fun index finding _ => ?_)
    (surveys_placed _ _ (fun index other => other = index) ?_ ?_ ?_)
  · simp
  · rintro first second _ rfl same
    exact same
  · intro index item located
    cases recognized : item.kind?.isSome with
    | true =>
        rw [if_pos rfl]
        refine surveys_nil _ ?_
        rintro _ finding rfl ⟨_, same, unknown, _⟩
        obtain rfl := Option.some.inj (located.symm.trans same)
        simp [(found item).mpr unknown] at recognized
    | false =>
        rw [if_neg Bool.false_ne_true]
        refine surveys_singleton _ index _ rfl ⟨item, located, (found item).mp recognized, rfl⟩ ?_
        rintro _ finding rfl ⟨_, same, _, rfl⟩
        obtain rfl := Option.some.inj (located.symm.trans same)
        exact ⟨rfl, rfl⟩
  · rintro index _ finding rfl ⟨item, located, _⟩
    exact (List.getElem?_eq_some_iff.mp located).1

/-- Elements without annotations are passed over, but nothing would be found there. -/
theorem annotationFindings_eq :
    annotationFindings model = model.annotatableSites.flatMap fun site =>
      Model.placed site.annotations fun index item =>
        if item.kind?.isSome then []
        else [unknownTagFinding (.element site.node index) item] := by
  have tagged (site : AnnotationSite) (index : Nat) (item : Annotation) :
      (if item.kind?.isNone then [tagError site.node item index] else []) =
        if item.kind?.isSome then []
        else [unknownTagFinding (.element site.node index) item] := by
    cases item.kind? <;> rfl
  rw [annotationFindings, Model.annotationSites, ← flatMap_if]
  refine List.flatMap_congr fun site _ => ?_
  simp only [tagged]
  cases listed : site.annotations with
  | nil => rfl
  | cons first rest => rfl

theorem annotationFindings_survey :
    Surveys (fun place finding => ∃ item, model.UnknownTagAt place item ∧
      finding = unknownTagFinding place item) AnnotationPlace.OfElement
      (annotationFindings model) := by
  have nested := surveys_nested _ _ _ model.annotatableSites_survey tagFindings_survey
  rw [annotationFindings_eq]
  refine surveys_embed _ _ _ (fun place => .element place.1 place.2) ?_ ?_ nested
  · rintro ⟨node, index⟩ ⟨_, _⟩ same
    obtain ⟨rfl, rfl⟩ := AnnotationPlace.element.inj same
    rfl
  · intro place finding
    constructor
    · rintro ⟨inside, item, ⟨stands, unknown⟩, rfl⟩
      cases place with
      | errorCode method position index => exact inside.elim
      | element node index =>
          obtain ⟨annotations, found, located⟩ := Option.bind_eq_some_iff.mp stands
          exact ⟨(node, index), trivial, ⟨⟨node, annotations⟩,
            by simp [Model.annotationSite?, found], item, located, unknown, rfl⟩, rfl⟩
    · rintro ⟨⟨node, index⟩, _, ⟨site, stands, item, located, unknown, rfl⟩, rfl⟩
      obtain ⟨annotations, found, rfl⟩ := Option.map_eq_some_iff.mp stands
      exact ⟨trivial, item, ⟨by simp [Model.annotationAt?, found, located], unknown⟩, rfl⟩

/-- Every annotation of an element whose tag is unknown is found once, at the element, and nothing
else is said to have an unknown tag. The error codes that methods list are not searched. -/
theorem unknownTags_survey (elementOrder : Bool) :
    let findings :=
      (shapeFindings model elementOrder).filter fun finding => finding.kind = .unknownTag
    Surveys (fun place finding => ∃ item, model.UnknownTagAt place item ∧
        finding = unknownTagFinding place item) AnnotationPlace.OfElement findings ∧
      findings.length = {place : AnnotationPlace | place.OfElement ∧
        ∃ item, model.UnknownTagAt place item}.ncard := by
  rw [filter_unknownTag]
  have surveys := annotationFindings_survey model
  refine ⟨surveys, (length_of_surveys _ _ surveys).trans ?_⟩
  congr 1
  ext place
  constructor
  · rintro ⟨inside, _, item, stands, _⟩
    exact ⟨inside, item, stands⟩
  · rintro ⟨inside, item, stands⟩
    exact ⟨inside, _, item, stands, rfl⟩

/-- A method with an error code of its own, which carries a tag that no annotation has. -/
def clock : Model where
  name := "clock"
  collections := []
  interfaces :=
    [⟨"Clock", .unknown, [], none, [],
      [⟨"read", .unknown, [], none, false, [], [],
        some (.inline none [⟨"BUSY", .unknown, [⟨"bogus", "", .unknown⟩], none⟩])⟩],
      [], [], [], none⟩]
  types := []
  constants := []

theorem clock_unknownTags (place : AnnotationPlace) :
    (∃ item, clock.UnknownTagAt place item) ↔ place = .errorCode ⟨⟨0⟩, 0⟩ 0 0 := by
  constructor
  · rintro ⟨item, stands, _⟩
    cases place with
    | element node index =>
        obtain ⟨annotations, found, located⟩ := Option.bind_eq_some_iff.mp stands
        -- no element of the model has annotations
        have bare : ∀ site ∈ clock.annotatableSites, site.annotations = [] := by decide
        have listed : ⟨node, annotations⟩ ∈ clock.annotatableSites :=
          (mem_of_surveys _ _ clock.annotatableSites_survey _).mpr
            ⟨node, trivial, by simp [Model.annotationSite?, found]⟩
        obtain rfl : annotations = [] := bare _ listed
        simp at located
    | errorCode ref position index =>
        obtain ⟨⟨_ | _⟩, _ | _⟩ := ref <;> cases position <;> cases index <;>
          simp [Model.annotationAt?, Model.method?, Model.interface?, clock,
            MethodErrors.ownEnumerators] at stands ⊢
  · rintro rfl
    exact ⟨_, rfl, fun kind => by cases kind <;> decide⟩

/-- An annotation with an unknown tag is passed over. -/
theorem clock_passed :
    clock.Linked ∧ checkModel clock = [] ∧
      ((shapeFindings clock true).filter fun finding => finding.kind = .unknownTag).length ≠
        {place | ∃ item, clock.UnknownTagAt place item}.ncard := by
  have places : {place | ∃ item, clock.UnknownTagAt place item} =
      {.errorCode ⟨⟨0⟩, 0⟩ 0 0} :=
    Set.ext clock_unknownTags
  rw [places, Set.ncard_singleton]
  exact ⟨rfl, rfl, by decide⟩

end Check

end FrancaAudit
