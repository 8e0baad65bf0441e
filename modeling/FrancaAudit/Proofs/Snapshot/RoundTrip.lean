import FrancaAudit.Proofs.Json.Document
import FrancaAudit.Proofs.Json.Double
import FrancaAudit.Proofs.Model.Linked
import FrancaAudit.Proofs.Snapshot.Interface

/-!
A snapshot that is accepted is accepted again after it was written anew, and stands for the same
model.
-/

namespace FrancaAudit.Snapshot

open Model (exprSitesOfErrors exprSitesOfContract exprSitesOfTransition forall_mem_placed)

variable (double : Double → Json)

/-- Every floating point literal in the model is read back. -/
structure ModelReadsBack (model : Model) : Prop where
  constants : ∀ definition ∈ model.constants, FloatsReadBack double definition.value
  types : ∀ definition ∈ model.types, ∀ item ∈ definition.kind.enumerators,
    EnumeratorReadsBack double item
  interfaces : ∀ interface ∈ model.interfaces, InterfaceReadsBack double interface

theorem methodReadsBack_of_sites (id : InterfaceId) (interface : Interface)
    (each : ∀ site ∈ exprSitesOfErrors id interface, FloatsReadBack double site.expr) :
    ∀ method ∈ interface.methods, MethodReadsBack double method := by
  intro method listed errors given item stated value valued
  obtain ⟨index, located⟩ := List.mem_iff_getElem?.mp listed
  obtain ⟨position, placed⟩ := List.mem_iff_getElem?.mp stated
  have inMethod := (forall_mem_placed ..).mp each index method located
  rw [Option.mem_def.mp given] at inMethod
  have inItem := (forall_mem_placed ..).mp inMethod position item placed
  rw [Option.mem_def.mp valued] at inItem
  exact inItem _ (List.mem_singleton_self _)

theorem transitionReadsBack_of_sites (id : InterfaceId) (state index : Nat)
    (transition : Transition)
    (each : ∀ site ∈ exprSitesOfTransition id state index transition,
      FloatsReadBack double site.expr) : TransitionReadsBack double transition := by
  obtain ⟨guarded, assigned⟩ := List.forall_mem_append.mp each
  constructor
  · intro guard given
    rw [Option.mem_def.mp given] at guarded
    exact guarded _ (List.mem_singleton_self _)
  · intro assignment listed
    obtain ⟨position, located⟩ := List.mem_iff_getElem?.mp listed
    exact (forall_mem_placed ..).mp assigned position assignment located _
      (List.mem_singleton_self _)

theorem contractReadsBack_of_sites (id : InterfaceId) (contract : Contract)
    (each : ∀ site ∈ exprSitesOfContract id contract, FloatsReadBack double site.expr) :
    ContractReadsBack double contract := by
  obtain ⟨initial, steps⟩ := List.forall_mem_append.mp each
  constructor
  · intro item listed value given
    obtain ⟨index, located⟩ := List.mem_iff_getElem?.mp listed
    have inItem := (forall_mem_placed ..).mp initial index item located
    rw [Option.mem_def.mp given] at inItem
    exact inItem _ (List.mem_singleton_self _)
  · intro state stateListed transition listed
    obtain ⟨position, stateLocated⟩ := List.mem_iff_getElem?.mp stateListed
    obtain ⟨index, located⟩ := List.mem_iff_getElem?.mp listed
    have inState := (forall_mem_placed ..).mp steps position state stateLocated
    exact transitionReadsBack_of_sites double id position index transition
      ((forall_mem_placed ..).mp inState index transition located)

theorem modelReadsBack_of_sites (model : Model)
    (each : ∀ site ∈ model.exprSites, FloatsReadBack double site.expr) :
    ModelReadsBack double model := by
  obtain ⟨rest, inInterfaces⟩ := List.forall_mem_append.mp each
  obtain ⟨inConstants, inTypes⟩ := List.forall_mem_append.mp rest
  constructor
  · intro definition listed
    obtain ⟨index, located⟩ := List.mem_iff_getElem?.mp listed
    exact (forall_mem_placed ..).mp inConstants index definition located _
      (List.mem_singleton_self _)
  · intro definition listed item stated value given
    obtain ⟨index, located⟩ := List.mem_iff_getElem?.mp listed
    obtain ⟨position, placed⟩ := List.mem_iff_getElem?.mp stated
    have inType := (forall_mem_placed ..).mp inTypes index definition located
    have inItem := (forall_mem_placed ..).mp inType position item placed
    rw [Option.mem_def.mp given] at inItem
    exact inItem _ (List.mem_singleton_self _)
  · intro interface listed
    obtain ⟨index, located⟩ := List.mem_iff_getElem?.mp listed
    obtain ⟨inErrors, inContract⟩ := List.forall_mem_append.mp
      ((forall_mem_placed ..).mp inInterfaces index interface located)
    refine ⟨methodReadsBack_of_sites double _ interface inErrors, fun contract given => ?_⟩
    rw [Option.mem_def.mp given] at inContract
    exact contractReadsBack_of_sites double _ contract inContract

theorem typeCollection_restores : Restores Any 4 typeCollection Written.typeCollection := by
  refine restores_record ["name", "span", "annotations", "types", "constants"] rfl _ _
    (fun _ => rfl) Any 4 fun entered value room found _ => ?_
  simp only [Option.bind_eq_bind, Option.bind_eq_some_iff, Option.pure_def, Option.some.injEq]
    at found
  obtain ⟨name, nameRead, place, placeRead, annotations, annotationsRead, types, typesRead,
    constants, constantsRead, rfl⟩ := found
  exact .cons (text_restores.required (Nat.zero_le _) nameRead trivial) <|
    .cons (spanField_kept (by omega) placeRead) <|
    .cons (annotationsField_kept (by omega) annotationsRead) <|
    .cons (typeId_restores.listOf (by omega) typesRead fun _ _ => trivial) <|
    .cons (constantId_restores.listOf (by omega) constantsRead fun _ _ => trivial) .nothing

theorem model_restores :
    Restores (ModelReadsBack double) 12 model (Written.model double) := by
  refine restores_record ["name", "collections", "interfaces", "types", "constants"] rfl _ _
    (fun _ => rfl) _ 12 fun entered value room found back => ?_
  simp only [Option.bind_eq_bind, Option.bind_eq_some_iff, Option.pure_def, Option.some.injEq]
    at found
  obtain ⟨name, nameRead, collections, collectionsRead, interfaces, interfacesRead, types,
    typesRead, constants, constantsRead, rfl⟩ := found
  exact .cons (text_restores.orElse (Nat.zero_le _) nameRead trivial ⟨.string "", rfl⟩) <|
    .cons (typeCollection_restores.listOf (by omega) collectionsRead fun _ _ => trivial) <|
    .cons ((interface_restores double).listOf (by omega) interfacesRead back.interfaces) <|
    .cons ((typeDef_restores double).listOf (by omega) typesRead back.types) <|
    .cons ((constantDef_restores double).listOf (by omega) constantsRead back.constants) .nothing

theorem linked_eq_ok (found m : Model) :
    linked found = .ok m ↔ found = m ∧ m.danglingRef? = none := by
  cases ref : found.danglingRef? with
  | none =>
      simp only [linked, ref, Except.ok.injEq]
      exact ⟨fun same => ⟨same, same ▸ ref⟩, And.left⟩
  | some ref =>
      simp only [linked, ref, reduceCtorEq, false_iff, not_and]
      rintro rfl sound
      simp [ref] at sound

theorem readLinkedText_eq_ok (text : String) (m : Model) :
    readLinkedText text = .ok m ↔
      ∃ json, Json.parse text = some json ∧ model nestingLimit json = some m ∧
        m.danglingRef? = none := by
  cases parsed : Json.parse text with
  | none => simp [readLinkedText, readText, parsed, bind, Except.bind]
  | some json =>
      cases found : model nestingLimit json with
      | none => simp [readLinkedText, readText, readTree, parsed, found, bind, Except.bind]
      | some other =>
          have whole : readLinkedText text = linked other := by
            simp [readLinkedText, readText, readTree, parsed, found, bind, Except.bind]
          simp [whole, linked_eq_ok, found]

/-- A model that was accepted is written as a text that is accepted as the same model, in any
layout, if the finite literals in it are read back. The defaults that the first text left out are
written too, and still the second text is not nested too deep. -/
theorem readLinkedText_write (layout : Json.Layout) (spaced : layout.Spaced) (text : String)
    (m : Model) (accepted : readLinkedText text = .ok m)
    (back : ∀ site ∈ m.exprSites, ∀ path value,
      Expr.At site.expr path (.literal (.float value)) → value.IsFinite →
        ReadsBack double value) :
    readLinkedText (Json.write layout 0 (Written.model double m)) = .ok m := by
  obtain ⟨json, _, read, sound⟩ := (readLinkedText_eq_ok text m).mp accepted
  have literals : ModelReadsBack double m := by
    refine modelReadsBack_of_sites double m fun site listed path value reached => ?_
    -- a number of the first text stands for no other than a finite double
    rintro ⟨numeral, found⟩
    exact back site listed path value reached (numeral.toDouble?_isFinite value found)
  obtain ⟨spelled, again⟩ :=
    model_restores double nestingLimit json m (by decide) read literals
  exact (readLinkedText_eq_ok _ m).mpr
    ⟨_, Json.parse_write layout spaced _ spelled, again, sound⟩

def twoAndAHalf : Numeral := ⟨false, ['2'], some ['5'], none⟩

theorem twoAndAHalf_grammatical : twoAndAHalf.Grammatical where
  whole := ⟨List.cons_ne_nil _ _, List.forall_mem_singleton.mpr rfl⟩
  leading := by simp [twoAndAHalf]
  fraction := by
    rintro digits ⟨⟩
    exact ⟨List.cons_ne_nil _ _, List.forall_mem_singleton.mpr rfl⟩
  exponent := by simp [twoAndAHalf]

/-- A snapshot that leaves out what it can, with the use of a type and an operation as arrays. -/
def sparseSnapshot : Json :=
  .record
    [("collections", .array [.record [("name", .ofString "C"), ("constants", .array [.ofNat 0])]]),
      ("constants", .array [.record
        [("name", .ofString "c"), ("owner", Written.choice "collection" (.ofNat 0)),
          ("ty", .array [.array [.ofNat 3, .ofNat 5],
            Written.choice "primitive" (.ofString "Double")]),
          ("value", Written.choice "unary" (.array [.ofString "neg",
            Written.choice "literal" (Written.choice "float" (.number twoAndAHalf))]))]])]

theorem sparseSnapshot_spelled : sparseSnapshot.Spelled := by
  simp [sparseSnapshot, twoAndAHalf_grammatical]

def sparseModel : Model where
  name := ""
  collections := [⟨"C", .unknown, [], [], [⟨0⟩]⟩]
  interfaces := []
  types := []
  constants := [⟨"c", .unknown, .collection ⟨0⟩, [], ⟨⟨⟨3, 5⟩, .primitive .double⟩, false⟩,
    .unary .neg (.literal (.float ⟨0x4004000000000000⟩))⟩]

theorem sparseSnapshot_rewritten :
    readLinkedText (Json.write Json.indented 0 sparseSnapshot) = .ok sparseModel ∧
      readLinkedText (Json.write Json.compact 0
        (Written.model (fun _ => .number twoAndAHalf) sparseModel)) = .ok sparseModel := by
  have accepted : readLinkedText (Json.write Json.indented 0 sparseSnapshot) = .ok sparseModel :=
    (readLinkedText_eq_ok _ _).mpr
      ⟨_, Json.parse_write _ Json.indented_spaced _ sparseSnapshot_spelled, rfl, rfl⟩
  refine ⟨accepted, readLinkedText_write _ Json.compact Json.compact_spaced _ sparseModel accepted
    ?_⟩
  intro site listed path value reached _
  obtain rfl := List.mem_singleton.mp (show site ∈ [_] from listed)
  -- the only literal is the operand
  cases reached with
  | inside _ step operand path _ down rest =>
      obtain ⟨rfl, rfl⟩ := Prod.mk.inj (List.mem_singleton.mp down)
      cases rest with
      | here => exact ⟨_, rfl, twoAndAHalf_grammatical, by decide +kernel⟩
      | inside _ _ _ _ _ deeper _ => exact absurd deeper List.not_mem_nil

end FrancaAudit.Snapshot
