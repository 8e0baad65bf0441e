import FrancaAudit.Proofs.Check.Findings.Overload
import FrancaAudit.Proofs.Model.Inheritance
import FrancaAudit.Proofs.Model.Survey
import Mathlib.Data.Set.Card
import Mathlib.Data.Sym.Sym2

/-!
Which overloads are reported as ambiguous.

Every interface pairs up the operations of its whole chain, so that two operations come up together
at every interface that inherits both. They are reported only where one of them is the interface's
own. Unless inheritance is cyclic that is one interface, the nearer of the two that declare them.
-/

namespace FrancaAudit

inductive OperationKind
  | method
  | broadcast
deriving DecidableEq

namespace OperationKind

def label : OperationKind → String
  | .method => "method"
  | .broadcast => "broadcast"

def node : OperationKind → MemberRef → Node
  | .method => .method
  | .broadcast => .broadcast

def feature : OperationKind → Feature
  | .method => .inArgs
  | .broadcast => .outArgs

end OperationKind

namespace Check

section Pairs

variable {α : Type}

def unordered (pair : α × α) : Sym2 α := s(pair.1, pair.2)

theorem mem_pairs (items : List α) (first second : α) :
    (first, second) ∈ pairs items ↔ [first, second].Sublist items := by
  induction items with
  | nil => simp [pairs]
  | cons item rest ih =>
      simp only [pairs, List.mem_append, List.mem_map, Prod.mk.injEq, ih, List.cons_sublist_cons',
        List.singleton_sublist]
      constructor
      · rintro (⟨_, member, rfl, rfl⟩ | behind)
        · exact Or.inr ⟨rfl, member⟩
        · exact Or.inl behind
      · rintro (behind | ⟨rfl, member⟩)
        · exact Or.inr behind
        · exact Or.inl ⟨second, member, rfl, rfl⟩

theorem pairs_map {β : Type} (key : α → β) (items : List α) :
    pairs (items.map key) = (pairs items).map (Prod.map key key) := by
  induction items with
  | nil => rfl
  | cons item rest ih => simp [pairs, ih, Function.comp_def]

theorem pairs_total (items : List α) (first second : α) (here : first ∈ items)
    (there : second ∈ items) (distinct : first ≠ second) :
    (first, second) ∈ pairs items ∨ (second, first) ∈ pairs items := by
  simp only [mem_pairs]
  induction items with
  | nil => simp at here
  | cons item rest ih =>
      simp only [List.cons_sublist_cons', List.singleton_sublist]
      rcases List.mem_cons.mp here with rfl | later
      · exact Or.inl (Or.inr ⟨rfl, List.mem_of_ne_of_mem distinct.symm there⟩)
      · rcases List.mem_cons.mp there with rfl | otherLater
        · exact Or.inr (Or.inr ⟨rfl, later⟩)
        · exact (ih later otherLater).imp Or.inl Or.inl

theorem unordered_pairs_nodup (items : List α) (nodup : items.Nodup) :
    ((pairs items).map unordered).Nodup := by
  induction items with
  | nil => exact List.nodup_nil
  | cons item rest ih =>
      obtain ⟨fresh, nodup⟩ := List.nodup_cons.mp nodup
      rw [pairs, List.map_append, List.map_map]
      refine List.Nodup.append ?_ (ih nodup) ?_
      · exact nodup.map fun first second same => Sym2.congr_right.mp same
      · rintro _ here there
        obtain ⟨second, _, rfl⟩ := List.mem_map.mp here
        obtain ⟨⟨first, third⟩, paired, same⟩ := List.mem_map.mp there
        have both := ((mem_pairs rest first third).mp paired).subset
        -- the head is not among the rest
        rcases Sym2.eq_iff.mp same with ⟨rfl, _⟩ | ⟨_, rfl⟩
        · exact fresh (both (by simp))
        · exact fresh (both (by simp))

end Pairs

variable (model : Model) (kind : OperationKind)

def methodOverload (ref : MemberRef) (method : Method) : Overload :=
  ⟨ref, method.name, method.selector, signature method.inArgs⟩

def broadcastOverload (ref : MemberRef) (broadcast : Broadcast) : Overload :=
  ⟨ref, broadcast.name, broadcast.selector, signature broadcast.outArgs⟩

def overload? (ref : MemberRef) : Option Overload :=
  match kind with
  | .method => (model.method? ref).map (methodOverload ref)
  | .broadcast => (model.broadcast? ref).map (broadcastOverload ref)

/-- A call by name and arguments may mean either. -/
structure Confusable (first second : Overload) : Prop where
  named : first.name = second.name
  selected : ∀ one other, first.selector = some one → second.selector = some other → one = other
  typed : first.signature <+: second.signature ∨ second.signature <+: first.signature

/-- Two operations that whoever sees the nearer interface may confuse. -/
structure AmbiguousPair (first second : MemberRef) : Prop where
  distinct : first ≠ second
  related : Relation.ReflTransGen model.Extends first.interface second.interface ∨
    Relation.ReflTransGen model.Extends second.interface first.interface
  confusable : ∃ one other, overload? model kind first = some one ∧
    overload? model kind second = some other ∧ Confusable one other

theorem confusable_symm (first second : Overload) (confusable : Confusable first second) :
    Confusable second first where
  named := confusable.named.symm
  selected := fun one other here there => (confusable.selected other one there here).symm
  typed := confusable.typed.symm

theorem ambiguousPair_symm (first second : MemberRef)
    (pair : AmbiguousPair model kind first second) : AmbiguousPair model kind second first where
  distinct := pair.distinct.symm
  related := pair.related.symm
  confusable := by
    obtain ⟨one, other, here, there, confusable⟩ := pair.confusable
    exact ⟨other, one, there, here, confusable_symm one other confusable⟩

theorem oneExtendsOther_iff {α : Type} [DecidableEq α] (first second : List α) :
    oneExtendsOther first second ↔ first <+: second ∨ second <+: first := by
  fun_induction oneExtendsOther first second with
  | case1 => simp
  | case2 => simp
  | case3 one rest other others ih =>
      simp only [Bool.and_eq_true, decide_eq_true_eq, ih, List.cons_prefix_cons]
      constructor
      · rintro ⟨rfl, shorter | longer⟩
        · exact Or.inl ⟨rfl, shorter⟩
        · exact Or.inr ⟨rfl, longer⟩
      · rintro (⟨rfl, shorter⟩ | ⟨rfl, longer⟩)
        · exact ⟨rfl, Or.inl shorter⟩
        · exact ⟨rfl, Or.inr longer⟩

theorem selectorsDiffer_iff (first second : Option String) :
    selectorsDiffer first second ↔
      ∃ one other, first = some one ∧ second = some other ∧ one ≠ other := by
  cases first <;> cases second <;> simp [selectorsDiffer]

theorem clashing_iff (id : InterfaceId) (first second : Overload) :
    clashing id first second ↔
      (first.member.interface = id ∨ second.member.interface = id) ∧ Confusable first second := by
  have selected : selectorsDiffer first.selector second.selector = false ↔
      ∀ one other, first.selector = some one → second.selector = some other → one = other := by
    rw [← Bool.not_eq_true, selectorsDiffer_iff]
    push Not
    rfl
  simp only [clashing, ambiguous, Bool.and_eq_true, Bool.or_eq_true, decide_eq_true_eq,
    Bool.not_eq_true', selected, oneExtendsOther_iff]
  constructor
  · rintro ⟨⟨named, own⟩, selected, typed⟩
    exact ⟨own, named, selected, typed⟩
  · rintro ⟨own, named, selected, typed⟩
    exact ⟨⟨named, own⟩, selected, typed⟩

def declaredOverloads (id : InterfaceId) (interface : Interface) : List Overload :=
  match kind with
  | .method => methodOverloads id interface
  | .broadcast => broadcastOverloads id interface

def visibleOverloads (id : InterfaceId) : List Overload :=
  overloads model (model.inheritanceSet id) (declaredOverloads kind)

section Places

variable {α : Type} (items : List α) (make : MemberRef → α → Overload)
  (placed : ∀ ref item, (make ref item).member = ref) (id : InterfaceId)

include placed

theorem mem_places (overload : Overload) :
    overload ∈ items.zipIdx.map (fun (item, index) => make ⟨id, index⟩ item) ↔
      overload.member.interface = id ∧
        ∃ item, items[overload.member.index]? = some item ∧
          make overload.member item = overload := by
  simp only [List.mem_map, Prod.exists, List.mk_mem_zipIdx_iff_getElem?]
  constructor
  · rintro ⟨item, index, listed, rfl⟩
    rw [placed]
    exact ⟨rfl, item, listed, rfl⟩
  · rintro ⟨rfl, item, listed, made⟩
    exact ⟨item, overload.member.index, listed, made⟩

theorem members_places_nodup :
    ((items.zipIdx.map fun (item, index) => make ⟨id, index⟩ item).map (·.member)).Nodup := by
  have members : (items.zipIdx.map fun (item, index) => make ⟨id, index⟩ item).map (·.member) =
      (List.range' 0 items.length).map fun index => (⟨id, index⟩ : MemberRef) := by
    rw [← List.zipIdx_map_snd 0 items, List.map_map, List.map_map]
    exact List.map_congr_left fun item _ => placed _ _
  have numbers : (List.range' 0 items.length).Nodup := List.nodup_range'
  rw [members]
  exact numbers.map fun first second same => by simpa using same

end Places

theorem mem_declaredOverloads (id : InterfaceId) (interface : Interface)
    (found : model.interface? id = some interface) (overload : Overload) :
    overload ∈ declaredOverloads kind id interface ↔
      overload.member.interface = id ∧ overload? model kind overload.member = some overload := by
  cases kind with
  | method =>
      refine (mem_places interface.methods methodOverload (fun _ _ => rfl) id overload).trans
        (and_congr_right fun own => ?_)
      simp [overload?, Model.method?, own, found]
  | broadcast =>
      refine (mem_places interface.broadcasts broadcastOverload (fun _ _ => rfl) id
        overload).trans (and_congr_right fun own => ?_)
      simp [overload?, Model.broadcast?, own, found]

theorem members_declaredOverloads_nodup (id : InterfaceId) (interface : Interface) :
    ((declaredOverloads kind id interface).map (·.member)).Nodup := by
  cases kind with
  | method => exact members_places_nodup interface.methods methodOverload (fun _ _ => rfl) id
  | broadcast =>
      exact members_places_nodup interface.broadcasts broadcastOverload (fun _ _ => rfl) id

theorem overload?_member (ref : MemberRef) (overload : Overload)
    (found : overload? model kind ref = some overload) : overload.member = ref := by
  cases kind with
  | method =>
      obtain ⟨method, _, rfl⟩ := Option.map_eq_some_iff.mp found
      rfl
  | broadcast =>
      obtain ⟨broadcast, _, rfl⟩ := Option.map_eq_some_iff.mp found
      rfl

theorem overload?_interface (ref : MemberRef) (overload : Overload)
    (found : overload? model kind ref = some overload) :
    (model.interface? ref.interface).isSome := by
  cases kind with
  | method =>
      obtain ⟨method, located, _⟩ := Option.map_eq_some_iff.mp found
      exact Option.isSome_of_isSome_bind (Option.isSome_of_eq_some located)
  | broadcast =>
      obtain ⟨broadcast, located, _⟩ := Option.map_eq_some_iff.mp found
      exact Option.isSome_of_isSome_bind (Option.isSome_of_eq_some located)

theorem mem_overloads (chain : List InterfaceId) (overload : Overload) :
    overload ∈ overloads model chain (declaredOverloads kind) ↔
      overload.member.interface ∈ chain ∧
        overload? model kind overload.member = some overload := by
  simp only [overloads, List.mem_flatMap]
  constructor
  · rintro ⟨id, inherited, declared⟩
    cases found : model.interface? id with
    | none => simp [found] at declared
    | some interface =>
        rw [found] at declared
        obtain ⟨rfl, located⟩ := (mem_declaredOverloads model kind id interface found _).mp declared
        exact ⟨inherited, located⟩
  · rintro ⟨inherited, located⟩
    refine ⟨overload.member.interface, inherited, ?_⟩
    obtain ⟨interface, found⟩ :=
      Option.isSome_iff_exists.mp (overload?_interface model kind _ _ located)
    rw [found]
    exact (mem_declaredOverloads model kind _ interface found _).mpr ⟨rfl, located⟩

theorem overloads_cons (id : InterfaceId) (rest : List InterfaceId)
    (declared : InterfaceId → Interface → List Overload) :
    overloads model (id :: rest) declared =
      overloads model [id] declared ++ overloads model rest declared := by
  simp [overloads]

theorem members_overloads_nodup (chain : List InterfaceId) (nodup : chain.Nodup) :
    ((overloads model chain (declaredOverloads kind)).map (·.member)).Nodup := by
  induction chain with
  | nil => exact List.nodup_nil
  | cons id rest ih =>
      obtain ⟨fresh, nodup⟩ := List.nodup_cons.mp nodup
      rw [overloads_cons, List.map_append]
      refine List.Nodup.append ?_ (ih nodup) ?_
      · cases found : model.interface? id with
        | none => simp [overloads, found]
        | some interface =>
            simpa [overloads, found] using members_declaredOverloads_nodup kind id interface
      · intro _ here there
        obtain ⟨first, own, rfl⟩ := List.mem_map.mp here
        obtain ⟨second, inherited, same⟩ := List.mem_map.mp there
        have ownId := ((mem_overloads model kind [id] first).mp own).1
        have inRest := ((mem_overloads model kind rest second).mp inherited).1
        rw [same, List.mem_singleton.mp ownId] at inRest
        exact fresh inRest

theorem mem_visibleOverloads (id : InterfaceId) (overload : Overload) :
    overload ∈ visibleOverloads model kind id ↔
      Relation.ReflTransGen model.Extends id overload.member.interface ∧
        overload? model kind overload.member = some overload := by
  rw [visibleOverloads, mem_overloads, Model.mem_inheritanceSet]

theorem own_visibleOverloads_first (id : InterfaceId) :
    (visibleOverloads model kind id).Pairwise fun first second =>
      second.member.interface = id → first.member.interface = id := by
  have own : ∀ overload ∈ overloads model [id] (declaredOverloads kind),
      overload.member.interface = id := fun overload member =>
    List.mem_singleton.mp ((mem_overloads model kind [id] overload).mp member).1
  have inherited : ∀ overload ∈ overloads model (model.baseInterfaces id) (declaredOverloads kind),
      overload.member.interface ≠ id := fun overload member =>
    ((Model.mem_baseInterfaces model id _).mp ((mem_overloads model kind _ overload).mp member).1).1
  rw [visibleOverloads, Model.inheritanceSet, overloads_cons, List.pairwise_append]
  refine ⟨?_, ?_, ?_⟩
  · exact List.pairwise_of_forall_mem_list fun first member _ _ _ => own first member
  · exact List.pairwise_of_forall_mem_list fun _ _ second member same =>
      absurd same (inherited second member)
  · exact fun first member _ _ _ => own first member

theorem members_visibleOverloads_nodup (id : InterfaceId) :
    ((visibleOverloads model kind id).map Overload.member).Nodup :=
  members_overloads_nodup model kind _ (model.inheritanceSet_nodup id)

def reportedAt (id : InterfaceId) : List (Overload × Overload) :=
  (pairs (visibleOverloads model kind id)).filter fun pair => clashing id pair.1 pair.2

theorem mem_reportedAt (id : InterfaceId) (first second : Overload) :
    (first, second) ∈ reportedAt model kind id ↔
      (first, second) ∈ pairs (visibleOverloads model kind id) ∧
        first.member.interface = id ∧ Confusable first second := by
  simp only [reportedAt, List.mem_filter, clashing_iff]
  refine and_congr_right fun paired => and_congr_left fun _ => ?_
  constructor
  · rintro (own | own)
    · exact own
    · exact (own_visibleOverloads_first model kind id).forall_sublist
        ((mem_pairs _ first second).mp paired) own
  · exact Or.inl

theorem members_reportedAt_nodup (id : InterfaceId) :
    ((reportedAt model kind id).map fun pair => s(pair.1.member, pair.2.member)).Nodup := by
  have distinct := unordered_pairs_nodup _ (members_visibleOverloads_nodup model kind id)
  rw [pairs_map, List.map_map] at distinct
  exact distinct.sublist (List.filter_sublist.map _)

theorem ambiguousPair_of_reported (id : InterfaceId) (first second : Overload)
    (reported : (first, second) ∈ reportedAt model kind id) :
    first.member.interface = id ∧
      Relation.ReflTransGen model.Extends id second.member.interface ∧
      AmbiguousPair model kind first.member second.member := by
  obtain ⟨paired, own, confusable⟩ := (mem_reportedAt model kind id first second).mp reported
  have ordered := (mem_pairs _ first second).mp paired
  have located := ((mem_visibleOverloads model kind id first).mp (ordered.subset (by simp))).2
  obtain ⟨path, otherLocated⟩ :=
    (mem_visibleOverloads model kind id second).mp (ordered.subset (by simp))
  have distinct : first.member ≠ second.member :=
    (members_visibleOverloads_nodup model kind id).forall_sublist (ordered.map Overload.member)
  exact ⟨own, path, distinct, Or.inl (own ▸ path), first, second, located, otherLocated, confusable⟩

theorem reported_at_nearer (first second : MemberRef)
    (pair : AmbiguousPair model kind first second)
    (path : Relation.ReflTransGen model.Extends first.interface second.interface) :
    ∃ one other, (one, other) ∈ reportedAt model kind first.interface ∧
      s(one.member, other.member) = s(first, second) := by
  obtain ⟨one, other, here, there, confusable⟩ := pair.confusable
  obtain rfl := overload?_member model kind first one here
  obtain rfl := overload?_member model kind second other there
  have own := (mem_visibleOverloads model kind one.member.interface one).mpr ⟨.refl, here⟩
  have inherited := (mem_visibleOverloads model kind one.member.interface other).mpr ⟨path, there⟩
  have distinct : one ≠ other := fun same => pair.distinct (congrArg (·.member) same)
  rcases pairs_total _ one other own inherited distinct with ordered | ordered
  · exact ⟨one, other, (mem_reportedAt model kind _ _ _).mpr ⟨ordered, rfl, confusable⟩, rfl⟩
  · have back := (own_visibleOverloads_first model kind one.member.interface).forall_sublist
      ((mem_pairs _ other one).mp ordered) rfl
    exact ⟨other, one, (mem_reportedAt model kind _ _ _).mpr
      ⟨ordered, back, confusable_symm one other confusable⟩, Sym2.eq_swap⟩

theorem reported_of_ambiguousPair (first second : MemberRef)
    (pair : AmbiguousPair model kind first second) :
    ∃ id ∈ model.interfaceIds, ∃ one other, (one, other) ∈ reportedAt model kind id ∧
      s(one.member, other.member) = s(first, second) := by
  obtain ⟨one, other, here, there, _⟩ := pair.confusable
  rcases pair.related with path | path
  · exact ⟨first.interface,
      (model.mem_interfaceIds _).mpr (overload?_interface model kind first one here),
      reported_at_nearer model kind first second pair path⟩
  · rw [Sym2.eq_swap]
    exact ⟨second.interface,
      (model.mem_interfaceIds _).mpr (overload?_interface model kind second other there),
      reported_at_nearer model kind second first (ambiguousPair_symm model kind _ _ pair) path⟩

theorem reported_where (acyclic : ∀ id, ¬ Relation.TransGen model.Extends id id)
    (id other : InterfaceId) (pair again : Overload × Overload)
    (here : pair ∈ reportedAt model kind id) (there : again ∈ reportedAt model kind other)
    (same : s(pair.1.member, pair.2.member) = s(again.1.member, again.2.member)) : id = other := by
  obtain ⟨own, path, _⟩ := ambiguousPair_of_reported model kind id pair.1 pair.2 here
  obtain ⟨otherOwn, otherPath, _⟩ :=
    ambiguousPair_of_reported model kind other again.1 again.2 there
  rcases Sym2.eq_iff.mp same with ⟨first, _⟩ | ⟨first, second⟩
  · rw [← own, ← otherOwn, first]
  · -- each would be an ancestor of the other
    rw [second, otherOwn] at path
    rw [← first, own] at otherPath
    rcases Relation.reflTransGen_iff_eq_or_transGen.mp path with same | longer
    · exact same.symm
    · exact absurd (longer.trans_left otherPath) (acyclic id)

def reportedPairs : List (OperationKind × MemberRef × MemberRef) :=
  model.interfaceIds.flatMap fun id =>
    [OperationKind.method, .broadcast].flatMap fun kind =>
      (reportedAt model kind id).map fun pair => (kind, pair.1.member, pair.2.member)

def withoutOrder (pair : OperationKind × MemberRef × MemberRef) : OperationKind × Sym2 MemberRef :=
  (pair.1, s(pair.2.1, pair.2.2))

/-- The ambiguous pairs of a model. -/
def ambiguousPairs : Set (OperationKind × Sym2 MemberRef) :=
  { pair | ∃ first second, pair.2 = s(first, second) ∧ AmbiguousPair model pair.1 first second }

theorem mem_reportedPairs (pair : OperationKind × MemberRef × MemberRef) :
    pair ∈ reportedPairs model ↔ ∃ id ∈ model.interfaceIds, ∃ first second,
      (first, second) ∈ reportedAt model pair.1 id ∧ pair.2 = (first.member, second.member) := by
  obtain ⟨kind, members⟩ := pair
  cases kind <;> simp [reportedPairs, eq_comm]

theorem withoutOrder_mem_iff (pair : OperationKind × Sym2 MemberRef) :
    pair ∈ (reportedPairs model).map withoutOrder ↔ pair ∈ ambiguousPairs model := by
  obtain ⟨kind, members⟩ := pair
  simp only [List.mem_map, mem_reportedPairs]
  constructor
  · rintro ⟨⟨_, _, _⟩, ⟨id, _, first, second, reported, same⟩, tagged⟩
    obtain ⟨rfl, rfl⟩ := Prod.mk.inj same
    obtain ⟨rfl, rfl⟩ := Prod.mk.inj tagged
    exact ⟨_, _, rfl, (ambiguousPair_of_reported model _ id first second reported).2.2⟩
  · rintro ⟨first, second, same, pair⟩
    obtain ⟨id, known, one, other, reported, agree⟩ :=
      reported_of_ambiguousPair model kind first second pair
    exact ⟨(kind, one.member, other.member), ⟨id, known, one, other, reported, rfl⟩,
      Prod.ext rfl (agree.trans same.symm)⟩

theorem reportedPairs_nodup (acyclic : ∀ id, ¬ Relation.TransGen model.Extends id id) :
    ((reportedPairs model).map withoutOrder).Nodup := by
  have split : (reportedPairs model).map withoutOrder =
      model.interfaceIds.flatMap fun id => [OperationKind.method, .broadcast].flatMap fun kind =>
        ((reportedAt model kind id).map fun pair => s(pair.1.member, pair.2.member)).map
          (kind, ·) := by
    simp [reportedPairs, List.map_flatMap, withoutOrder, Function.comp_def]
  rw [split, List.nodup_flatMap]
  constructor
  · intro id _
    rw [List.nodup_flatMap]
    constructor
    · intro kind _
      exact (members_reportedAt_nodup model kind id).map (Prod.mk_right_injective kind)
    · -- what is reported about methods and about broadcasts is told apart by the kind
      have kinds : [OperationKind.method, .broadcast].Nodup := by decide
      refine kinds.imp ?_
      intro kind other distinct pair here there
      obtain ⟨_, _, rfl⟩ := List.mem_map.mp here
      obtain ⟨_, _, same⟩ := List.mem_map.mp there
      exact distinct (congrArg Prod.fst same).symm
  · refine (interfaceIds_nodup model).imp ?_
    intro id other distinct pair here there
    simp only [List.mem_flatMap, List.mem_map] at here there
    obtain ⟨kind, _, _, ⟨reported, member, rfl⟩, rfl⟩ := here
    obtain ⟨_, _, _, ⟨again, otherMember, rfl⟩, same⟩ := there
    obtain ⟨rfl, agree⟩ := Prod.mk.inj same
    exact distinct (reported_where model _ acyclic id other reported again member otherMember
      agree.symm)

/-- The errors about a pair, one at each of the two. The nearer interface is that of the first. -/
def ambiguityErrors (pair : OperationKind × MemberRef × MemberRef) : List Diagnostic :=
  let (kind, first, second) := pair
  let name := Model.nameOr ((overload? model kind first).map (·.name))
  let message := "Ambiguous overloaded " ++ kind.label ++ " '" ++ name ++ "' in interface '" ++
    model.interfaceName first.interface ++
    "': argument types do not distinguish the overloads"
  [.error .inheritanceConflict (kind.node first) kind.feature message,
    .error .inheritanceConflict (kind.node second) kind.feature message]

theorem ambiguityFindings_eq (id : InterfaceId) :
    ambiguityFindings model id kind.label kind.node kind.feature (visibleOverloads model kind id) =
      (reportedAt model kind id).flatMap fun pair =>
        ambiguityErrors model (kind, pair.1.member, pair.2.member) := by
  have named : ambiguityFindings model id kind.label kind.node kind.feature
      (visibleOverloads model kind id) =
        (pairs (visibleOverloads model kind id)).flatMap fun pair =>
          if clashing id pair.1 pair.2 then
            ambiguityErrors model (kind, pair.1.member, pair.2.member)
          else [] := by
    refine List.flatMap_congr fun pair paired => ?_
    by_cases clash : clashing id pair.1 pair.2
    · have reported : (pair.1, pair.2) ∈ reportedAt model kind id :=
        List.mem_filter.mpr ⟨paired, clash⟩
      have own := ((mem_reportedAt model kind id pair.1 pair.2).mp reported).2.1
      have member := ((mem_pairs _ pair.1 pair.2).mp paired).subset List.mem_cons_self
      have located := ((mem_visibleOverloads model kind id pair.1).mp member).2
      simp only [pairFindings, ambiguityError, clash, ambiguityErrors, located, own,
        Option.map_some, Model.nameOr, Option.getD_some]
    · simp [pairFindings, clash]
  exact named.trans (flatMap_if (pairs (visibleOverloads model kind id)) _ _)

theorem overloadFindings_eq :
    overloadFindings model = (reportedPairs model).flatMap (ambiguityErrors model) := by
  have split : overloadFindings model = model.interfaceIds.flatMap fun id =>
      ambiguityFindings model id (OperationKind.label .method) (OperationKind.node .method)
        (OperationKind.feature .method) (visibleOverloads model .method id) ++
      ambiguityFindings model id (OperationKind.label .broadcast) (OperationKind.node .broadcast)
        (OperationKind.feature .broadcast) (visibleOverloads model .broadcast id) :=
    (appends_checkOverloads model).findings_eq
  simp only [split, ambiguityFindings_eq, reportedPairs, List.flatMap_assoc, List.flatMap_cons,
    List.flatMap_nil, List.append_nil, List.flatMap_append, List.flatMap_map]

/-- What is reported are the errors about the pairs. These are the ambiguous ones, each listed once
in one of its two orders. -/
structure Reports (reported : List (OperationKind × MemberRef × MemberRef)) : Prop where
  once : (reported.map withoutOrder).Nodup
  ambiguous : ∀ pair, pair ∈ reported.map withoutOrder ↔ pair ∈ ambiguousPairs model
  errors : overloadFindings model = reported.flatMap (ambiguityErrors model)

/-- A pair of operations is reported once in the whole model if it is ambiguous, and never if it is
not. -/
theorem ambiguousPairs_reported (acyclic : ∀ id, ¬ Relation.TransGen model.Extends id id) :
    (∃ reported, Reports model reported) ∧
      (overloadFindings model).length = 2 * (ambiguousPairs model).ncard := by
  have once := reportedPairs_nodup model acyclic
  have ambiguous := withoutOrder_mem_iff model
  have errors := overloadFindings_eq model
  have counted : (ambiguousPairs model).ncard = (reportedPairs model).length := by
    have listed : ambiguousPairs model = ↑((reportedPairs model).map withoutOrder).toFinset := by
      ext pair
      simp only [List.coe_toFinset, ← ambiguous pair]
      rfl
    rw [listed, Set.ncard_coe_finset, List.toFinset_card_of_nodup once, List.length_map]
  refine ⟨⟨reportedPairs model, once, ambiguous, errors⟩, ?_⟩
  have two (pair : OperationKind × MemberRef × MemberRef) :
      (ambiguityErrors model pair).length = 2 := rfl
  rw [errors, counted, List.length_flatMap]
  simp [two, Nat.mul_comm]

def bareMethod (name : String) (types : List Primitive) : Method :=
  ⟨name, .unknown, [], none, false,
    types.map fun type => ⟨"value", .unknown, [], ⟨.primitive type, false⟩⟩, [], none⟩

/-- Two interfaces whose methods are confused, and one that inherits both methods. -/
def studio : Model where
  name := "studio"
  collections := []
  interfaces :=
    [⟨"Player", .unknown, [], none, [], [bareMethod "play" [.uint8]], [], [], [], none⟩,
      ⟨"Recorder", .unknown, [], some ⟨0⟩, [],
        [bareMethod "play" [.uint8, .string], bareMethod "play" [.string]], [], [], [], none⟩,
      ⟨"Studio", .unknown, [], some ⟨1⟩, [], [], [], [], [], none⟩]
  types := []
  constants := []

theorem studio_reported :
    (∀ id, ¬ Relation.TransGen studio.Extends id id) ∧ (∃ reported, Reports studio reported) ∧
      (overloadFindings studio).length = 2 ∧ (ambiguousPairs studio).ncard = 1 := by
  have acyclic : ∀ id, ¬ Relation.TransGen studio.Extends id id := by
    intro id path
    have none : cyclicInterfaces studio = [] := rfl
    have cyclic := (mem_cyclicInterfaces studio id).mpr path
    rw [none] at cyclic
    exact absurd cyclic List.not_mem_nil
  obtain ⟨reported, counted⟩ := ambiguousPairs_reported studio acyclic
  have two : (overloadFindings studio).length = 2 := rfl
  exact ⟨acyclic, reported, two, by omega⟩

end Check

end FrancaAudit
