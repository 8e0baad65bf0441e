import FrancaAudit.Proofs.Model.Linked
import Mathlib.Data.List.Nodup
import Mathlib.Data.Set.Card

/-!
Lists that survey a relation: one entry for each place where something stands.

That a list leaves nothing out and names nothing twice cannot be seen from its entries, since equal
things may stand at different places. So each entry is paired with its place. A survey is put
together as the list is, piece by piece, each piece being confined to a region of its own.
-/

namespace FrancaAudit

variable {Place Other α β : Type} {Holds : Place → α → Prop}

/-- The list has one entry for each place of the region where something stands, and the entry is
what stands there. -/
def Surveys (Holds : Place → α → Prop) (region : Place → Prop) (items : List α) : Prop :=
  ∃ entries : List (Place × α), entries.map Prod.snd = items ∧ (entries.map Prod.fst).Nodup ∧
    ∀ place item, (place, item) ∈ entries ↔ region place ∧ Holds place item

/-- The list has one entry for each place where something stands. -/
def SurveysAll (Holds : Place → α → Prop) (items : List α) : Prop :=
  Surveys Holds (fun _ => True) items

theorem surveys_nil (region : Place → Prop)
    (empty : ∀ place item, region place → ¬ Holds place item) : Surveys Holds region [] := by
  refine ⟨[], rfl, List.nodup_nil, fun place item => ?_⟩
  simpa using empty place item

theorem surveys_singleton (region : Place → Prop) (place : Place) (item : α)
    (inside : region place) (holds : Holds place item)
    (only : ∀ other found, region other → Holds other found → other = place ∧ found = item) :
    Surveys Holds region [item] := by
  refine ⟨[(place, item)], rfl, List.nodup_singleton place, fun other found => ?_⟩
  rw [List.mem_singleton, Prod.mk.injEq]
  constructor
  · rintro ⟨rfl, rfl⟩
    exact ⟨inside, holds⟩
  · rintro ⟨member, stands⟩
    exact only other found member stands

theorem surveys_append (first second : Place → Prop) (left right : List α)
    (surveysLeft : Surveys Holds first left) (surveysRight : Surveys Holds second right)
    (apart : ∀ place, first place → ¬ second place) :
    Surveys Holds (fun place => first place ∨ second place) (left ++ right) := by
  obtain ⟨leftEntries, rfl, leftOnce, leftAll⟩ := surveysLeft
  obtain ⟨rightEntries, rfl, rightOnce, rightAll⟩ := surveysRight
  refine ⟨leftEntries ++ rightEntries, List.map_append, ?_, ?_⟩
  · rw [List.map_append, List.nodup_append']
    refine ⟨leftOnce, rightOnce, ?_⟩
    intro place inLeft inRight
    obtain ⟨⟨_, leftItem⟩, leftMember, rfl⟩ := List.mem_map.mp inLeft
    obtain ⟨⟨_, rightItem⟩, rightMember, same⟩ := List.mem_map.mp inRight
    obtain rfl : _ = _ := same
    exact apart _ ((leftAll _ _).mp leftMember).1 ((rightAll _ _).mp rightMember).1
  · intro place item
    rw [List.mem_append, leftAll, rightAll, or_and_right]

theorem surveys_congr {Stands : Place → α → Prop} (first second : Place → Prop) (items : List α)
    (same : ∀ place item, first place ∧ Holds place item ↔ second place ∧ Stands place item)
    (surveys : Surveys Holds first items) : Surveys Stands second items := by
  obtain ⟨entries, listed, once, all⟩ := surveys
  refine ⟨entries, listed, once, fun place item => ?_⟩
  rw [all, same]

theorem surveys_region (first second : Place → Prop) (items : List α)
    (same : ∀ place item, Holds place item → (first place ↔ second place))
    (surveys : Surveys Holds first items) : Surveys Holds second items :=
  surveys_congr first second items (fun place item => and_congr_left (same place item)) surveys

theorem surveys_flatMap (keys : List β) (pieces : β → List α) (part : β → Place → Prop)
    (apart : keys.Pairwise fun first second => ∀ place, part first place → ¬ part second place)
    (each : ∀ key ∈ keys, Surveys Holds (part key) (pieces key)) :
    Surveys Holds (fun place => ∃ key ∈ keys, part key place) (keys.flatMap pieces) := by
  induction keys with
  | nil =>
      apply surveys_nil
      rintro place item ⟨key, member, _⟩
      exact absurd member List.not_mem_nil
  | cons key rest ih =>
      obtain ⟨ahead, later⟩ := List.pairwise_cons.mp apart
      rw [List.flatMap_cons]
      have others := ih later fun other member => each other (List.mem_cons_of_mem key member)
      have both := surveys_append (part key) _ _ _ (each key List.mem_cons_self) others
        fun place here ⟨other, member, there⟩ => ahead other member place here there
      refine surveys_region _ _ _ (fun place item _ => ?_) both
      simp only [List.mem_cons, exists_eq_or_imp]

theorem flatMap_if (items : List β) (holds : β → Bool) (found : β → List α) :
    (items.flatMap fun item => if holds item then found item else []) =
      (items.filter holds).flatMap found := by
  induction items with
  | nil => rfl
  | cons item rest ih => by_cases hit : holds item <;> simp [hit, ih]

theorem zipIdx_ascending (items : List β) :
    items.zipIdx.Pairwise fun first second => first.2 < second.2 := by
  refine List.pairwise_map.mp ?_
  rw [List.zipIdx_map_snd]
  exact List.pairwise_lt_range'

theorem map_zipIdx (items : List β) (entry : β × Nat → α) :
    items.zipIdx.map entry = Model.placed items fun index item => [entry (item, index)] :=
  List.map_eq_flatMap

theorem filterMap_zipIdx (items : List β) (pick : β × Nat → Option α) :
    items.zipIdx.filterMap pick =
      Model.placed items fun index item => (pick (item, index)).toList := by
  rw [List.filterMap_eq_flatMap_toList]
  rfl

theorem placed_pairwise (items : List β) (pieces : Nat → β → List α) (different : α → α → Prop)
    (inside : ∀ index item, items[index]? = some item → (pieces index item).Pairwise different)
    (across : ∀ first second firstItem secondItem, first < second →
      ∀ left ∈ pieces first firstItem, ∀ right ∈ pieces second secondItem, different left right) :
    (Model.placed items pieces).Pairwise different := by
  refine List.pairwise_flatMap.mpr ⟨?_, ?_⟩
  · intro entry member
    exact inside entry.2 entry.1 (List.mk_mem_zipIdx_iff_getElem?.mp member)
  · refine (zipIdx_ascending items).imp ?_
    intro first second less
    exact across first.2 second.2 first.1 second.1 less

/-- Pieces that come from the items of a list, each confined to the places with its index. -/
theorem surveys_placed (items : List β) (pieces : Nat → β → List α) (part : Nat → Place → Prop)
    (apart : ∀ first second place, part first place → part second place → first = second)
    (each : ∀ index item, items[index]? = some item →
      Surveys Holds (part index) (pieces index item))
    (bounded : ∀ index place item, part index place → Holds place item → index < items.length) :
    Surveys Holds (fun place => ∃ index, part index place) (Model.placed items pieces) := by
  have surveys := surveys_flatMap items.zipIdx (fun entry => pieces entry.2 entry.1)
    (fun entry => part entry.2) ((zipIdx_ascending items).imp fun less place here there =>
      Nat.ne_of_lt less (apart _ _ place here there)) fun entry member =>
        each entry.2 entry.1 (List.mk_mem_zipIdx_iff_getElem?.mp member)
  refine surveys_region _ _ _ (fun place item holds => ?_) surveys
  simp only [Prod.exists, List.mk_mem_zipIdx_iff_getElem?]
  constructor
  · rintro ⟨_, index, _, here⟩
    exact ⟨index, here⟩
  · rintro ⟨index, here⟩
    -- a region beyond the end of the list would have no piece, but nothing stands there
    have bound := bounded index place item here holds
    exact ⟨items[index], index, List.getElem?_eq_getElem bound, here⟩

/-- Pieces that come from declarations, each confined to the places whose key is its own. -/
theorem surveys_keyed {Key : Type} (key : Place → Key) (known : Key → Prop)
    (has : ∀ place item, Holds place item → known (key place)) (declarations : List β)
    (declared : Nat → Key) (pieces : Nat → β → List α) (injective : Function.Injective declared)
    (bounded : ∀ index, known (declared index) → index < declarations.length)
    (each : ∀ index declaration, declarations[index]? = some declaration →
      Surveys Holds (fun place => key place = declared index) (pieces index declaration)) :
    Surveys Holds (fun place => ∃ index, key place = declared index)
      (Model.placed declarations pieces) := by
  refine surveys_placed _ _ (fun index place => key place = declared index) ?_ each ?_
  · intro first second place here there
    exact injective (here.symm.trans there)
  · intro index place item here holds
    exact bounded index (here ▸ has place item holds)

theorem surveys_toList (place : Place) (item : Option α)
    (holds : ∀ found, Holds place found ↔ item = some found) :
    Surveys Holds (fun other => other = place) item.toList := by
  cases item with
  | none =>
      refine surveys_nil _ ?_
      rintro _ found rfl stands
      exact absurd ((holds found).mp stands) (Option.some_ne_none found).symm
  | some item =>
      refine surveys_singleton _ place item rfl ((holds item).mpr rfl) ?_
      rintro _ found rfl stands
      exact ⟨rfl, (Option.some.inj ((holds found).mp stands)).symm⟩

theorem surveys_lookup (lookup : Place → Option α) (place : Place) (items : List α)
    (listed : (lookup place).toList = items) :
    Surveys (fun other item => lookup other = some item) (fun other => other = place) items :=
  listed ▸ surveys_toList place (lookup place) fun _ => Iff.rfl

theorem surveys_lookups (lookup : Place → Option α) (places : List Place) (once : places.Nodup) :
    Surveys (fun place item => lookup place = some item) (fun place => place ∈ places)
      (places.flatMap fun place => (lookup place).toList) := by
  have parts := surveys_flatMap places (fun place => (lookup place).toList)
    (fun place other => other = place)
    (once.imp fun different _ same other => different (same.symm.trans other))
    fun place _ => surveys_lookup lookup place _ rfl
  exact surveys_region _ _ _ (fun place item _ => by simp) parts

theorem surveys_indexed (items : List β) (place : Nat → Place) (pick : Nat → β → Option α)
    (injective : Function.Injective place)
    (inside : ∀ index item, items[index]? = some item → ∀ found,
      Holds (place index) found ↔ pick index item = some found)
    (bounded : ∀ index found, Holds (place index) found → index < items.length) :
    Surveys Holds (fun other => ∃ index, other = place index)
      (Model.placed items fun index item => (pick index item).toList) := by
  refine surveys_placed _ _ (fun index other => other = place index) ?_ ?_ ?_
  · rintro first second _ rfl same
    exact injective same
  · intro index item located
    exact surveys_toList (place index) (pick index item) (inside index item located)
  · rintro index _ found rfl stands
    exact bounded index found stands

theorem surveys_positions (lookup : Place → Option α) (items : List β) (place : Nat → Place)
    (pieces : Nat → β → List α) (injective : Function.Injective place)
    (inside : ∀ index item, items[index]? = some item →
      (lookup (place index)).toList = pieces index item)
    (outside : ∀ index, items[index]? = none → lookup (place index) = none) :
    Surveys (fun other item => lookup other = some item) (fun other => ∃ index, other = place index)
      (Model.placed items pieces) := by
  refine surveys_placed _ _ (fun index other => other = place index) ?_ ?_ ?_
  · rintro first second _ rfl same
    exact injective same
  · intro index item located
    exact surveys_lookup lookup (place index) _ (inside index item located)
  · rintro index _ item rfl stands
    by_contra beyond
    rw [outside index (List.getElem?_eq_none (Nat.not_lt.mp beyond))] at stands
    exact absurd stands (Option.some_ne_none item).symm

theorem surveys_filterMap (region : Place → Prop) (items : List α) (pick : α → Option β)
    (surveys : Surveys Holds region items) :
    Surveys (fun place picked => ∃ item, Holds place item ∧ pick item = some picked) region
      (items.filterMap pick) := by
  obtain ⟨entries, rfl, once, all⟩ := surveys
  -- what is picked from an entry takes over its place
  let keep (entry : Place × α) : Option (Place × β) :=
    (pick entry.2).map fun picked => (entry.1, picked)
  refine ⟨entries.filterMap keep, ?_, ?_, ?_⟩
  · rw [List.map_filterMap, List.filterMap_map]
    congr 1
    funext entry
    cases found : pick entry.2 <;> simp [keep, found]
  · have distinct : entries.Pairwise fun first second => first.1 ≠ second.1 :=
      List.pairwise_map.mp once
    refine List.pairwise_map.mpr (distinct.filterMap keep ?_)
    intro first second different kept keptFirst other keptSecond
    obtain ⟨_, _, rfl⟩ := Option.map_eq_some_iff.mp keptFirst
    obtain ⟨_, _, rfl⟩ := Option.map_eq_some_iff.mp keptSecond
    exact different
  · intro place picked
    simp only [List.mem_filterMap, keep, Option.map_eq_some_iff, Prod.exists, Prod.mk.injEq]
    constructor
    · rintro ⟨_, item, member, _, found, rfl, rfl⟩
      obtain ⟨inside, holds⟩ := (all _ _).mp member
      exact ⟨inside, item, holds, found⟩
    · rintro ⟨inside, item, holds, found⟩
      exact ⟨place, item, (all _ _).mpr ⟨inside, holds⟩, picked, found, rfl, rfl⟩

/-- The entries converted, at places of another kind. -/
theorem surveys_map {Stands : Other → β → Prop} (region : Other → Prop) (items : List β)
    (target : Place → Prop) (embed : Other → Place) (convert : β → α)
    (injective : Function.Injective embed)
    (agree : ∀ place item, target place ∧ Holds place item ↔
      ∃ other original, region other ∧ Stands other original ∧ embed other = place ∧
        convert original = item)
    (surveys : Surveys Stands region items) : Surveys Holds target (items.map convert) := by
  obtain ⟨entries, rfl, once, all⟩ := surveys
  refine ⟨entries.map fun entry => (embed entry.1, convert entry.2), ?_, ?_, ?_⟩
  · simp only [List.map_map, Function.comp_def]
  · have moved := once.map injective
    rw [List.map_map] at moved ⊢
    exact moved
  · intro place item
    rw [agree]
    simp only [List.mem_map, Prod.exists, Prod.mk.injEq, all, and_assoc]

theorem surveys_embed {Stands : Other → α → Prop} (region : Other → Prop) (items : List α)
    (target : Place → Prop) (embed : Other → Place) (injective : Function.Injective embed)
    (agree : ∀ place item, target place ∧ Holds place item ↔
      ∃ other, region other ∧ Stands other item ∧ embed other = place)
    (surveys : Surveys Stands region items) : Surveys Holds target items := by
  have moved : Surveys Holds target (items.map id) := by
    refine surveys_map region items target embed id injective (fun place item => ?_) surveys
    simp only [agree, id, exists_eq_right, ← and_assoc]
  rwa [List.map_id] at moved

/-- What a look-up finds, converted, at places that another look-up knows. -/
theorem surveys_convert (source : Other → Option β) (lookup : Place → Option α)
    (region : Other → Prop) (items : List β) (embed : Other → Place) (convert : β → α)
    (injective : Function.Injective embed)
    (agree : ∀ other, region other → lookup (embed other) = (source other).map convert)
    (surveys : Surveys (fun other item => source other = some item) region items) :
    Surveys (fun place item => lookup place = some item)
      (fun place => ∃ other, place = embed other ∧ region other) (items.map convert) := by
  refine surveys_map region items _ embed convert injective (fun place item => ?_) surveys
  constructor
  · rintro ⟨⟨other, rfl, inside⟩, stands⟩
    rw [agree other inside] at stands
    obtain ⟨original, found, rfl⟩ := Option.map_eq_some_iff.mp stands
    exact ⟨other, original, inside, found, rfl, rfl⟩
  · rintro ⟨other, original, inside, found, rfl, rfl⟩
    exact ⟨⟨other, rfl, inside⟩, by rw [agree other inside, found, Option.map_some]⟩

/-- What is found inside the entries, at a place inside the place of each. -/
theorem surveys_nested {Inside : α → Other → β → Prop} (region : Place → Prop) (items : List α)
    (pieces : α → List β) (surveys : Surveys Holds region items)
    (inner : ∀ item, SurveysAll (Inside item) (pieces item)) :
    Surveys (fun (place : Place × Other) found =>
        ∃ item, Holds place.1 item ∧ Inside item place.2 found)
      (fun place => region place.1) (items.flatMap pieces) := by
  obtain ⟨entries, rfl, once, all⟩ := surveys
  -- stated about the entries, since these say which piece something is found in
  let Found (place : Place × Other) (found : β) : Prop :=
    ∃ item, (place.1, item) ∈ entries ∧ Inside item place.2 found
  have each (entry : Place × α) (member : entry ∈ entries) :
      Surveys Found (fun place => place.1 = entry.1) (pieces entry.2) := by
    refine surveys_embed _ _ _ (entry.1, ·) (fun _ _ same => (Prod.mk.inj same).2) ?_
      (inner entry.2)
    rintro ⟨place, other⟩ found
    constructor
    · rintro ⟨rfl, item, listed, inside⟩
      obtain rfl := congrArg Prod.snd (List.inj_on_of_nodup_map once listed member rfl)
      exact ⟨other, trivial, inside, rfl⟩
    · rintro ⟨other, _, inside, same⟩
      obtain ⟨rfl, rfl⟩ := Prod.mk.inj same
      exact ⟨rfl, entry.2, member, inside⟩
  have apart : entries.Pairwise fun first second =>
      ∀ place : Place × Other, place.1 = first.1 → ¬ place.1 = second.1 :=
    (List.pairwise_map.mp once).imp fun different place here there =>
      different (here.symm.trans there)
  rw [List.flatMap_map]
  refine surveys_congr _ _ _ ?_ (surveys_flatMap entries (fun entry => pieces entry.2)
    (fun entry place => place.1 = entry.1) apart each)
  rintro ⟨place, other⟩ found
  constructor
  · rintro ⟨_, item, listed, inside⟩
    obtain ⟨within, holds⟩ := (all place item).mp listed
    exact ⟨within, item, holds, inside⟩
  · rintro ⟨within, item, holds, inside⟩
    have listed := (all place item).mpr ⟨within, holds⟩
    exact ⟨⟨(place, item), listed, rfl⟩, item, listed, inside⟩

/-- Pieces of at most one item stand at the place of what they come from. -/
theorem surveys_singles (region : Place → Prop) (items : List α) (pieces : α → List β)
    (single : ∀ item, (pieces item).length ≤ 1) (surveys : Surveys Holds region items) :
    Surveys (fun place found => ∃ item, Holds place item ∧ found ∈ pieces item) region
      (items.flatMap pieces) := by
  have same (item : α) : pieces item = (pieces item).head?.toList := by
    have short := single item
    rcases listed : pieces item with _ | ⟨first, _ | ⟨second, rest⟩⟩
    · rfl
    · rfl
    · simp [listed] at short
  have picked : items.filterMap (fun item => (pieces item).head?) = items.flatMap pieces := by
    rw [List.filterMap_eq_flatMap_toList]
    exact List.flatMap_congr fun item _ => (same item).symm
  rw [← picked]
  refine surveys_congr _ _ _ (fun place found => and_congr_right fun _ => exists_congr fun item =>
    and_congr_right fun _ => ?_) (surveys_filterMap region items _ surveys)
  conv_rhs => rw [same item]
  exact Option.mem_toList.symm

theorem mem_of_surveys (region : Place → Prop) (items : List α)
    (surveys : Surveys Holds region items) (item : α) :
    item ∈ items ↔ ∃ place, region place ∧ Holds place item := by
  obtain ⟨entries, rfl, _, all⟩ := surveys
  simp only [List.mem_map, Prod.exists, exists_eq_right, all]

theorem length_of_surveys (region : Place → Prop) (items : List α)
    (surveys : Surveys Holds region items) :
    items.length = {place | region place ∧ ∃ item, Holds place item}.ncard := by
  classical
  obtain ⟨entries, rfl, once, all⟩ := surveys
  have places : {place | region place ∧ ∃ item, Holds place item} =
      ((entries.map Prod.fst).toFinset : Set Place) := by
    ext place
    simp [all]
  rw [places, Set.ncard_coe_finset, List.toFinset_card_of_nodup once, List.length_map,
    List.length_map]

end FrancaAudit
