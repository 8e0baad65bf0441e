import FrancaAudit.Proofs.Model.Inheritance
import Mathlib.Data.List.Chain

/-!
How far away the bases of an interface or type are.

A base is at the position in the chain that tells the steps to it. Since every element has one base
at most, a way that comes to an element later than the chain does must have gone round a cycle.
-/

namespace FrancaAudit.Model

section Distance

variable {α : Type} (related : α → α → Prop)

/-- So many steps lead from the first element to another. -/
inductive InSteps (first : α) : Nat → α → Prop
  | start : InSteps first 0 first
  | further (count : Nat) (middle last : α) (before : InSteps first count middle)
      (step : related middle last) : InSteps first (count + 1) last

/-- The least number of steps that lead from the first element to the last. -/
structure Distance (first last : α) (count : Nat) : Prop where
  reached : InSteps related first count last
  least : ∀ other, InSteps related first other last → count ≤ other

/-- The elements that steps lead to from `id`, without itself, each once and the nearest first. -/
structure Ancestors (id : α) (ancestors : List α) : Prop where
  reached : ∀ item, item ∈ ancestors ↔ item ≠ id ∧ Relation.TransGen related id item
  once : ancestors.Nodup
  nearest : ∀ position item,
    ancestors[position]? = some item ↔ Distance related id item (position + 1)

theorem distance_unique (first last : α) (count other : Nat)
    (distance : Distance related first last count) (again : Distance related first last other) :
    count = other :=
  Nat.le_antisymm (distance.least other again.reached) (again.least count distance.reached)

theorem transGen_of_inSteps (first last : α) (count : Nat)
    (path : InSteps related first (count + 1) last) : Relation.TransGen related first last := by
  induction count generalizing last with
  | zero =>
      cases path with
      | further _ middle _ before step =>
          cases before
          exact .single step
  | succ count ih =>
      cases path with
      | further _ middle _ before step => exact .tail (ih middle before) step

theorem inSteps_unique (single : Relator.RightUnique related) (first last other : α) (count : Nat)
    (path : InSteps related first count last) (again : InSteps related first count other) :
    last = other := by
  induction path generalizing other with
  | start =>
      cases again
      rfl
  | further count middle last before step ih =>
      cases again with
      | further _ otherMiddle _ otherBefore otherStep =>
          obtain rfl := ih otherMiddle otherBefore
          exact single step otherStep

theorem inSteps_of_isChain (first : α) (rest : List α) (linked : (first :: rest).IsChain related)
    (position : Nat) (item : α) (located : (first :: rest)[position]? = some item) :
    InSteps related first position item := by
  induction position generalizing item with
  | zero =>
      obtain rfl : first = item := by simpa using located
      exact .start
  | succ position ih =>
      obtain ⟨bound, rfl⟩ := List.getElem?_eq_some_iff.mp located
      have before : position < (first :: rest).length := Nat.lt_of_succ_lt bound
      exact .further position _ _ (ih _ (List.getElem?_eq_getElem before))
        (List.isChain_iff_getElem.mp linked position bound)

-- A way with fewer steps would end at an earlier element of the list.
theorem distance_of_isChain (single : Relator.RightUnique related) (first : α) (rest : List α)
    (linked : (first :: rest).IsChain related) (once : (first :: rest).Nodup) (position : Nat)
    (item : α) (located : (first :: rest)[position]? = some item) :
    Distance related first item position where
  reached := inSteps_of_isChain related first rest linked position item located
  least := by
    intro other path
    by_contra sooner
    obtain ⟨bound, _⟩ := List.getElem?_eq_some_iff.mp located
    have inside : other < (first :: rest).length := by omega
    have early := inSteps_of_isChain related first rest linked other _
      (List.getElem?_eq_getElem inside)
    obtain rfl := inSteps_unique related single first _ _ other path early
    have same : other = position :=
      (List.getElem?_inj inside once).mp ((List.getElem?_eq_getElem inside).trans located.symm)
    omega

end Distance

section Walk

variable {α : Type} (related : α → α → Prop)

/-- The walk along the relation as a loop without any bound. It stops where nothing follows, or
before an element that it has seen. -/
inductive Collects : List α → α → List α → Prop
  | ended (seen : List α) (last : α) (final : ∀ item, ¬ related last item) : Collects seen last []
  | repeated (seen : List α) (last current : α) (step : related last current)
      (known : current ∈ seen) : Collects seen last []
  | onward (seen : List α) (last current : α) (rest : List α) (step : related last current)
      (fresh : current ∉ seen) (later : Collects (current :: seen) current rest) :
      Collects seen last (current :: rest)

theorem collects_unique (single : Relator.RightUnique related) (seen : List α) (last : α)
    (items others : List α) (collects : Collects related seen last items)
    (again : Collects related seen last others) : items = others := by
  induction collects generalizing others with
  | ended seen last final =>
      cases again with
      | ended => rfl
      | repeated _ _ _ step => rfl
      | onward _ _ current _ step => exact absurd step (final current)
  | repeated seen last current step known =>
      cases again with
      | ended => rfl
      | repeated => rfl
      | onward _ _ other _ otherStep fresh =>
          obtain rfl := single step otherStep
          exact absurd known fresh
  | onward seen last current rest step fresh later ih =>
      cases again with
      | ended _ _ final => exact absurd step (final current)
      | repeated _ _ other otherStep known =>
          obtain rfl := single step otherStep
          exact absurd known fresh
      | onward _ _ other _ otherStep _ otherLater =>
          obtain rfl := single step otherStep
          rw [ih _ otherLater]

end Walk

section Chain

variable {α : Type} (next : α → Option α)

theorem leads_rightUnique : Relator.RightUnique (Leads next) :=
  fun _ _ _ first second => Option.some.inj (first.symm.trans second)

variable [DecidableEq α]

theorem chain_collects (domain : List α) (starts : ∀ item, (next item).isSome → item ∈ domain)
    (fuel : Nat) (seen : List α) (last : α) (trail : Trail next domain seen (next last))
    (enough : domain.length < fuel + seen.length) :
    Collects (Leads next) seen last (chain next fuel seen (next last)) := by
  induction fuel generalizing seen last with
  | zero =>
      cases following : next last with
      | none => exact .ended seen last fun item step => nomatch following.symm.trans step
      | some current =>
          rw [following] at trail
          -- without fuel, more elements would have been seen than there are
          have bound := trail.nodup.length_le_of_subset (trail.inside rfl)
          omega
  | succ fuel ih =>
      cases following : next last with
      | none => exact .ended seen last fun item step => nomatch following.symm.trans step
      | some current =>
          rw [following] at trail
          by_cases member : current ∈ seen
          · simpa only [chain, if_pos member] using .repeated seen last current following member
          · have later := ih (current :: seen) current
              (trail_cons next domain seen current starts trail member)
              (by simp only [List.length_cons]; omega)
            simpa only [chain, if_neg member] using
              .onward seen last current _ following member later

theorem chain_isChain (fuel : Nat) (seen : List α) (last : α) :
    (last :: chain next fuel seen (next last)).IsChain (Leads next) := by
  induction fuel generalizing seen last with
  | zero => exact .singleton last
  | succ fuel ih =>
      cases following : next last with
      | none => exact .singleton last
      | some current =>
          by_cases known : current ∈ seen
          · simpa only [chain, if_pos known] using List.IsChain.singleton last
          · rw [chain, if_neg known]
            exact .cons_cons following (ih (current :: seen) current)

theorem chain_ancestors (domain : List α) (starts : ∀ item, (next item).isSome → item ∈ domain)
    (fuel : Nat) (enough : domain.length ≤ fuel) (id : α) :
    Ancestors (Leads next) id (chain next (fuel + 1) [id] (next id)) where
  reached := mem_chain_start next domain starts fuel enough id
  once := chain_nodup next _ _ _
  nearest := by
    have linked := chain_isChain next (fuel + 1) [id] id
    have once : (id :: chain next (fuel + 1) [id] (next id)).Nodup :=
      List.nodup_cons.mpr ⟨fun again =>
        chain_fresh next _ _ _ _ again (List.mem_singleton.mpr rfl), chain_nodup next _ _ _⟩
    have far (position : Nat) (item : α)
        (located : (chain next (fuel + 1) [id] (next id))[position]? = some item) :
        Distance (Leads next) id item (position + 1) :=
      distance_of_isChain (Leads next) (leads_rightUnique next) id _ linked once (position + 1)
        item located
    intro position item
    -- What is at a distance is somewhere in the chain, where the position tells the only distance.
    refine ⟨far position item, fun distance => ?_⟩
    have different : item ≠ id := by
      rintro rfl
      exact absurd (distance.least 0 .start) (Nat.not_succ_le_zero position)
    have reached := transGen_of_inSteps (Leads next) id item position distance.reached
    have member := (mem_chain_start next domain starts fuel enough id item).mpr ⟨different, reached⟩
    obtain ⟨other, located⟩ := List.mem_iff_getElem?.mp member
    have same := distance_unique (Leads next) id item _ _ distance (far other item located)
    rwa [Nat.succ.inj same]

theorem chain_collects_iff (domain : List α) (starts : ∀ item, (next item).isSome → item ∈ domain)
    (fuel : Nat) (enough : domain.length ≤ fuel) (id : α) (items : List α) :
    Collects (Leads next) [id] id items ↔ items = chain next (fuel + 1) [id] (next id) := by
  have collects := chain_collects next domain starts (fuel + 1) [id] id
    (trail_start next domain starts id) (by rw [List.length_singleton]; omega)
  constructor
  · exact fun again => collects_unique _ (leads_rightUnique next) _ _ _ _ again collects
  · rintro rfl
    exact collects

end Chain

/-- The bases of an interface are what its base links lead to, each once and the nearest first, and
the walk that collects them ends in every model, as on a cycle of bases or at a base that is
missing. The same holds of the bases of a struct, union or enumeration. -/
theorem bases_by_distance (model : Model) :
    (∀ id, Ancestors model.Extends id (model.baseInterfaces id) ∧
      ∀ bases, Collects model.Extends [id] id bases ↔ bases = model.baseInterfaces id) ∧
    ∀ id, Ancestors model.TypeExtends id (model.baseTypes id) ∧
      ∀ bases, Collects model.TypeExtends [id] id bases ↔ bases = model.baseTypes id := by
  have interfaces : model.interfaceIds.length ≤ model.interfaces.length := by simp [interfaceIds]
  have types : model.typeIds.length ≤ model.types.length := by simp [typeIds]
  rw [← leads_interfaceBase, ← leads_typeBase]
  refine ⟨fun id => ⟨?_, ?_⟩, fun id => ⟨?_, ?_⟩⟩
  · exact chain_ancestors model.interfaceBase? _ (interfaceBase?_source model) _ interfaces id
  · exact chain_collects_iff model.interfaceBase? _ (interfaceBase?_source model) _ interfaces id
  · exact chain_ancestors model.typeBase? _ (typeBase?_source model) _ types id
  · exact chain_collects_iff model.typeBase? _ (typeBase?_source model) _ types id

/-- A struct whose bases end in a circle, a straight chain of unions, two enumerations in a circle,
three interfaces in a circle, and one whose base is missing. -/
def spirals : Model where
  name := "spirals"
  collections := []
  interfaces := [Check.ringInterface "A" 1, Check.ringInterface "B" 2, Check.ringInterface "C" 0,
    Check.ringInterface "D" 9]
  types :=
    [Check.bareType "Shell" (.struct (some ⟨1⟩) false []),
      Check.bareType "Snail" (.struct (some ⟨2⟩) true []),
      Check.bareType "Slug" (.struct (some ⟨1⟩) false []),
      Check.bareType "Key" (.union none []), Check.bareType "Label" (.union (some ⟨3⟩) []),
      Check.bareType "Tag" (.union (some ⟨4⟩) []),
      Check.bareType "Dark" (.enumeration (some ⟨7⟩) []),
      Check.bareType "Light" (.enumeration (some ⟨6⟩) [])]
  constants := []

theorem spirals_by_distance :
    (Collects spirals.TypeExtends [⟨0⟩] ⟨0⟩ [⟨1⟩, ⟨2⟩] ∧
        Distance spirals.TypeExtends ⟨0⟩ ⟨2⟩ 2) ∧
      (Collects spirals.TypeExtends [⟨5⟩] ⟨5⟩ [⟨4⟩, ⟨3⟩] ∧
        Distance spirals.TypeExtends ⟨5⟩ ⟨3⟩ 2) ∧
      (Collects spirals.TypeExtends [⟨6⟩] ⟨6⟩ [⟨7⟩] ∧ Distance spirals.TypeExtends ⟨6⟩ ⟨7⟩ 1) ∧
      (Collects spirals.Extends [⟨0⟩] ⟨0⟩ [⟨1⟩, ⟨2⟩] ∧ Distance spirals.Extends ⟨0⟩ ⟨2⟩ 2) ∧
      Collects spirals.Extends [⟨3⟩] ⟨3⟩ [⟨9⟩] ∧ Distance spirals.Extends ⟨3⟩ ⟨9⟩ 1 := by
  obtain ⟨interfaces, types⟩ := bases_by_distance spirals
  exact ⟨⟨((types ⟨0⟩).2 _).mpr rfl, ((types ⟨0⟩).1.nearest 1 ⟨2⟩).mp rfl⟩,
    ⟨((types ⟨5⟩).2 _).mpr rfl, ((types ⟨5⟩).1.nearest 1 ⟨3⟩).mp rfl⟩,
    ⟨((types ⟨6⟩).2 _).mpr rfl, ((types ⟨6⟩).1.nearest 0 ⟨7⟩).mp rfl⟩,
    ⟨((interfaces ⟨0⟩).2 _).mpr rfl, ((interfaces ⟨0⟩).1.nearest 1 ⟨2⟩).mp rfl⟩,
    ((interfaces ⟨3⟩).2 _).mpr rfl, ((interfaces ⟨3⟩).1.nearest 0 ⟨9⟩).mp rfl⟩

end FrancaAudit.Model
