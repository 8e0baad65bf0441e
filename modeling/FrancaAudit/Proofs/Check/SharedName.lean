import FrancaAudit.Proofs.Check.Duplicate
import FrancaAudit.Proofs.Precedence.Insertion
import Mathlib.Data.List.Forall2

/-!
Errors about shared names, place by place.

Equal items may stand at several places of a list, so an error is traced to the place that it is
about.
-/

namespace FrancaAudit.Check

open Precedence (enlist Enlisted enlisted_nil enlisted_enlist)

theorem enlisted_distinctNames (names : List String) : Enlisted names (distinctNames names) := by
  induction names using List.reverseRecOn with
  | nil => exact enlisted_nil
  | append_singleton names name ih =>
      have step : distinctNames (names ++ [name]) = enlist (distinctNames names) name := by
        rw [distinctNames_snoc, enlist]
        simp only [mem_distinctNames]
      rw [step]
      exact enlisted_enlist names (distinctNames names) name ih

/-- The name at the place stands at another place as well. -/
def Shared (names : List String) (place : Nat) : Prop :=
  ∃ name other, names[place]? = some name ∧ other ≠ place ∧ names[other]? = some name

/-- The name at the first place occurs in the list before the one at the second does, or it is the
same name and the first place comes before the second. -/
def Ahead (names : List String) (first second : Nat) : Prop :=
  ∃ name other, names[first]? = some name ∧ names[second]? = some other ∧
    (names.idxOf name < names.idxOf other ∨ name = other ∧ first < second)

theorem ahead_irrefl (names : List String) (place : Nat) : ¬ Ahead names place place := by
  rintro ⟨name, other, here, there, ahead⟩
  have same : name = other := Option.some.inj (here.symm.trans there)
  subst other
  omega

def placesOf (names : List String) (name : String) : List Nat :=
  if names.count name < 2 then [] else names.idxsOf name

theorem placesOf_ascending (names : List String) (name : String) :
    (placesOf names name).Pairwise (· < ·) := by
  unfold placesOf
  split
  · exact List.Pairwise.nil
  · exact List.pairwise_idxsOf

theorem mem_placesOf (names : List String) (name : String) (place : Nat) :
    place ∈ placesOf names name ↔ names[place]? = some name ∧ Shared names place := by
  have stands : place ∈ names.idxsOf name ↔ names[place]? = some name := by
    rw [List.mem_idxsOf_iff_exists_getElem_pos, List.getElem?_eq_some_iff]
    simp only [beq_iff_eq]
  unfold placesOf
  constructor
  · intro member
    split at member
    · exact absurd member List.not_mem_nil
    · rename_i many
      have here := stands.mp member
      obtain ⟨other, different, there⟩ :=
        (two_le_count_iff names place name here).mp (Nat.not_lt.mp many)
      exact ⟨here, name, other, here, different, there⟩
  · rintro ⟨here, same, other, alsoHere, different, there⟩
    obtain rfl : name = same := Option.some.inj (here.symm.trans alsoHere)
    have many := (two_le_count_iff names place name here).mpr ⟨other, different, there⟩
    rw [if_neg (Nat.not_lt.mpr many), stands]
    exact here

def sharedPlaces (names : List String) : List Nat :=
  (distinctNames names).flatMap (placesOf names)

theorem mem_sharedPlaces (names : List String) (place : Nat) :
    place ∈ sharedPlaces names ↔ Shared names place := by
  simp only [sharedPlaces, List.mem_flatMap, mem_distinctNames, mem_placesOf]
  constructor
  · rintro ⟨_, _, _, shared⟩
    exact shared
  · intro shared
    have ⟨name, _, here, _⟩ := shared
    exact ⟨name, List.mem_of_getElem? here, here, shared⟩

theorem sharedPlaces_ahead (names : List String) : (sharedPlaces names).Pairwise (Ahead names) := by
  have located (name : String) (place : Nat) (member : place ∈ placesOf names name) :
      names[place]? = some name := ((mem_placesOf names name place).mp member).1
  apply List.pairwise_flatMap.mpr
  constructor
  · intro name _
    apply (placesOf_ascending names name).imp_of_mem
    intro first second atFirst atSecond before
    exact ⟨name, name, located name first atFirst, located name second atSecond,
      .inr ⟨rfl, before⟩⟩
  · apply (enlisted_distinctNames names).ordered.imp
    intro name other earlier first atFirst second atSecond
    exact ⟨name, other, located name first atFirst, located other second atSecond, .inl earlier⟩

def ReportsItem (kind : DiagnosticKind) (what : String) (items : List (String × Node))
    (place : Nat) (finding : Diagnostic) : Prop :=
  ∃ name node, items[place]? = some (name, node) ∧ finding = duplicateError kind what name node

theorem idxsOf_items (items : List (String × Node)) (name : String) :
    List.Forall₂ (fun place item => items[place]? = some item ∧ item.1 = name)
      ((items.map (·.1)).idxsOf name) (items.filter fun item => item.1 = name) := by
  rw [List.idxsOf_map, List.forall₂_iff_get]
  constructor
  · rw [List.length_findIdxs, List.countP_eq_length_filter]
    rfl
  · intro rank inPlaces inItems
    have found := List.getElem_filter_eq_getElem_getElem_findIdxs inItems
    have named := List.of_mem_filter (List.get_mem _ ⟨rank, inItems⟩)
    exact ⟨List.getElem?_eq_some_iff.mpr ⟨_, found.symm⟩, of_decide_eq_true named⟩

theorem sharedPlaces_reported (kind : DiagnosticKind) (what : String)
    (items : List (String × Node)) :
    List.Forall₂ (ReportsItem kind what items) (sharedPlaces (items.map (·.1)))
      (duplicateErrors kind what items) := by
  rw [duplicateErrors_eq, duplicates, List.map_flatMap]
  apply List.rel_flatMap (R := Eq) (List.forall₂_refl _)
  rintro name _ rfl
  dsimp only
  rw [← count_name, placesOf]
  split
  · exact List.Forall₂.nil
  · simp only [List.forall₂_map_right_iff]
    apply (idxsOf_items items name).imp
    rintro place ⟨_, node⟩ ⟨located, rfl⟩
    exact ⟨_, node, located, rfl⟩

/-- Every place whose name stands elsewhere too gets one error, and no other place gets any. The
errors come name by name in the order of first occurrence, and for each name in that of the list. -/
theorem sharedNames_reported (kind : DiagnosticKind) (what : String)
    (items : List (String × Node)) :
    ∃ places : List Nat, places.Nodup ∧
      (∀ place, place ∈ places ↔ Shared (items.map (·.1)) place) ∧
      places.Pairwise (Ahead (items.map (·.1))) ∧
      List.Forall₂ (ReportsItem kind what items) places (duplicateErrors kind what items) := by
  have ahead := sharedPlaces_ahead (items.map (·.1))
  have once : (sharedPlaces (items.map (·.1))).Nodup := by
    apply List.Pairwise.imp _ ahead
    rintro place _ before rfl
    exact ahead_irrefl _ place before
  exact ⟨_, once, mem_sharedPlaces _, ahead, sharedPlaces_reported kind what items⟩

-- Names that take turns, one that is not shared, and a node that is listed again.
example :
    duplicates [("hue", .type ⟨0⟩), ("tint", .type ⟨1⟩), ("hue", .type ⟨2⟩), ("tone", .type ⟨0⟩),
        ("tint", .type ⟨0⟩)] =
      [("hue", .type ⟨0⟩), ("hue", .type ⟨2⟩), ("tint", .type ⟨1⟩), ("tint", .type ⟨0⟩)] := by
  decide

end FrancaAudit.Check
