import FrancaAudit.Check.Duplicate
import FrancaAudit.Proofs.Check.Reporting
import FrancaAudit.Proofs.Model.Linked
import Mathlib.Data.List.Duplicate
import Mathlib.Data.List.Induction
import Mathlib.Data.List.Nodup
import Mathlib.Data.List.NodupEquivFin

/-!
Which names are reported as shared.

The groups that a single pass over the items collects are those that a search for each name finds.
-/

namespace FrancaAudit.Check

def distinctNames : List String → List String
  | [] => []
  | name :: rest => name :: (distinctNames rest).filter fun other => other ≠ name

theorem mem_distinctNames (names : List String) (name : String) :
    name ∈ distinctNames names ↔ name ∈ names := by
  induction names with
  | nil => simp [distinctNames]
  | cons first rest ih =>
      simp only [distinctNames, List.mem_cons, List.mem_filter, ih, decide_eq_true_eq]
      by_cases same : name = first
      · simp [same]
      · simp [same]

theorem nodup_distinctNames (names : List String) : (distinctNames names).Nodup := by
  induction names with
  | nil => exact List.nodup_nil
  | cons first rest ih => exact List.nodup_cons.mpr ⟨by simp, ih.filter _⟩

theorem distinctNames_snoc (names : List String) (name : String) :
    distinctNames (names ++ [name]) =
      if name ∈ names then distinctNames names else distinctNames names ++ [name] := by
  induction names with
  | nil => rfl
  | cons first rest ih =>
      simp only [List.cons_append, distinctNames, ih]
      by_cases same : name = first
      · -- the filter takes the name away again, whether it was put behind the rest or not
        subst name
        by_cases present : first ∈ rest <;> simp [present]
      · by_cases present : name ∈ rest <;> simp [present, same]

def nodesNamed (items : List (String × Node)) (name : String) : List Node :=
  (items.filter fun item => item.1 = name).map (·.2)

theorem nodesNamed_snoc (items : List (String × Node)) (name other : String) (node : Node) :
    nodesNamed (items ++ [(name, node)]) other =
      if name = other then nodesNamed items other ++ [node] else nodesNamed items other := by
  by_cases same : name = other <;> simp [nodesNamed, same]

theorem enter_of_notMem (name : String) (node : Node) (groups : List (String × List Node))
    (new : name ∉ groups.map (·.1)) : enter name node groups = groups ++ [(name, [node])] := by
  induction groups with
  | nil => rfl
  | cons group rest ih =>
      simp only [List.map_cons, List.mem_cons, not_or] at new
      rw [enter, if_neg (Ne.symm new.1), ih new.2, List.cons_append]

theorem map_group_of_notMem (name : String) (node : Node) (names : List String)
    (nodes : String → List Node) (new : name ∉ names) :
    (names.map fun other =>
      (other, if name = other then nodes other ++ [node] else nodes other)) =
      names.map fun other => (other, nodes other) := by
  apply List.map_congr_left
  intro other member
  rw [if_neg]
  rintro rfl
  exact new member

theorem enter_of_mem (name : String) (node : Node) (names : List String)
    (nodes : String → List Node) (once : names.Nodup) (known : name ∈ names) :
    enter name node (names.map fun other => (other, nodes other)) =
      names.map fun other =>
        (other, if name = other then nodes other ++ [node] else nodes other) := by
  induction names with
  | nil => exact absurd known List.not_mem_nil
  | cons first rest ih =>
      have ⟨fresh, later⟩ := List.nodup_cons.mp once
      by_cases same : first = name
      · subst first
        rw [List.map_cons, enter, if_pos rfl, List.map_cons, if_pos rfl,
          map_group_of_notMem name node rest nodes fresh]
      · rw [List.map_cons, enter, if_neg same, List.map_cons, if_neg (Ne.symm same),
          ih later ((List.mem_cons.mp known).resolve_left (Ne.symm same))]

theorem nameGroups_snoc (items : List (String × Node)) (name : String) (node : Node) :
    nameGroups (items ++ [(name, node)]) = enter name node (nameGroups items) := by
  simp [nameGroups]

theorem nodesNamed_eq_nil (items : List (String × Node)) (name : String)
    (unknown : name ∉ items.map (·.1)) : nodesNamed items name = [] := by
  rw [nodesNamed, List.map_eq_nil_iff, List.filter_eq_nil_iff]
  rintro ⟨other, _⟩ member same
  obtain rfl : other = name := by simpa using same
  exact unknown (List.mem_map_of_mem member)

theorem nameGroups_eq (items : List (String × Node)) :
    nameGroups items =
      (distinctNames (items.map (·.1))).map fun name => (name, nodesNamed items name) := by
  induction items using List.reverseRecOn with
  | nil => rfl
  | append_singleton items item ih =>
      obtain ⟨name, node⟩ := item
      simp only [nameGroups_snoc, ih, List.map_append, List.map_singleton, distinctNames_snoc,
        nodesNamed_snoc]
      by_cases known : name ∈ items.map (·.1)
      · rw [if_pos known,
          enter_of_mem _ _ _ _ (nodup_distinctNames _) ((mem_distinctNames _ _).mpr known)]
      · have new : name ∉ distinctNames (items.map (·.1)) := by rwa [mem_distinctNames]
        rw [if_neg known, enter_of_notMem _ _ _ (by simpa using new), List.map_append,
          List.map_singleton, if_pos rfl, nodesNamed_eq_nil items name known, List.nil_append,
          map_group_of_notMem _ _ _ _ new]

/-- The items whose name is that of another item too, grouped by name. -/
def duplicates (items : List (String × Node)) : List (String × Node) :=
  (distinctNames (items.map (·.1))).flatMap fun name =>
    let group := items.filter fun item => item.1 = name
    if group.length < 2 then [] else group

section Errors

variable (kind : DiagnosticKind) (what : String) (items : List (String × Node))

theorem appends_groupErrors (name : String) (nodes : List Node) :
    Appends
      (if nodes.length < 2 then pure ()
        else nodes.forM fun node => report (duplicateError kind what name node))
      (if nodes.length < 2 then [] else nodes.map (duplicateError kind what name)) := by
  split
  · exact appends_nothing
  · exact appends_reports nodes _

theorem duplicateErrors_eq :
    duplicateErrors kind what items =
      (duplicates items).map fun (name, node) => duplicateError kind what name node := by
  have added := appends_forM (nameGroups items) _ _ fun group =>
    appends_groupErrors kind what group.1 group.2
  rw [duplicateErrors, reportDuplicates, added.findings_eq, nameGroups_eq, List.flatMap_map,
    duplicates, List.map_flatMap]
  apply List.flatMap_congr
  intro name _
  rw [nodesNamed, List.length_map, List.map_map]
  by_cases short : (items.filter fun item => item.1 = name).length < 2
  · simp [short]
  · simp only [short, ↓reduceIte]
    apply List.map_congr_left
    intro item member
    obtain rfl : item.1 = name := by simpa using (List.mem_filter.mp member).2
    rfl

theorem appends_reportDuplicates :
    Appends (reportDuplicates kind what items) (duplicateErrors kind what items) :=
  (appends_forM (nameGroups items) _ _ fun group =>
    appends_groupErrors kind what group.1 group.2).own

end Errors

theorem count_name (items : List (String × Node)) (name : String) :
    (items.map (·.1)).count name = (items.filter fun item => item.1 = name).length := by
  rw [List.count_eq_countP, List.countP_map, List.countP_eq_length_filter]
  rfl

theorem duplicates_eq_nil (items : List (String × Node)) :
    duplicates items = [] ↔ (items.map (·.1)).Nodup := by
  simp only [duplicates, List.flatMap_eq_nil_iff, mem_distinctNames, List.nodup_iff_count_le_one,
    count_name]
  constructor
  · intro unshared name
    by_cases member : name ∈ items.map (·.1)
    · have short := unshared name member
      split at short
      · omega
      · rw [short]
        simp
    · -- no item has the name, so none share it
      rw [← count_name, List.count_eq_zero_of_not_mem member]
      omega
  · intro single name _
    rw [if_pos (Nat.lt_succ_of_le (single name))]

theorem map_named {α : Type} (items : List α) (name : α → String) (node : Nat → Node) :
    (named items name node).map (·.1) = items.map name := by
  simp only [named, List.map_map]
  conv_rhs => rw [← List.zipIdx_map_fst 0 items, List.map_map]
  rfl

theorem duplicateErrors_eq_nil {α : Type} (kind : DiagnosticKind) (what : String) (items : List α)
    (name : α → String) (node : Nat → Node) :
    duplicateErrors kind what (named items name node) = [] ↔ (items.map name).Nodup := by
  rw [duplicateErrors_eq, List.map_eq_nil_iff, duplicates_eq_nil, map_named]

theorem duplicates_subset (items : List (String × Node)) : duplicates items ⊆ items := by
  intro item member
  obtain ⟨name, _, grouped⟩ := List.mem_flatMap.mp member
  dsimp only at grouped
  split at grouped
  · exact absurd grouped List.not_mem_nil
  · exact (List.mem_filter.mp grouped).1

/-- An item is reported exactly if its name is counted twice. -/
theorem mem_duplicates (items : List (String × Node)) (item : String × Node) :
    item ∈ duplicates items ↔ item ∈ items ∧ 2 ≤ (items.map (·.1)).count item.1 := by
  simp only [duplicates, List.mem_flatMap, mem_distinctNames, count_name]
  constructor
  · rintro ⟨name, _, grouped⟩
    split at grouped
    · exact absurd grouped List.not_mem_nil
    · rename_i many
      obtain ⟨member, same⟩ := List.mem_filter.mp grouped
      obtain rfl : item.1 = name := by simpa using same
      exact ⟨member, Nat.not_lt.mp many⟩
  · rintro ⟨member, many⟩
    refine ⟨item.1, List.mem_map_of_mem member, ?_⟩
    rw [if_neg (Nat.not_lt.mpr many)]
    exact List.mem_filter.mpr ⟨member, by simp⟩

theorem two_le_count_iff (names : List String) (place : Nat) (name : String)
    (here : names[place]? = some name) :
    2 ≤ names.count name ↔ ∃ other, other ≠ place ∧ names[other]? = some name := by
  rw [← List.duplicate_iff_two_le_count, List.duplicate_iff_exists_distinct_get]
  constructor
  · rintro ⟨first, second, ascending, atFirst, atSecond⟩
    by_cases same : first.val = place
    · refine ⟨second, ?_, by simp [atSecond]⟩
      have before : first.val < second.val := ascending
      omega
    · exact ⟨first, same, by simp [atFirst]⟩
  · rintro ⟨other, different, there⟩
    obtain ⟨bound, atPlace⟩ := List.getElem?_eq_some_iff.mp here
    obtain ⟨otherBound, atOther⟩ := List.getElem?_eq_some_iff.mp there
    -- whichever of the two comes first
    rcases Nat.lt_or_gt_of_ne different with before | behind
    · exact ⟨⟨other, otherBound⟩, ⟨place, bound⟩, before, atOther.symm, atPlace.symm⟩
    · exact ⟨⟨place, bound⟩, ⟨other, otherBound⟩, behind, atPlace.symm, atOther.symm⟩

end FrancaAudit.Check
