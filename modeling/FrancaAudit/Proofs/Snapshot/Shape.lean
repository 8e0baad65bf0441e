import FrancaAudit.Proofs.Json.Document
import FrancaAudit.Snapshot.Reading
import FrancaAudit.Snapshot.Writing

/-!
Values that are written in a form that is read again.

A reader is held against a writer of its own values. A value that was read is written without what
the reader passes over, with its defaults filled in and every record as an object; this is read to
the same value, at the same depth. Defaults need levels of nesting that the original may have done
without, so a reader restores its values from a certain depth on.
-/

namespace FrancaAudit.Snapshot

variable {α : Type}

/-- What is written for the value is read again as the value, with so many levels left. -/
structure Restored (read : Read α) (write : α → Json) (depth : Nat) (value : α) : Prop where
  spelled : (write value).Spelled
  again : read depth (write value) = some value

/-- With at least so many levels left, whatever is read is written in a form that is read again, if
there is nothing wrong with it. -/
def Restores (good : α → Prop) (levels : Nat) (read : Read α) (write : α → Json) : Prop :=
  ∀ depth json value, levels ≤ depth → read depth json = some value → good value →
    Restored read write depth value

abbrev Any (_ : α) : Prop := True

theorem integerWithin_eq_some (range : Int × Int) (depth : Nat) (json : Json) (value : Int)
    (found : integerWithin range depth json = some value) :
    range.1 ≤ value ∧ value ≤ range.2 := by
  cases json with
  | number numeral =>
      obtain ⟨written, _, kept⟩ := Option.bind_eq_some_iff.mp found
      split_ifs at kept with inside
      obtain rfl := Option.some.inj kept
      exact inside
  | _ => simp [integerWithin] at found

theorem integerWithin_ofInt (range : Int × Int) (depth : Nat) (value : Int)
    (inside : range.1 ≤ value ∧ value ≤ range.2) :
    integerWithin range depth (Json.ofInt value) = some value := by
  simp [integerWithin, Json.ofInt, Numeral.toInt?_ofInt, inside]

theorem natural_restores : Restores Any 0 natural Json.ofNat := by
  intro depth json value _ found _
  obtain ⟨written, within, rfl⟩ := Option.map_eq_some_iff.mp found
  obtain ⟨least, greatest⟩ := integerWithin_eq_some _ _ _ _ within
  obtain ⟨written, rfl⟩ := Int.eq_ofNat_of_zero_le least
  refine ⟨Json.spelled_ofNat written, ?_⟩
  exact congrArg (Option.map Int.toNat)
    (integerWithin_ofInt (unsignedRange 64) depth written ⟨least, greatest⟩)

theorem int64_restores : Restores Any 0 int64 Written.int64 := by
  intro depth json value _ found _
  obtain ⟨written, within, rfl⟩ := Option.map_eq_some_iff.mp found
  have inside := integerWithin_eq_some _ _ _ _ within
  have same : (Int64.ofInt written).toInt = written :=
    Int64.toInt_ofInt_of_le inside.1 (Int.lt_of_le_sub_one inside.2)
  refine ⟨.number _ (Numeral.grammatical_ofInt _), ?_⟩
  simp [int64, Written.int64, same, integerWithin_ofInt _ _ _ inside]

theorem text_restores : Restores Any 0 text Json.ofString :=
  fun _ _ value _ _ _ => ⟨.string value, rfl⟩

theorem bool_restored (depth : Nat) (value : Bool) : Restored bool .bool depth value :=
  ⟨.bool value, rfl⟩

theorem Restores.map {β : Type} {good : α → Prop} {levels : Nat} {read : Read α}
    {write : α → Json} (restores : Restores good levels read write) (make : α → β) (part : β → α)
    (same : ∀ value, part (make value) = value) :
    Restores (fun value => good (part value)) levels
      (fun depth json => (read depth json).map make) (fun value => write (part value)) := by
  intro depth json value room found fine
  obtain ⟨made, inside, rfl⟩ := Option.map_eq_some_iff.mp found
  rw [same] at fine
  obtain ⟨spelled, again⟩ := restores depth json made room inside fine
  rw [← same made] at spelled again
  exact ⟨spelled, by rw [again, same, Option.map_some]⟩

theorem Restores.optional {good : α → Prop} {levels : Nat} {read : Read α} {write : α → Json}
    (restores : Restores good levels read write) (present : ∀ value, write value ≠ .null) :
    Restores (fun value : Option α => ∀ item ∈ value, good item) levels (optional read)
      (Json.ofOption write) := by
  intro depth json value room found fine
  cases value with
  | none => exact ⟨.null, rfl⟩
  | some item =>
      have inside : read depth json = some item := by
        cases json <;> simp_all [Snapshot.optional]
      obtain ⟨spelled, again⟩ := restores depth json item room inside (fine item rfl)
      refine ⟨spelled, ?_⟩
      have other := present item
      simp only [Json.ofOption]
      cases written : write item <;> simp_all [Snapshot.optional]

theorem mapM_restored {good : α → Prop} {levels : Nat} {read : Read α} {write : α → Json}
    (restores : Restores good levels read write) (depth : Nat) (room : levels ≤ depth)
    (items : List Json) (values : List α) (found : items.mapM (read depth) = some values)
    (fine : ∀ value ∈ values, good value) :
    (∀ value ∈ values, Restored read write depth value) := by
  induction items generalizing values with
  | nil =>
      obtain rfl : [] = values := by simpa using found
      nofun
  | cons item rest ih =>
      simp only [List.mapM_cons, Option.pure_def, Option.bind_eq_bind, Option.bind_eq_some_iff,
        Option.some.injEq] at found
      obtain ⟨first, firstRead, later, laterRead, rfl⟩ := found
      obtain ⟨firstFine, laterFine⟩ := List.forall_mem_cons.mp fine
      exact List.forall_mem_cons.mpr
        ⟨restores depth item first room firstRead firstFine, ih later laterRead laterFine⟩

theorem list_restored (read : Read α) (write : α → Json) (depth : Nat) (values : List α)
    (each : ∀ value ∈ values, Restored read write depth value) :
    Restored (list read) (Json.ofList write) (depth + 1) values := by
  refine ⟨.array _ (List.forall_mem_map.mpr fun value listed => (each value listed).spelled), ?_⟩
  rw [Json.ofList, Snapshot.list, List.mapM_map]
  induction values with
  | nil => rfl
  | cons value rest ih =>
      obtain ⟨here, later⟩ := List.forall_mem_cons.mp each
      simp [here.again, ih later]

theorem Restores.list {good : α → Prop} {read : Read α} {write : α → Json} (levels : Nat)
    (restores : Restores good (levels - 1) read write) :
    Restores (fun values => ∀ value ∈ values, good value) levels (list read)
      (Json.ofList write) := by
  intro depth json values room found fine
  match depth, json with
  | depth + 1, .array items =>
      exact list_restored read write depth values
        (mapM_restored restores depth (by omega) items values found fine)

theorem record_entered (names : List String) (depth : Nat) (json : Json) (entered : Record)
    (found : record names depth json = some entered) : depth = entered.depth + 1 := by
  match depth, json with
  | depth + 1, .object members =>
      obtain ⟨_, _, kept⟩ := Option.bind_eq_some_iff.mp found
      dsimp only at kept
      split_ifs at kept
      obtain rfl := Option.some.inj kept
      rfl
  | depth + 1, .array items =>
      simp only [record] at found
      split_ifs at found
      obtain rfl := Option.some.inj found
      rfl

theorem keys_written (members : List (String × Json)) :
    (members.map fun (key, value) => (some key, value)).mapM
      (fun (member : Option String × Json) => member.1.map fun key => (key, member.2)) =
        some members := by
  rw [List.mapM_map]
  induction members with
  | nil => rfl
  | cons member rest ih => simp [ih]

theorem record_written (names : List String) (members : List (String × Json))
    (same : members.map (·.1) = names) (different : distinct names) (depth : Nat) :
    record names (depth + 1) (Json.record members) = some ⟨depth, members⟩ := by
  have all : (members.filter fun (key, _) => names.contains key) = members := by
    rw [List.filter_eq_self]
    intro member listed
    simpa [← same] using ⟨member.2, listed⟩
  simp only [record, Json.record, Option.bind_eq_bind]
  rw [keys_written members, Option.bind_some, all, same, if_pos different]

/-- What is written for the fields is taken again as the value, out of any record that has it. -/
structure Kept (fields : Record → Option α) (depth : Nat) (members : List (String × Json))
    (value : α) : Prop where
  spelled : ∀ member ∈ members, member.2.Spelled
  again : ∀ all, (∀ member ∈ members, all.lookup member.1 = some member.2) →
    fields ⟨depth, all⟩ = some value

theorem Kept.nothing {depth : Nat} {value : α} : Kept (fun _ => some value) depth [] value :=
  ⟨nofun, fun _ _ => rfl⟩

theorem Kept.append {β : Type} {first : Record → Option α} {rest : α → Record → Option β}
    {depth : Nat} {here later : List (String × Json)} {part : α} {value : β}
    (taken : Kept first depth here part) (others : Kept (rest part) depth later value) :
    Kept (fun entered => (first entered).bind fun part => rest part entered) depth (here ++ later)
      value := by
  refine ⟨List.forall_mem_append.mpr ⟨taken.spelled, others.spelled⟩, fun all holds => ?_⟩
  obtain ⟨holdsHere, holdsLater⟩ := List.forall_mem_append.mp holds
  simp only [taken.again all holdsHere, Option.bind_some, others.again all holdsLater]

theorem Kept.cons {β : Type} {first : Record → Option α} {rest : α → Record → Option β}
    {depth : Nat} {here : String × Json} {later : List (String × Json)} {part : α} {value : β}
    (taken : Kept first depth [here] part) (others : Kept (rest part) depth later value) :
    Kept (fun entered => (first entered).bind fun part => rest part entered) depth (here :: later)
      value :=
  taken.append others

theorem Kept.of_restored {read : Read α} {write : α → Json} {depth : Nat} {value : α}
    (name : String) (restored : Restored read write depth value) :
    Kept (·.required name read) depth [(name, write value)] value := by
  refine ⟨by simpa using restored.spelled, fun all holds => ?_⟩
  have located : all.lookup name = some (write value) := holds _ (List.mem_singleton_self _)
  simp [Record.required, located, restored.again]

theorem orElse_of_required (name : String) (read : Read α) (absent value : α) (entered : Record)
    (found : entered.required name read = some value) :
    entered.orElse name read absent = some value := by
  obtain ⟨json, located, inside⟩ := Option.bind_eq_some_iff.mp found
  simp [Record.orElse, located, inside]

section Fields

variable {good : α → Prop} {levels : Nat} {read : Read α} {write : α → Json}
variable (restores : Restores good levels read write) {entered : Record} {name : String}

include restores

theorem Restores.required (room : levels ≤ entered.depth) {value : α}
    (found : entered.required name read = some value) (fine : good value) :
    Kept (·.required name read) entered.depth [(name, write value)] value := by
  obtain ⟨json, _, inside⟩ := Option.bind_eq_some_iff.mp found
  exact .of_restored name (restores entered.depth json value room inside fine)

theorem Restores.orElse (room : levels ≤ entered.depth) {absent value : α}
    (found : entered.orElse name read absent = some value) (fine : good value)
    (default : Restored read write entered.depth absent) :
    Kept (·.orElse name read absent) entered.depth [(name, write value)] value := by
  have restored : Restored read write entered.depth value := by
    simp only [Record.orElse] at found
    cases located : entered.fields.lookup name with
    | none =>
        rw [located] at found
        obtain rfl := Option.some.inj found
        exact default
    | some json =>
        rw [located] at found
        exact restores entered.depth json value room found fine
  obtain ⟨spelled, again⟩ := Kept.of_restored name restored
  exact ⟨spelled, fun all holds => orElse_of_required _ _ _ _ _ (again all holds)⟩

theorem Restores.listOf (room : levels + 1 ≤ entered.depth) {values : List α}
    (found : entered.listOf name read = some values) (fine : ∀ value ∈ values, good value) :
    Kept (·.listOf name read) entered.depth [(name, Json.ofList write values)] values := by
  refine Restores.orElse (Restores.list (levels + 1) restores) room found fine ?_
  obtain ⟨depth, deep⟩ := Nat.exists_eq_add_of_le' room
  rw [deep]
  exact list_restored read write _ [] nofun

theorem Restores.optionOf (present : ∀ value, write value ≠ .null)
    (room : levels ≤ entered.depth) {value : Option α}
    (found : entered.optionOf name read = some value) (fine : ∀ item ∈ value, good item) :
    Kept (·.optionOf name read) entered.depth [(name, Json.ofOption write value)] value :=
  Restores.orElse (restores.optional present) room found fine ⟨.null, rfl⟩

end Fields

theorem bool_restores : Restores Any 0 bool Json.bool :=
  fun depth _ value _ _ _ => bool_restored depth value

theorem kept_flag {entered : Record} {name : String} {value : Bool}
    (found : entered.flag name = some value) :
    Kept (·.flag name) entered.depth [(name, .bool value)] value :=
  bool_restores.orElse (Nat.zero_le _) found trivial (bool_restored _ _)

theorem distinct_iff_nodup (names : List String) : distinct names ↔ names.Nodup := by
  induction names with
  | nil => simp [distinct]
  | cons name rest ih => simp [distinct, ih]

theorem lookup_of_nodup (members : List (String × Json)) (different : (members.map (·.1)).Nodup)
    (key : String) (value : Json) (listed : (key, value) ∈ members) :
    members.lookup key = some value := by
  induction members with
  | nil => cases listed
  | cons member rest ih =>
      obtain ⟨fresh, restDifferent⟩ := List.nodup_cons.mp different
      rcases List.mem_cons.mp listed with rfl | later
      · exact List.lookup_cons_self
      · have other : key ≠ member.1 := fun same => fresh (List.mem_map.mpr ⟨_, later, same⟩)
        rw [List.lookup_cons, beq_false_of_ne other]
        exact ih restDifferent later

/-- A record of all that is kept of a value stands for the value, one level above. -/
theorem Kept.record {fields : Record → Option α} {depth : Nat} {members : List (String × Json)}
    {value : α} (kept : Kept fields depth members value)
    (different : distinct (members.map (·.1))) :
    (Json.record members).Spelled ∧
      (Snapshot.record (members.map (·.1)) (depth + 1) (Json.record members)).bind fields =
        some value := by
  refine ⟨(Json.spelled_record members).mpr kept.spelled, ?_⟩
  rw [record_written _ members rfl different, Option.bind_some]
  exact kept.again members fun member =>
    lookup_of_nodup members ((distinct_iff_nodup _).mp different) member.1 member.2

theorem restores_record (names : List String) (different : distinct names)
    (fields : Record → Option α) (members : α → List (String × Json))
    (same : ∀ value, (members value).map (·.1) = names) (good : α → Prop) (levels : Nat)
    (each : ∀ entered value, levels ≤ entered.depth + 1 → fields entered = some value →
      good value → Kept fields entered.depth (members value) value) :
    Restores good levels (fun depth json => (record names depth json).bind fields)
      (fun value => Json.record (members value)) := by
  intro depth json value room found fine
  obtain ⟨entered, inside, made⟩ := Option.bind_eq_some_iff.mp found
  obtain rfl := record_entered _ _ _ _ inside
  obtain ⟨spelled, again⟩ :=
    (each entered value room made fine).record (by rwa [same])
  rw [same] at again
  exact ⟨spelled, again⟩

theorem choice_entered (depth inner : Nat) (json carried : Json) (chosen : Choice)
    (found : choice depth json = some chosen) (carries : chosen.carried = some (inner, carried)) :
    depth = inner + 1 := by
  cases json with
  | string name =>
      obtain ⟨_, _, rfl⟩ := Option.map_eq_some_iff.mp found
      simp at carries
  | object members =>
      match depth, members with
      | 0, _ => simp [choice] at found
      | depth + 1, [(some name, value)] =>
          obtain rfl := Option.some.inj found
          obtain ⟨rfl, -⟩ := Prod.mk.inj (Option.some.inj carries)
          rfl
  | _ => simp [choice] at found

@[simp]
theorem spelled_choice (name : String) (carried : Json) :
    (Written.choice name carried).Spelled ↔ carried.Spelled := by
  simp [Written.choice]

/-- A reader of choices restores what it reads if each alternative is written under its own name
with what it carries, one level below. None of them goes without. -/
theorem restores_choice (alternatives : Choice → Option α) (write : α → Json) (good : α → Prop)
    (levels : Nat) (bare : ∀ name, alternatives ⟨name, none⟩ = none)
    (each : ∀ name depth json value, levels ≤ depth + 1 →
      alternatives ⟨name, some (depth, json)⟩ = some value → good value →
        ∃ carried, write value = Written.choice name carried ∧ carried.Spelled ∧
          alternatives ⟨name, some (depth, carried)⟩ = some value) :
    Restores good levels (fun depth json => (choice depth json).bind alternatives) write := by
  intro depth json value room found fine
  obtain ⟨⟨name, held⟩, chosen, made⟩ := Option.bind_eq_some_iff.mp found
  match held with
  | none => simp [bare] at made
  | some (inner, carried) =>
      obtain rfl := choice_entered _ _ _ _ _ chosen rfl
      obtain ⟨carried, written, spelled, again⟩ := each name inner carried value room made fine
      refine ⟨written ▸ (spelled_choice name carried).mpr spelled, ?_⟩
      rw [written]
      exact again

theorem Restores.carried {β : Type} {good : α → Prop} {levels : Nat} {read : Read α}
    {write : α → Json} (restores : Restores good levels read write) {name : String} {depth : Nat}
    {json : Json} {make : α → β} {value : β} (room : levels ≤ depth)
    (made : ((⟨name, some (depth, json)⟩ : Choice).carrying read).bind
      (fun part => some (make part)) = some value)
    (fine : ∀ part, make part = value → good part) :
    ∃ part, make part = value ∧ (write part).Spelled ∧
      ((⟨name, some (depth, write part)⟩ : Choice).carrying read).bind
        (fun part => some (make part)) = some value := by
  obtain ⟨part, inside, whole⟩ := Option.bind_eq_some_iff.mp made
  have same : make part = value := Option.some.inj whole
  obtain ⟨spelled, again⟩ := restores depth json part room inside (fine part same)
  exact ⟨part, same, spelled, by simp [Choice.carrying, again, same]⟩

theorem record_carried {names : List String} {fields : Record → Option α} {name : String}
    {depth : Nat} {json : Json} {value : α}
    (made : ((⟨name, some (depth, json)⟩ : Choice).carrying (record names)).bind fields =
      some value) :
    ∃ entered, depth = entered.depth + 1 ∧ fields entered = some value ∧
      ∀ members, Kept fields entered.depth members value → members.map (·.1) = names →
        distinct names → (Json.record members).Spelled ∧
          ((⟨name, some (entered.depth + 1, Json.record members)⟩ : Choice).carrying
            (record names)).bind fields = some value := by
  obtain ⟨entered, inside, taken⟩ := Option.bind_eq_some_iff.mp made
  refine ⟨entered, record_entered names depth json entered inside, taken, ?_⟩
  rintro members kept rfl different
  exact kept.record different

theorem restores_oneOf (names : List (String × α)) (write : α → Json)
    (known : ∀ value, ∃ name, write value = Json.ofString name ∧ names.lookup name = some value) :
    Restores Any 0 (oneOf names) write := by
  intro depth json value _ _ _
  obtain ⟨name, written, located⟩ := known value
  refine ⟨written ▸ .string name, ?_⟩
  simp [written, oneOf, choice, Json.ofString, located, Choice.bare]

end FrancaAudit.Snapshot
