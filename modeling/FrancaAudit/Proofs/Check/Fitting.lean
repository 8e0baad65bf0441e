import FrancaAudit.Check.Fitting
import FrancaAudit.Proofs.Model.Chain

/-!
When each part of the check of a value succeeds.

Nothing is supposed about the model here. Each walk over the items, entries or initializers of a
value succeeds exactly if the list has the right form and every value in it fits.
-/

namespace FrancaAudit.Check

variable (model : Model)

def Each {α : Type} (form : α → BracketItem) (good : α → Prop) (items : List BracketItem) : Prop :=
  ∃ values : List α, items = values.map form ∧ ∀ value ∈ values, good value

section Each

variable {α : Type} (form : α → BracketItem) (good : α → Prop)

theorem each_nil : Each form good [] := ⟨[], rfl, by simp⟩

theorem each_congr (other : α → Prop) (items : List BracketItem)
    (same : ∀ value, form value ∈ items → (good value ↔ other value)) :
    Each form good items ↔ Each form other items := by
  refine exists_congr fun values => and_congr_right ?_
  rintro rfl
  exact forall₂_congr fun value member => same value (List.mem_map_of_mem member)

theorem each_cons (injective : Function.Injective form) (first : α) (rest : List BracketItem) :
    Each form good (form first :: rest) ↔ good first ∧ Each form good rest := by
  constructor
  · rintro ⟨values, same, each⟩
    cases values with
    | nil => simp at same
    | cons other later =>
        obtain ⟨formed, rfl⟩ := List.cons.inj same
        obtain rfl := injective formed
        exact ⟨each first List.mem_cons_self, later, rfl, fun value member =>
          each value (List.mem_cons_of_mem first member)⟩
  · rintro ⟨fine, values, rfl, each⟩
    refine ⟨first :: values, rfl, ?_⟩
    intro value member
    rcases List.mem_cons.mp member with rfl | later
    · exact fine
    · exact each value later

theorem not_each_cons (first : BracketItem) (rest : List BracketItem)
    (foreign : ∀ value, form value ≠ first) : ¬ Each form good (first :: rest) := by
  rintro ⟨values, same, _⟩
  cases values with
  | nil => simp at same
  | cons other later => exact foreign other (List.cons.inj same).1.symm

end Each

def entryOf (entry : Expr × Expr) : BracketItem := .entry entry.1 entry.2

theorem item_injective : Function.Injective BracketItem.item := fun _ _ same =>
  BracketItem.item.inj same

theorem entryOf_injective : Function.Injective entryOf := by
  intro first second same
  obtain ⟨key, value⟩ := BracketItem.entry.inj same
  exact Prod.ext key value

theorem fitItems_eq_ok (items : List BracketItem) (index : Nat) (element : TypeRef) :
    fitItems model items index element = .ok () ↔
      Each .item (fun value => fits model value ⟨element, false⟩ = .ok ()) items := by
  induction items generalizing index with
  | nil => simp [fitItems, each_nil]
  | cons item rest ih =>
      cases item with
      | entry key value =>
          simp only [fitItems, reduceCtorEq, false_iff]
          exact not_each_cons _ _ _ rest (by simp)
      | item value =>
          rw [each_cons _ _ item_injective, ← ih (index + 1), fitItems]
          cases fits model value ⟨element, false⟩ <;> simp

theorem fitBytes_eq_ok (ref : TypeRef) (items : List BracketItem) (index : Nat) :
    fitBytes model ref items index = .ok () ↔
      Each .item (fun value => fitsRange model value ref byteRange = .ok ()) items := by
  induction items generalizing index with
  | nil => simp [fitBytes, each_nil]
  | cons item rest ih =>
      cases item with
      | entry key value =>
          simp only [fitBytes, reduceCtorEq, false_iff]
          exact not_each_cons _ _ _ rest (by simp)
      | item value =>
          rw [each_cons _ _ item_injective, ← ih (index + 1), fitBytes]
          cases fitsRange model value ref byteRange <;> simp

theorem fitEntries_eq_ok (items : List BracketItem) (keyType valueType : TypeRef) :
    fitEntries model items keyType valueType = .ok () ↔
      Each entryOf (fun entry => fits model entry.1 ⟨keyType, false⟩ = .ok () ∧
        fits model entry.2 ⟨valueType, false⟩ = .ok ()) items := by
  induction items with
  | nil => simp [fitEntries, each_nil]
  | cons item rest ih =>
      cases item with
      | item value =>
          simp only [fitEntries, reduceCtorEq, false_iff]
          exact not_each_cons _ _ _ rest (by simp [entryOf])
      | entry key value =>
          change _ ↔ Each entryOf _ (entryOf (key, value) :: rest)
          rw [each_cons _ _ entryOf_injective, ← ih, fitEntries]
          cases fits model key ⟨keyType, false⟩ with
          | error reason => simp
          | ok _ => cases fits model value ⟨valueType, false⟩ <;> simp

theorem initializedField?_eq_some (id owner : TypeId) (index : Nat) (found : Model.DeclaredField) :
    initializedField? (model.allFields id) owner index = some found ↔
      (found.owner = owner ∧ found.index = index) ∧ model.HasField id owner index found.field := by
  constructor
  · intro located
    have named := List.find?_some located
    obtain ⟨rfl, rfl⟩ : found.owner = owner ∧ found.index = index := by simpa using named
    exact ⟨⟨rfl, rfl⟩, (model.mem_allFields id found).mp (List.mem_of_find?_eq_some located)⟩
  · rintro ⟨⟨rfl, rfl⟩, field⟩
    have member := (model.mem_allFields id found).mpr field
    cases located : initializedField? (model.allFields id) found.owner found.index with
    | none =>
        have absent := List.find?_eq_none.mp located found member
        simp at absent
    | some other =>
        -- the same owner and position, so the same field
        have named := List.find?_some located
        have declared := (model.mem_allFields id other).mp (List.mem_of_find?_eq_some located)
        obtain ⟨owner, index⟩ : other.owner = found.owner ∧ other.index = found.index := by
          simpa using named
        have same : other.field = found.field := by
          rw [owner, index, field.2] at declared
          exact (Option.some.inj declared.2).symm
        obtain ⟨_, _, _⟩ := other
        obtain ⟨_, _, _⟩ := found
        simp_all

theorem initializedField?_exists (id owner : TypeId) (index : Nat) (good : Field → Prop) :
    (∃ found, initializedField? (model.allFields id) owner index = some found ∧
        good found.field) ↔
      ∃ field, model.HasField id owner index field ∧ good field := by
  simp only [initializedField?_eq_some]
  constructor
  · rintro ⟨found, ⟨_, field⟩, fine⟩
    exact ⟨found.field, field, fine⟩
  · rintro ⟨field, declared, fine⟩
    exact ⟨⟨owner, index, field⟩, ⟨⟨rfl, rfl⟩, declared⟩, fine⟩

theorem checkComplete_eq_ok (fields : List Model.DeclaredField) (seen : List (TypeId × Nat)) :
    checkComplete fields seen = .ok () ↔
      ∀ field ∈ fields, (field.owner, field.index) ∈ seen := by
  unfold checkComplete firstMissing?
  split
  · rename_i none
    simpa using none
  · rename_i missing some
    have member := List.mem_of_find?_eq_some some
    have absent := List.find?_some some
    -- the field found missing is among those that would have to be seen
    simp only [reduceCtorEq, false_iff]
    intro all
    simp [all missing member] at absent

def Initializes (fields : List Model.DeclaredField) (init : FieldInit) : Prop :=
  ∃ found, initializedField? fields init.owner init.index = some found ∧
    fits model init.value found.field.type = .ok ()

theorem fitFields_cons (init : FieldInit) (rest : List FieldInit) (struct : TypeId)
    (fields : List Model.DeclaredField) (seen : List (TypeId × Nat)) :
    fitFields model (init :: rest) struct fields seen = .ok () ↔
      init.key ∉ seen ∧ Initializes model fields init ∧
        fitFields model rest struct fields (init.key :: seen) = .ok () := by
  obtain ⟨owner, index, value⟩ := init
  rw [fitFields]
  cases located : initializedField? fields owner index with
  | none => simp [Initializes, located]
  | some found =>
      by_cases member : (owner, index) ∈ seen
      · simp [FieldInit.key, member]
      · cases fitting : fits model value found.field.type <;>
          simp [FieldInit.key, Initializes, member, located, fitting]

-- What the rest of the initializers must not name are the fields seen and those just named.
theorem fitFields_eq_ok (inits : List FieldInit) (struct : TypeId)
    (fields : List Model.DeclaredField) (seen : List (TypeId × Nat)) :
    fitFields model inits struct fields seen = .ok () ↔
      (inits.map FieldInit.key).Nodup ∧ (∀ init ∈ inits, init.key ∉ seen) ∧
      (∀ init ∈ inits, Initializes model fields init) ∧
      ∀ field ∈ fields, (field.owner, field.index) ∈ seen ∨
        (field.owner, field.index) ∈ inits.map FieldInit.key := by
  induction inits generalizing seen with
  | nil => simp [fitFields, checkComplete_eq_ok]
  | cons init rest ih =>
      rw [fitFields_cons, ih]
      -- the sides differ in where the first name stands: among those seen, or those to come
      simp only [List.map_cons, List.nodup_cons, List.mem_map, List.mem_cons, forall_eq_or_imp,
        not_or, forall_and]
      constructor
      · rintro ⟨fresh, here, unique, apart, each, complete⟩
        refine ⟨⟨?_, unique⟩, ⟨fresh, apart.2⟩, ⟨here, each⟩, ?_⟩
        · rintro ⟨other, member, same⟩
          exact apart.1 other member same
        · intro field member
          rcases complete field member with (same | old) | later
          · exact Or.inr (Or.inl same)
          · exact Or.inl old
          · exact Or.inr (Or.inr later)
      · rintro ⟨⟨apart, unique⟩, ⟨fresh, others⟩, ⟨here, each⟩, complete⟩
        refine ⟨fresh, here, unique, ⟨?_, others⟩, each, ?_⟩
        · intro other member same
          exact apart ⟨other, member, same⟩
        · intro field member
          rcases complete field member with old | same | later
          · exact Or.inl (Or.inr old)
          · exact Or.inl (Or.inl same)
          · exact Or.inr later

theorem initializes_allFields (id : TypeId) (init : FieldInit) :
    Initializes model (model.allFields id) init ↔
      ∃ field, model.HasField id init.owner init.index field ∧
        fits model init.value field.type = .ok () :=
  initializedField?_exists model id init.owner init.index
    fun field => fits model init.value field.type = .ok ()

theorem fitFields_allFields (id : TypeId) (inits : List FieldInit) :
    fitFields model inits id (model.allFields id) [] = .ok () ↔
      model.Covers id inits ∧
        ∀ init ∈ inits, ∀ field, model.field? init.owner init.index = some field →
          fits model init.value field.type = .ok () := by
  simp only [fitFields_eq_ok, initializes_allFields, List.not_mem_nil, not_false_eq_true,
    implies_true, true_and, false_or, Model.Covers, and_assoc]
  refine and_congr_right fun _ => ?_
  constructor
  · rintro ⟨each, complete⟩
    refine ⟨?_, ?_⟩
    · intro owner index
      constructor
      · intro named
        obtain ⟨init, member, same⟩ := List.mem_map.mp named
        obtain ⟨rfl, rfl⟩ : init.owner = owner ∧ init.index = index := by
          simpa [FieldInit.key] using same
        obtain ⟨field, declared, _⟩ := each init member
        exact ⟨field, declared⟩
      · rintro ⟨field, declared⟩
        exact complete ⟨owner, index, field⟩ ((model.mem_allFields id _).mpr declared)
    · intro init member field located
      obtain ⟨other, declared, fine⟩ := each init member
      obtain rfl : field = other := Option.some.inj (located.symm.trans declared.2)
      exact fine
  · rintro ⟨covered, each⟩
    refine ⟨?_, ?_⟩
    · intro init member
      obtain ⟨field, declared⟩ := (covered init.owner init.index).mp (List.mem_map_of_mem member)
      exact ⟨field, declared, each init member field declared.2⟩
    · intro field member
      exact (covered field.owner field.index).mpr
        ⟨field.field, (model.mem_allFields id field).mp member⟩

theorem fitAlternative_eq_ok (id : TypeId) (inits : List FieldInit) :
    fitAlternative model inits id = .ok () ↔
      ∃ init field, inits = [init] ∧ model.HasField id init.owner init.index field ∧
        fits model init.value field.type = .ok () := by
  cases inits with
  | nil => simp [fitAlternative]
  | cons init rest =>
      cases rest with
      | nil =>
          have step : fitAlternative model [init] id = .ok () ↔
              Initializes model (model.allFields id) init := by
            obtain ⟨owner, index, value⟩ := init
            rw [fitAlternative]
            cases located : initializedField? (model.allFields id) owner index with
            | none => simp [Initializes, located]
            | some found =>
                cases fitting : fits model value found.field.type <;>
                  simp [Initializes, located, fitting]
          rw [step, initializes_allFields]
          simp
      | cons second more =>
          obtain ⟨owner, index, value⟩ := init
          simp [fitAlternative]

end FrancaAudit.Check
