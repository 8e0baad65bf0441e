import FrancaAudit.Proofs.Check.Alias
import Mathlib.Data.List.Perm.Basic

/-!
Values written as one initializer for each field.

A struct wants its initializers to match its fields one to one, in any order; a union wants exactly
one. Each own or inherited field is known by the type that declares it and its position there. No
two fields share these, even where the bases lead around a cycle, since the chain of bases is cut
before it comes to a type again.
-/

namespace FrancaAudit

namespace Model

def DeclaredField.key (field : DeclaredField) : TypeId × Nat := (field.owner, field.index)

variable (model : Model)

theorem lineage_nodup (id : TypeId) : ((model.baseTypes id).reverse ++ [id]).Nodup := by
  rw [List.nodup_append]
  refine ⟨List.nodup_reverse.mpr (chain_nodup model.typeBase? _ _ _), List.nodup_singleton id, ?_⟩
  intro ancestor inherited own single same
  rw [List.mem_singleton.mp single] at same
  exact ((mem_baseTypes model id ancestor).mp (List.mem_reverse.mp inherited)).1 same

theorem ownFields_keys_nodup (id : TypeId) :
    ((model.ownFields id).map DeclaredField.key).Nodup := by
  cases known : model.type? id with
  | none => simp [ownFields, known]
  | some definition =>
      have keys : (model.ownFields id).map DeclaredField.key =
          (List.range definition.kind.fields.length).map (id, ·) := by
        simp only [ownFields, known, List.map_map]
        rw [List.range_eq_range', ← List.zipIdx_map_snd 0 definition.kind.fields, List.map_map]
        rfl
      rw [keys]
      exact List.nodup_range.map fun first second same => (Prod.mk.inj same).2

theorem allFields_keys_nodup (id : TypeId) :
    ((model.allFields id).map DeclaredField.key).Nodup := by
  rw [allFields, List.map_flatMap, List.nodup_flatMap]
  constructor
  · intro owner _
    exact ownFields_keys_nodup model owner
  · -- fields of different types differ in the type
    refine (lineage_nodup model id).imp fun different key here there => different ?_
    obtain ⟨field, own, rfl⟩ := List.mem_map.mp here
    obtain ⟨other, otherOwn, same⟩ := List.mem_map.mp there
    rw [← ((mem_ownFields model _ field).mp own).1, ← ((mem_ownFields model _ other).mp otherOwn).1]
    exact (Prod.mk.inj same).1.symm

end Model

namespace Check

open Model (DeclaredField)

variable (model : Model)

/-- The initializer names the field, and its value fits the type of the field. -/
structure Fills (field : DeclaredField) (init : FieldInit) : Prop where
  named : field.key = init.key
  fitting : fits model init.value field.field.type = .ok ()

/-- In some order, the initializers are one for each field. -/
def FillsEach (fields : List DeclaredField) (inits : List FieldInit) : Prop :=
  ∃ arranged, arranged.Perm inits ∧ List.Forall₂ (Fills model) fields arranged

theorem fillsEach_perm (fields : List DeclaredField) (inits other : List FieldInit)
    (same : inits.Perm other) : FillsEach model fields inits ↔ FillsEach model fields other := by
  refine exists_congr fun arranged => and_congr_left fun _ => ?_
  exact ⟨fun kept => kept.trans same, fun kept => kept.trans same.symm⟩

theorem initializes_iff_fills (id : TypeId) (init : FieldInit) :
    Initializes model (model.allFields id) init ↔
      ∃ field ∈ model.allFields id, Fills model field init := by
  rw [initializes_allFields]
  constructor
  · rintro ⟨field, declared, fine⟩
    exact ⟨⟨init.owner, init.index, field⟩, (model.mem_allFields id _).mpr declared, rfl, fine⟩
  · rintro ⟨⟨owner, index, field⟩, member, named, fine⟩
    obtain ⟨rfl, rfl⟩ := Prod.mk.inj named
    exact ⟨field, (model.mem_allFields id _).mp member, fine⟩

theorem keys_of_fills (fields : List DeclaredField) (inits : List FieldInit)
    (filled : List.Forall₂ (Fills model) fields inits) :
    fields.map DeclaredField.key = inits.map FieldInit.key := by
  induction filled with
  | nil => rfl
  | cons fills _ ih => rw [List.map_cons, List.map_cons, fills.named, ih]

theorem field_of_fills (fields : List DeclaredField) (inits : List FieldInit)
    (filled : List.Forall₂ (Fills model) fields inits) (init : FieldInit) (member : init ∈ inits) :
    ∃ field ∈ fields, Fills model field init := by
  induction filled with
  | nil => exact absurd member List.not_mem_nil
  | @cons field first _ _ fills _ ih =>
      rcases List.mem_cons.mp member with rfl | later
      · exact ⟨field, List.mem_cons_self, fills⟩
      · obtain ⟨other, inside, fine⟩ := ih later
        exact ⟨other, List.mem_cons_of_mem field inside, fine⟩

theorem fills_of_keys (fields : List DeclaredField)
    (unique : (fields.map DeclaredField.key).Nodup) (inits : List FieldInit)
    (keys : fields.map DeclaredField.key = inits.map FieldInit.key)
    (filled : ∀ init ∈ inits, ∃ field ∈ fields, Fills model field init) :
    List.Forall₂ (Fills model) fields inits := by
  have named : List.Forall₂ (fun field init => field.key = init.key) fields inits := by
    rw [← List.forall₂_map_right_iff, ← List.forall₂_map_left_iff, keys]
    exact List.forall₂_same.mpr fun _ _ => rfl
  rw [List.forall₂_iff_zip] at named ⊢
  refine ⟨named.1, fun {field init} paired => ?_⟩
  obtain ⟨member, written⟩ := List.of_mem_zip paired
  obtain ⟨other, inside, fills⟩ := filled init written
  have same : other.key = field.key := fills.named.trans (named.2 paired).symm
  rwa [List.inj_on_of_nodup_map unique inside member same] at fills

theorem fillsEach_iff (fields : List DeclaredField)
    (unique : (fields.map DeclaredField.key).Nodup) (inits : List FieldInit) :
    FillsEach model fields inits ↔
      (fields.map DeclaredField.key).Perm (inits.map FieldInit.key) ∧
        ∀ init ∈ inits, ∃ field ∈ fields, Fills model field init := by
  constructor
  · rintro ⟨arranged, same, filled⟩
    rw [keys_of_fills model fields arranged filled]
    refine ⟨same.map _, ?_⟩
    intro init member
    exact field_of_fills model fields arranged filled init (same.mem_iff.mpr member)
  · rintro ⟨keys, filled⟩
    -- the initializers can be put in the order of the fields
    obtain ⟨arranged, named, same⟩ :
        Relation.Comp (· = List.map FieldInit.key ·) List.Perm _ inits :=
      (congrFun₂ (List.eq_map_comp_perm FieldInit.key) _ inits).mpr keys
    refine ⟨arranged, same, fills_of_keys model fields unique arranged named ?_⟩
    intro init member
    exact filled init (same.mem_iff.mp member)

theorem fitFields_fillsEach (id : TypeId) (inits : List FieldInit) :
    fitFields model inits id (model.allFields id) [] = .ok () ↔
      FillsEach model (model.allFields id) inits := by
  have unique := model.allFields_keys_nodup id
  rw [fitFields_eq_ok, fillsEach_iff model _ unique]
  simp only [initializes_iff_fills, List.not_mem_nil, not_false_eq_true, implies_true, true_and,
    false_or]
  constructor
  · rintro ⟨once, each, complete⟩
    refine ⟨(List.perm_ext_iff_of_nodup unique once).mpr fun key => ?_, each⟩
    constructor
    · intro known
      obtain ⟨field, member, rfl⟩ := List.mem_map.mp known
      exact complete field member
    · intro named
      obtain ⟨init, member, rfl⟩ := List.mem_map.mp named
      obtain ⟨field, inside, fills⟩ := each init member
      exact fills.named ▸ List.mem_map_of_mem inside
  · rintro ⟨keys, each⟩
    refine ⟨keys.nodup_iff.mp unique, each, ?_⟩
    intro field member
    exact keys.mem_iff.mp (List.mem_map_of_mem member)

theorem fitAlternative_fills (id : TypeId) (inits : List FieldInit) :
    fitAlternative model inits id = .ok () ↔
      ∃ init, inits = [init] ∧ ∃ field ∈ model.allFields id, Fills model field init := by
  rw [fitAlternative_eq_ok]
  refine exists_congr fun init => ?_
  rw [← initializes_iff_fills, initializes_allFields]
  simp only [exists_and_left]

/-- A reference that names a struct or union, directly or through aliases, holds compound values
against it. -/
theorem fits_compound (ref actual : TypeRef) (id : TypeId) (kind : TypeKind)
    (path : Relation.ReflTransGen model.Aliases ref actual) (names : model.Names actual id kind)
    (final : ∀ other, kind ≠ .alias other) (inits : List FieldInit) :
    fits model (.compound inits) ⟨ref, false⟩ =
      fitsAs model (.compound inits) actual (wantedOfKind id kind) := by
  have settled := model.settled_of_names actual id kind names final
  rw [fits_of_path model ref actual path settled, wanted_names model actual id kind names]

/-- A struct accepts a compound value exactly if its initializers match the own and inherited
fields one to one and each value fits the type of its field; their order does not count. A union
wants a single initializer, for any of its fields. In both cases a field is told from all others by
the type that declares it and its position there. -/
theorem compound_fits (ref actual : TypeRef) (id : TypeId)
    (path : Relation.ReflTransGen model.Aliases ref actual) (inits : List FieldInit) :
    (∀ base polymorphic fields, model.Names actual id (.struct base polymorphic fields) →
      (fits model (.compound inits) ⟨ref, false⟩ = .ok () ↔
        FillsEach model (model.allFields id) inits) ∧
      ∀ other, inits.Perm other →
        (fits model (.compound inits) ⟨ref, false⟩ = .ok () ↔
          fits model (.compound other) ⟨ref, false⟩ = .ok ())) ∧
    (∀ base fields, model.Names actual id (.union base fields) →
      (fits model (.compound inits) ⟨ref, false⟩ = .ok () ↔
        ∃ init, inits = [init] ∧ ∃ field ∈ model.allFields id, Fills model field init)) ∧
    ((model.allFields id).map DeclaredField.key).Nodup ∧
    ∀ owner index field, ⟨owner, index, field⟩ ∈ model.allFields id ↔
      model.HasField id owner index field := by
  refine ⟨?_, ?_, model.allFields_keys_nodup id, fun _ _ _ => model.mem_allFields id _⟩
  · intro base polymorphic fields names
    -- acceptance is said without the order of initializers, so permuting them changes nothing
    have accepts (written : List FieldInit) :
        fits model (.compound written) ⟨ref, false⟩ = .ok () ↔
          FillsEach model (model.allFields id) written := by
      rw [fits_compound model ref actual id _ path names (by simp)]
      exact fitFields_fillsEach model id written
    refine ⟨accepts inits, fun other same => ?_⟩
    rw [accepts inits, accepts other]
    exact fillsEach_perm model _ inits other same
  · intro base fields names
    rw [fits_compound model ref actual id _ path names (by simp)]
    exact fitAlternative_fills model id inits

/-- Two structs, each the base of the other, a third that extends one of them, and a union that is
its own base. -/
def tangle : Model where
  name := "tangle"
  collections := [⟨"Tangle", .unknown, [], [⟨0⟩, ⟨1⟩, ⟨2⟩, ⟨3⟩, ⟨4⟩], []⟩]
  interfaces := []
  types :=
    [bareType "Head" (.struct (some ⟨1⟩) false
        [⟨"x", .unknown, [], ⟨.primitive .uint8, false⟩⟩]),
      bareType "Tail" (.struct (some ⟨0⟩) false
        [⟨"x", .unknown, [], ⟨.primitive .boolean, false⟩⟩]),
      bareType "Tip" (.struct (some ⟨0⟩) false
        [⟨"y", .unknown, [], ⟨.primitive .int8, true⟩⟩]),
      bareType "Loop" (.alias (.derived ⟨2⟩)),
      bareType "Either" (.union (some ⟨4⟩)
        [⟨"one", .unknown, [], ⟨.derived ⟨3⟩, false⟩⟩,
          ⟨"other", .unknown, [], ⟨.primitive .string, false⟩⟩])]
  constants := []

def tipParts : List FieldInit :=
  [⟨⟨2⟩, 0, .bracket [.item (.literal (.integer 1))]⟩,
    ⟨⟨0⟩, 0, .binary .add (.literal (.integer 1)) (.literal (.integer 2))⟩,
    ⟨⟨1⟩, 0, .literal (.bool true)⟩]

theorem tangle_compound :
    tangle.Aliases (.derived ⟨3⟩) (.derived ⟨2⟩) ∧
      FillsEach tangle (tangle.allFields ⟨2⟩) tipParts ∧
      fits tangle (.compound tipParts.reverse) ⟨.derived ⟨3⟩, false⟩ = .ok () ∧
      ∃ field ∈ tangle.allFields ⟨4⟩, Fills tangle field ⟨⟨4⟩, 0, .compound tipParts⟩ := by
  have tip : tangle.Names (.derived ⟨2⟩) ⟨2⟩ _ := ⟨rfl, _, rfl, rfl⟩
  have either : tangle.Names (.derived ⟨4⟩) ⟨4⟩ _ := ⟨rfl, _, rfl, rfl⟩
  have loop : tangle.Aliases (.derived ⟨3⟩) (.derived ⟨2⟩) := ⟨⟨3⟩, rfl, _, rfl, rfl⟩
  obtain ⟨accepts, anyOrder⟩ :=
    (compound_fits tangle _ _ ⟨2⟩ (.single loop) tipParts).1 _ _ _ tip
  have chosen := ((compound_fits tangle _ _ ⟨4⟩ .refl
    [⟨⟨4⟩, 0, .compound tipParts⟩]).2.1 _ _ either).mp rfl
  obtain ⟨init, same, filled⟩ := chosen
  obtain rfl := List.singleton_inj.mp same
  exact ⟨loop, accepts.mp rfl, (anyOrder _ (List.reverse_perm _).symm).mp rfl, filled⟩

end Check

end FrancaAudit
