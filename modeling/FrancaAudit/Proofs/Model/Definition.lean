import FrancaAudit.Model.Interface

/-!
What the definitions of types and the error codes of methods hold, kind by kind.

Only structs, unions and enumerations have bases, and only error codes of a method's own can do
without a declared enumeration.
-/

namespace FrancaAudit

namespace TypeKind

inductive HasBase : TypeKind → TypeId → Prop
  | struct (base : TypeId) (polymorphic : Bool) (fields : List Field) :
      HasBase (.struct (some base) polymorphic fields) base
  | union (base : TypeId) (fields : List Field) : HasBase (.union (some base) fields) base
  | enumeration (base : TypeId) (enumerators : List Enumerator) :
      HasBase (.enumeration (some base) enumerators) base

/-- The definition is a struct or union with the field at the position. -/
inductive HasField : TypeKind → Nat → Field → Prop
  | struct (base : Option TypeId) (polymorphic : Bool) (fields : List Field) (index : Nat)
      (field : Field) (listed : fields[index]? = some field) :
      HasField (.struct base polymorphic fields) index field
  | union (base : Option TypeId) (fields : List Field) (index : Nat) (field : Field)
      (listed : fields[index]? = some field) : HasField (.union base fields) index field

inductive HasEnumerator : TypeKind → Nat → Enumerator → Prop
  | enumeration (base : Option TypeId) (enumerators : List Enumerator) (index : Nat)
      (enumerator : Enumerator) (listed : enumerators[index]? = some enumerator) :
      HasEnumerator (.enumeration base enumerators) index enumerator

theorem base?_eq_some (kind : TypeKind) (base : TypeId) :
    kind.base? = some base ↔ kind.HasBase base := by
  constructor
  · intro extended
    cases kind with
    | struct first polymorphic fields =>
        obtain rfl : first = some base := extended
        exact .struct base polymorphic fields
    | union first fields =>
        obtain rfl : first = some base := extended
        exact .union base fields
    | enumeration first enumerators =>
        obtain rfl : first = some base := extended
        exact .enumeration base enumerators
    | array element => nomatch extended
    | map key value => nomatch extended
    | «alias» actual => nomatch extended
  · rintro ⟨⟩ <;> rfl

theorem base?_eq_none (kind : TypeKind) : kind.base? = none ↔ ∀ base, ¬ kind.HasBase base := by
  simp [← base?_eq_some, Option.eq_none_iff_forall_ne_some]

theorem fields_eq_some (kind : TypeKind) (index : Nat) (field : Field) :
    kind.fields[index]? = some field ↔ kind.HasField index field := by
  constructor
  · intro listed
    cases kind with
    | struct base polymorphic fields => exact .struct base polymorphic fields index field listed
    | union base fields => exact .union base fields index field listed
    | enumeration base enumerators => nomatch listed
    | array element => nomatch listed
    | map key value => nomatch listed
    | «alias» actual => nomatch listed
  · rintro ⟨⟩ <;> assumption

theorem enumerators_eq_some (kind : TypeKind) (index : Nat) (enumerator : Enumerator) :
    kind.enumerators[index]? = some enumerator ↔ kind.HasEnumerator index enumerator := by
  constructor
  · intro listed
    cases kind with
    | enumeration base enumerators => exact .enumeration base enumerators index enumerator listed
    | struct base polymorphic fields => nomatch listed
    | union base fields => nomatch listed
    | array element => nomatch listed
    | map key value => nomatch listed
    | «alias» actual => nomatch listed
  · rintro ⟨⟩
    assumption

end TypeKind

/-- The error codes are those of the declared enumeration, or extend them. -/
inductive MethodErrors.Draws : MethodErrors → TypeId → Prop
  | enumeration (id : TypeId) : Draws (.enumeration id) id
  | inline (base : TypeId) (enumerators : List Enumerator) :
      Draws (.inline (some base) enumerators) base

theorem MethodErrors.enumeration?_eq_some (errors : MethodErrors) (id : TypeId) :
    errors.enumeration? = some id ↔ errors.Draws id := by
  constructor
  · intro named
    cases errors with
    | enumeration other =>
        obtain rfl : other = id := Option.some.inj named
        exact .enumeration other
    | inline base enumerators =>
        obtain rfl : base = some id := named
        exact .inline id enumerators
  · rintro ⟨⟩ <;> rfl

end FrancaAudit
