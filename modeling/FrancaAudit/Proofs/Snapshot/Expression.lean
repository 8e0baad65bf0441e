import FrancaAudit.Proofs.Model.Subexpression
import FrancaAudit.Proofs.Snapshot.Reference

/-!
Expressions are written in a form that is read again, as long as their floating point literals are.

An expression is read with so many levels of nesting for its parts. No part is written deeper than
it was read, so no levels are needed beyond those of the original.
-/

namespace FrancaAudit.Snapshot

/-- The double is written as a number, and the number is read as the same double. -/
def ReadsBack (double : Double → Json) (value : Double) : Prop :=
  ∃ numeral : Numeral, double value = .number numeral ∧ numeral.Grammatical ∧
    numeral.toDouble? = some value

/-- Every floating point literal in the expression that a number stands for is read back. -/
def FloatsReadBack (double : Double → Json) (expr : Expr) : Prop :=
  ∀ path value, Expr.At expr path (.literal (.float value)) →
    (∃ numeral : Numeral, numeral.toDouble? = some value) → ReadsBack double value

variable (double : Double → Json)

theorem FloatsReadBack.child {double : Double → Json} {expr : Expr}
    (back : FloatsReadBack double expr) (step : Expr.Step) (child : Expr)
    (down : (step, child) ∈ expr.children) : FloatsReadBack double child :=
  fun path value reached => back (step :: path) value (.inside _ _ _ _ _ down reached)

theorem double_restores :
    Restores (fun value => (∃ numeral : Numeral, numeral.toDouble? = some value) →
      ReadsBack double value) 0 Snapshot.double double := by
  intro depth json value _ found back
  have stands : ∃ numeral : Numeral, numeral.toDouble? = some value := by
    cases json with
    | number numeral => exact ⟨numeral, found⟩
    | _ => cases found
  obtain ⟨numeral, written, proper, again⟩ := back stands
  exact ⟨written ▸ .number numeral proper, by rw [written]; exact again⟩

theorem literal_restores :
    Restores (fun value => FloatsReadBack double (.literal value)) 0 literal
      (Written.literal double) := by
  refine restores_choice _ _ _ 0 (fun name => ?_) fun name depth json value _ made back => ?_
  · dsimp only
    split <;> rfl
  dsimp only at made
  split at made
  · obtain ⟨value, rfl, spelled, again⟩ :=
      bool_restores.carried (Nat.zero_le _) made fun _ _ => trivial
    exact ⟨_, rfl, spelled, again⟩
  · obtain ⟨value, rfl, spelled, again⟩ :=
      int64_restores.carried (Nat.zero_le _) made fun _ _ => trivial
    exact ⟨_, rfl, spelled, again⟩
  · obtain ⟨value, rfl, spelled, again⟩ :=
      (double_restores double).carried (Nat.zero_le _) made fun value same =>
        back [] value (same ▸ .here _)
    exact ⟨_, rfl, spelled, again⟩
  · obtain ⟨value, rfl, spelled, again⟩ :=
      text_restores.carried (Nat.zero_le _) made fun _ _ => trivial
    exact ⟨_, rfl, spelled, again⟩
  · cases made

theorem unaryOp_restores : Restores Any 0 unaryOp fun op => Json.ofString (Written.unaryOp op) :=
  restores_oneOf _ _ fun op => by cases op <;> exact ⟨_, rfl, rfl⟩

theorem binaryOp_restores :
    Restores Any 0 binaryOp fun op => Json.ofString (Written.binaryOp op) :=
  restores_oneOf _ _ fun op => by cases op <;> exact ⟨_, rfl, rfl⟩

def fieldInitMembers (init : FieldInit) : List (String × Json) :=
  [("owner", Written.typeId init.owner), ("index", Json.ofNat init.index),
    ("value", Written.expr double init.value)]

def bracketItemMembers : BracketItem → List (String × Json)
  | .item value => [("first", Written.expr double value), ("value", .null)]
  | .entry key value =>
      [("first", Written.expr double key), ("value", Written.expr double value)]

theorem fieldInits_eq_map (inits : List FieldInit) :
    Written.fieldInits double inits =
      inits.map fun init => Json.record (fieldInitMembers double init) := by
  induction inits with
  | nil => rw [Written.fieldInits, List.map_nil]
  | cons init rest ih =>
      obtain ⟨owner, index, value⟩ := init
      rw [Written.fieldInits, ih, List.map_cons, fieldInitMembers]

theorem bracketItems_eq_map (items : List BracketItem) :
    Written.bracketItems double items =
      items.map fun item => Json.record (bracketItemMembers double item) := by
  induction items with
  | nil => rw [Written.bracketItems, List.map_nil]
  | cons item rest ih =>
      cases item <;> rw [Written.bracketItems, ih, List.map_cons, bracketItemMembers]

theorem expr_present (expr : Expr) : Written.expr double expr ≠ .null := by
  cases expr <;> simp [Written.expr, Written.choice, Json.record]

section Parts

variable {inner : Read Expr}
variable (restores : Restores (FloatsReadBack double) 0 inner (Written.expr double))

include restores

theorem fieldInit_restores :
    Restores (fun init => FloatsReadBack double init.value) 0 (fieldInit inner)
      fun init => Json.record (fieldInitMembers double init) := by
  refine restores_record ["owner", "index", "value"] rfl _ _ (fun _ => rfl) _ 0
    fun entered value _ found back => ?_
  simp only [Option.bind_eq_bind, Option.bind_eq_some_iff, Option.pure_def, Option.some.injEq]
    at found
  obtain ⟨owner, ownerRead, index, indexRead, value, valueRead, rfl⟩ := found
  exact .cons (typeId_restores.required (Nat.zero_le _) ownerRead trivial) <|
    .cons (natural_restores.required (Nat.zero_le _) indexRead trivial) <|
    .cons (restores.required (Nat.zero_le _) valueRead back) .nothing

theorem bracketItem_restores :
    Restores (fun item => ∃ index, ∀ step child, (step, child) ∈ Expr.heldChildren index item →
        FloatsReadBack double child) 0 (bracketItem inner)
      fun item => Json.record (bracketItemMembers double item) := by
  refine restores_record ["first", "value"] rfl _ _ (fun item => by cases item <;> rfl) _ 0
    fun entered value _ found back => ?_
  simp only [Option.bind_eq_bind, Option.bind_eq_some_iff] at found
  obtain ⟨first, firstRead, second, secondRead, made⟩ := found
  obtain ⟨index, back⟩ := back
  cases second with
  | none =>
      obtain rfl := Option.some.inj made
      have first := restores.required (Nat.zero_le _) firstRead
        (back (.item index) first (List.mem_singleton_self _))
      exact .cons first <|
        .cons (restores.optionOf (expr_present double) (Nat.zero_le _) secondRead nofun) .nothing
  | some value =>
      obtain rfl := Option.some.inj made
      have first := restores.required (Nat.zero_le _) firstRead
        (back (.key index) first (List.mem_cons_self ..))
      have second := restores.optionOf (expr_present double) (Nat.zero_le _) secondRead
        (by simpa using back (.value index) value (by simp [Expr.heldChildren]))
      exact .cons first <| .cons second .nothing

theorem exprOver_restores :
    Restores (FloatsReadBack double) 0 (exprOver inner) (Written.expr double) := by
  refine restores_choice _ _ _ 0 (fun name => ?_) fun name depth json value _ made back => ?_
  · dsimp only
    split <;> rfl
  -- one case for each alternative: what has been taken in is written out again
  dsimp only at made
  split at made
  · obtain ⟨value, rfl, spelled, again⟩ :=
      (literal_restores double).carried (Nat.zero_le _) made fun _ same => same ▸ back
    exact ⟨_, by rw [Written.expr], spelled, again⟩
  · obtain ⟨element, rfl, spelled, again⟩ :=
      elementRef_restores.carried (Nat.zero_le _) made fun _ _ => trivial
    exact ⟨_, by rw [Written.expr], spelled, again⟩
  · obtain ⟨entered, rfl, taken, whole⟩ := record_carried made
    simp only [Option.bind_eq_bind, Option.bind_eq_some_iff, Option.pure_def, Option.some.injEq]
      at taken
    obtain ⟨base, baseRead, owner, ownerRead, index, indexRead, rfl⟩ := taken
    exact ⟨_, by rw [Written.expr], whole _ (
      .cons (restores.required (Nat.zero_le _) baseRead
        (back.child .base base (List.mem_singleton_self _))) <|
      .cons (typeId_restores.required (Nat.zero_le _) ownerRead trivial) <|
      .cons (natural_restores.required (Nat.zero_le _) indexRead trivial) .nothing) rfl rfl⟩
  · obtain ⟨entered, rfl, taken, whole⟩ := record_carried made
    simp only [Option.bind_eq_bind, Option.bind_eq_some_iff, Option.pure_def, Option.some.injEq]
      at taken
    obtain ⟨op, opRead, operand, operandRead, rfl⟩ := taken
    exact ⟨_, by rw [Written.expr], whole _ (
      .cons (unaryOp_restores.required (Nat.zero_le _) opRead trivial) <|
      .cons (restores.required (Nat.zero_le _) operandRead
        (back.child .operand operand (List.mem_singleton_self _))) .nothing) rfl rfl⟩
  · obtain ⟨entered, rfl, taken, whole⟩ := record_carried made
    simp only [Option.bind_eq_bind, Option.bind_eq_some_iff, Option.pure_def, Option.some.injEq]
      at taken
    obtain ⟨op, opRead, left, leftRead, right, rightRead, rfl⟩ := taken
    exact ⟨_, by rw [Written.expr], whole _ (
      .cons (binaryOp_restores.required (Nat.zero_le _) opRead trivial) <|
      .cons (restores.required (Nat.zero_le _) leftRead
        (back.child .left left (List.mem_cons_self ..))) <|
      .cons (restores.required (Nat.zero_le _) rightRead
        (back.child .right right (by simp [Expr.children]))) .nothing) rfl rfl⟩
  · obtain ⟨inits, rfl, spelled, again⟩ :=
      (Restores.list 0 (fieldInit_restores double restores)).carried
        (Nat.zero_le _) made fun inits same init listed => by
          subst same
          obtain ⟨index, located⟩ := List.mem_iff_getElem?.mp listed
          exact back.child (.init index) init.value
            ((Expr.mem_children_compound ..).mpr ⟨index, init, located, rfl, rfl⟩)
    exact ⟨_, by rw [Written.expr, fieldInits_eq_map]; rfl, spelled, again⟩
  · obtain ⟨items, rfl, spelled, again⟩ :=
      (Restores.list 0 (bracketItem_restores double restores)).carried
        (Nat.zero_le _) made fun items same item listed => by
          subst same
          obtain ⟨index, located⟩ := List.mem_iff_getElem?.mp listed
          exact ⟨index, fun step child held => back.child step child
            ((Expr.mem_children_bracket ..).mpr ⟨index, item, located, held⟩)⟩
    exact ⟨_, by rw [Written.expr, bracketItems_eq_map]; rfl, spelled, again⟩
  · cases made

end Parts

theorem exprWithin_restores (levels : Nat) :
    Restores (FloatsReadBack double) 0 (exprWithin levels) (Written.expr double) := by
  induction levels with
  | zero => exact fun _ _ _ _ found _ => nomatch found
  | succ levels ih => exact exprOver_restores double ih

theorem expr_restores : Restores (FloatsReadBack double) 0 expr (Written.expr double) :=
  exprWithin_restores double (nestingLimit + 1)

end FrancaAudit.Snapshot
