import FrancaAudit.Proofs.Check.Accepted
import FrancaAudit.Proofs.Check.Behaviour
import FrancaAudit.Proofs.Check.MemberAccess
import FrancaAudit.Proofs.Check.Typing

/-!
The operands inside the guard of a transition that was accepted.

An operand without a type of its own is not examined, and the operand beside it is not either. Logic
and comparisons are Boolean all the same, so that such operands slip into a guard. All others have
the types that their operators ask for.
-/

namespace FrancaAudit

open Check (infer problems)

/-- The type of the expression depends on where it stands: an initializer, or what is computed from
one by `!`, by `-` or by arithmetic. -/
inductive Expr.Untyped : Expr → Prop
  | compound (inits : List FieldInit) : Untyped (.compound inits)
  | bracket (items : List BracketItem) : Untyped (.bracket items)
  | unary (op : UnaryOp) (operand : Expr) (inner : Untyped operand) : Untyped (.unary op operand)
  | left (op : BinaryOp) (left right : Expr) (listed : op ∈ operators .arithmetic)
      (inner : Untyped left) : Untyped (.binary op left right)
  | right (op : BinaryOp) (left right : Expr) (listed : op ∈ operators .arithmetic)
      (inner : Untyped right) : Untyped (.binary op left right)

def Expr.HasUntypedOperand (expr : Expr) : Prop :=
  ∃ step operand, (step, operand) ∈ expr.children ∧ operand.Untyped

/-- The expression applies `!`, one of `&&` and `||`, or one of `<`, `<=`, `>` and `>=`. -/
def Expr.IsTest : Expr → Prop
  | .unary .not _ => True
  | .binary op _ _ => op ∈ operators .logical ∨ op ∈ operators .ordering
  | _ => False

namespace Model

variable (model : Model)

def KnowsAll (expr : Expr) : Prop :=
  ∀ path element, expr.RefersAt path element → (model.element? element).isSome

/-- The operands of logic are Boolean, and those of an ordering are numbers. -/
def OperandsTyped : Expr → Prop
  | .unary .not operand => infer model operand = some .boolean
  | .binary op left right =>
      (op ∈ operators .logical →
        infer model left = some .boolean ∧ infer model right = some .boolean) ∧
      (op ∈ operators .ordering →
        (∃ type, infer model left = some type ∧ Number type) ∧
          ∃ type, infer model right = some type ∧ Number type)
  | _ => True

theorem knowsAll_part (expr part : Expr) (path : List Expr.Step) (inside : expr.At path part)
    (known : model.KnowsAll expr) : model.KnowsAll part := by
  rintro rest element ⟨inner, reached, refers⟩
  exact known (path ++ rest) element
    ⟨inner, expr.at_append part inner path rest inside reached, refers⟩

theorem knowsAll_of_stored (linked : model.Linked) (place : ExprPlace) (site : ExprSite)
    (stands : model.exprAt? place = some site) : model.KnowsAll site.expr := by
  intro path element refers
  have stored := (model.exprAt?_eq_some place site).mp stands
  exact model.knows_of_stores linked (.element element)
    (.element place site path element stored refers)

end Model

namespace Check

variable (model : Model)

theorem infer_untyped (expr : Expr) (untyped : expr.Untyped) : infer model expr = none := by
  induction untyped with
  | compound inits => rfl
  | bracket items => rfl
  | unary op operand inner ih => simp [infer, ih]
  | left op left right listed inner ih => simp [infer, (operatorClass_iff op _).mpr listed, ih]
  | right op left right listed inner ih =>
      cases infer model left <;> simp [infer, (operatorClass_iff op _).mpr listed, ih]

theorem elementType?_field (owner : TypeId) (index : Nat) :
    elementType? model (.field owner index) = fieldType? model owner index := by
  cases found : model.type? owner with
  | none => simp [elementType?, fieldType?, Model.element?, Model.field?, found]
  | some definition =>
      cases located : definition.kind.fields[index]? <;>
        simp [elementType?, fieldType?, Model.element?, Model.field?, found, located]

theorem not_hasUntypedOperand (expr : Expr) (test : expr.IsTest) (typed : model.OperandsTyped expr) :
    ¬ expr.HasUntypedOperand := by
  rintro ⟨step, operand, down, untyped⟩
  have none := infer_untyped model operand untyped
  cases expr with
  | unary op inner =>
      cases op with
      | neg => exact test
      | not =>
          cases List.mem_singleton.mp down
          exact Option.some_ne_none _ (typed.symm.trans none)
  | binary op left right =>
      -- a test has typed operands on both sides, so none of them is the untyped one
      have both :
          (∃ type, infer model left = some type) ∧ ∃ type, infer model right = some type := by
        rcases test with listed | listed
        · exact ⟨⟨_, (typed.1 listed).1⟩, _, (typed.1 listed).2⟩
        · obtain ⟨⟨first, ofLeft, _⟩, second, ofRight, _⟩ := typed.2 listed
          exact ⟨⟨first, ofLeft⟩, second, ofRight⟩
      obtain ⟨⟨first, ofLeft⟩, second, ofRight⟩ := both
      rcases List.mem_pair.mp down with same | same
      · cases same
        exact Option.some_ne_none first (ofLeft.symm.trans none)
      · cases same
        exact Option.some_ne_none second (ofRight.symm.trans none)
  | _ => exact test

section Linked

variable (linked : model.Linked)
variable (acyclic : ∀ id, ¬ Relation.TransGen model.DependsOn id id)

include linked acyclic

theorem infer_ref_exists (element : ElementRef) (resolves : (model.element? element).isSome) :
    ∃ type, infer model (.ref element) = some type := by
  obtain ⟨type, typed⟩ := hasType_of_element model linked acyclic element resolves
  exact ⟨type, infer_of_hasType model linked acyclic _ type typed⟩

theorem infer_member_exists (base : Expr) (owner : TypeId) (index : Nat)
    (resolves : (model.element? (.field owner index)).isSome) :
    ∃ type, infer model (.member base owner index) = some type := by
  obtain ⟨type, typed⟩ := infer_ref_exists model linked acyclic (.field owner index) resolves
  rw [infer, elementType?_field] at typed
  exact ⟨type, typed⟩

/-- Where no problem is found, only what is untyped has no type. -/
theorem infer_exists_or_untyped (expr : Expr) (known : model.KnowsAll expr)
    (clean : problems model expr = []) : (∃ type, infer model expr = some type) ∨ expr.Untyped := by
  induction expr using Expr.inductionOn with
  | inner expr ih =>
      have inner (step : Expr.Step) (child : Expr) (down : (step, child) ∈ expr.children) :
          (∃ type, infer model child = some type) ∨ child.Untyped := by
        have inside := Expr.At.inside expr step child [] child down (.here child)
        exact ih step child down (model.knowsAll_part expr child _ inside known)
          (problems_part model expr child _ inside clean)
      cases expr with
      | literal value => exact Or.inl ⟨literalType value, rfl⟩
      | ref element =>
          exact Or.inl (infer_ref_exists model linked acyclic element
            (known [] element ⟨_, .here _, rfl⟩))
      | member base owner index =>
          exact Or.inl (infer_member_exists model linked acyclic base owner index
            (known [] _ ⟨_, .here _, rfl⟩))
      | unary op operand =>
          rcases inner .operand operand (List.mem_singleton.mpr rfl) with ⟨type, typed⟩ | untyped
          · obtain ⟨result, rule⟩ := unaryRule_of_clean model op operand type clean typed
            exact Or.inl ⟨result, by simp [infer, typed, unaryType?_of_rule op type result rule]⟩
          · exact Or.inr (.unary op operand untyped)
      | binary op left right =>
          cases kind : operatorClass op with
          | arithmetic =>
              have listed := (operatorClass_iff op _).mp kind
              rcases inner .left left (by simp [Expr.children]) with ⟨first, ofLeft⟩ | untyped
              · rcases inner .right right (by simp [Expr.children]) with ⟨second, ofRight⟩ | untyped
                · obtain ⟨type, rule⟩ :=
                    binaryRule_of_clean model op left right first second clean ofLeft ofRight
                  exact Or.inl
                    ⟨type, infer_binary model op left right first second type ofLeft ofRight rule⟩
                · exact Or.inr (.right op left right listed untyped)
              · exact Or.inr (.left op left right listed untyped)
          -- tests are Boolean, whatever they are applied to
          | _ => exact Or.inl ⟨.boolean, by simp [infer, kind]⟩
      | compound inits => exact Or.inr (.compound inits)
      | bracket items => exact Or.inr (.bracket items)

theorem operandsTyped_of_clean (expr : Expr) (known : model.KnowsAll expr)
    (clean : problems model expr = []) : model.OperandsTyped expr ∨ expr.HasUntypedOperand := by
  have operand (step : Expr.Step) (child : Expr) (down : (step, child) ∈ expr.children) :
      (∃ type, infer model child = some type) ∨ expr.HasUntypedOperand := by
    have inside := Expr.At.inside expr step child [] child down (.here child)
    rcases infer_exists_or_untyped model linked acyclic child
      (model.knowsAll_part expr child _ inside known)
      (problems_part model expr child _ inside clean) with typed | untyped
    · exact Or.inl typed
    · exact Or.inr ⟨step, child, down, untyped⟩
  cases expr with
  | unary op inner =>
      cases op with
      | neg => exact Or.inl trivial
      | not =>
          rcases operand .operand inner (List.mem_singleton.mpr rfl) with ⟨type, typed⟩ | untyped
          · obtain ⟨result, rule⟩ := unaryRule_of_clean model .not inner type clean typed
            cases rule with
            | not => exact Or.inl typed
          · exact Or.inr untyped
  | binary op left right =>
      rcases operand .left left (by simp [Expr.children]) with ⟨first, ofLeft⟩ | untyped
      · rcases operand .right right (by simp [Expr.children]) with ⟨second, ofRight⟩ | untyped
        · -- both types are known, and the rule for them asks for the right ones
          have own := binaryRule_of_clean model op left right first second clean ofLeft ofRight
          rw [binaryRule_exists] at own
          refine Or.inl ⟨fun listed => ?_, fun listed => ?_⟩
          · rw [(operatorClass_iff op _).mpr listed] at own
            obtain ⟨rfl, rfl⟩ := own
            exact ⟨ofLeft, ofRight⟩
          · rw [(operatorClass_iff op _).mpr listed] at own
            exact ⟨⟨first, ofLeft, own.1⟩, second, ofRight, own.2⟩
        · exact Or.inr untyped
      · exact Or.inr untyped
  | _ => exact Or.inl trivial

end Linked

def guardErrors (id : InterfaceId) (state index : Nat) : List Diagnostic :=
  (contractFindings model).filter fun finding =>
    finding.node = .transition id state index ∧ finding.feature = .guard

theorem TransitionSite.feature_argumentFindings (site : TransitionSite) (expr : Expr)
    (feature : Feature) (index : Option Nat) (finding : Diagnostic)
    (made : finding ∈ site.argumentFindings model expr feature index) :
    finding.feature = feature := by
  obtain ⟨element, _, here⟩ := List.mem_flatMap.mp made
  cases element with
  | argument argument =>
      by_cases provided : provides site.event argument
      · simp [provided] at here
      · simp only [provided, Bool.false_eq_true, if_false, List.mem_singleton] at here
        rw [here]
        rfl
  | _ => exact absurd here List.not_mem_nil

theorem TransitionSite.feature_guardFindings (site : TransitionSite) (finding : Diagnostic)
    (made : finding ∈ site.guardFindings model) : finding.feature = .guard := by
  unfold TransitionSite.guardFindings at made
  split at made
  · exact absurd made List.not_mem_nil
  · rcases List.mem_append.mp made with ofArgument | ofCondition
    · exact site.feature_argumentFindings model _ _ _ finding ofArgument
    · obtain ⟨message, _, rfl⟩ := List.mem_map.mp ofCondition
      rfl

section Transition

variable (id : InterfaceId) (state index : Nat) (transition : Transition)
variable (found : model.transition? id state index = some transition)

include found

theorem mem_contractFindings_of_guard (finding : Diagnostic)
    (made : finding ∈ TransitionSite.guardFindings model
      ⟨id, .transition id state index, transition⟩) : finding ∈ contractFindings model := by
  obtain ⟨contract, agreed, declared, located, listed⟩ :=
    (model.transition?_eq_some id state index transition).mp found
  refine (mem_contractFindings model finding).mpr ⟨id, contract, agreed, ?_⟩
  rw [contractFindingsOf_eq, List.mem_append, Model.mem_placed]
  refine Or.inr ⟨state, declared, located, ?_⟩
  rw [Model.mem_placed]
  refine ⟨index, transition, listed, ?_⟩
  rw [TransitionSite.findings, List.mem_append, List.mem_append]
  exact Or.inl (Or.inr made)

theorem soundGuard_of_guardErrors (clean : guardErrors model id state index = []) (guard : Guard)
    (guarded : transition.guard = some guard) :
    model.SoundGuard transition.trigger.event guard.condition := by
  let site : TransitionSite := ⟨id, .transition id state index, transition⟩
  have none : site.guardFindings model = [] := by
    refine List.eq_nil_iff_forall_not_mem.mpr fun finding made => ?_
    have reported := mem_contractFindings_of_guard model id state index transition found finding made
    have here := (TransitionSite.errorsAt_guardFindings model site finding made).2
    have about := TransitionSite.feature_guardFindings model site finding made
    refine List.filter_eq_nil_iff.mp clean finding reported ?_
    simp [here, about, site]
  exact (TransitionSite.guardFindings_eq_nil model site).mp none guard guarded

/-- In a guard without errors the operands of logic are Boolean and those of an ordering are numbers,
at any depth, exactly where no operand is untyped. -/
theorem guard_operands (linked : model.Linked)
    (acyclic : ∀ id, ¬ Relation.TransGen model.DependsOn id id)
    (clean : guardErrors model id state index = []) (guard : Guard)
    (guarded : transition.guard = some guard) (path : List Expr.Step) (part : Expr)
    (inside : guard.condition.At path part) (test : part.IsTest) :
    model.OperandsTyped part ↔ ¬ part.HasUntypedOperand := by
  refine ⟨not_hasUntypedOperand model part test, fun typeable => ?_⟩
  have sound :=
    soundGuard_of_guardErrors model id state index transition found clean guard guarded
  have stands : model.exprAt? (.guard id state index) = some ⟨.transition id state index, .guard,
      none, .interface id, .guard, guard.condition, none⟩ := by
    simp [Model.exprAt?, found, guarded]
  have known := model.knowsAll_of_stored linked _ _ stands
  apply (operandsTyped_of_clean model linked acyclic part ?_ ?_).resolve_right typeable
  · exact model.knowsAll_part _ part path inside known
  · exact problems_part model _ part path inside sound.problems

end Transition

/-- A door, how far it is open, and a state that is left under the condition. -/
def door (condition : Expr) : Model where
  name := "door"
  collections := [⟨"Angles", .unknown, [], [⟨0⟩], []⟩]
  interfaces :=
    [⟨"Door", .unknown, [], none,
      [⟨"hinge", .unknown, [], ⟨.derived ⟨0⟩, false⟩, false, false⟩],
      [⟨"push", .unknown, [], none, false,
        [⟨"gently", .unknown, [], ⟨.primitive .boolean, false⟩⟩], [], none⟩], [], [], [],
      some ⟨.unknown, [], [⟨"ajar", .unknown,
        [⟨.unknown, ⟨.unknown, ⟨.call, ⟨⟨0⟩, 0⟩⟩⟩, some ⟨.unknown, condition⟩, [], 0⟩]⟩]⟩⟩]
  types := [bareType "Hinge" (.struct none false
    [⟨"angle", .unknown, [], ⟨.interval (some 0) (some 90), false⟩⟩])]
  constants := []

def narrow : Expr :=
  .binary .lt (.member (.ref (.attribute ⟨0⟩ 0)) ⟨0⟩ 0) (.literal (.integer 30))

def passable : Expr :=
  .binary .or (.unary .not narrow) (.ref (.argument ⟨⟨0⟩, .method 0, .input, 0⟩))

theorem narrow_numbers :
    (door passable).Linked ∧ guardErrors (door passable) ⟨0⟩ 0 0 = [] ∧
      ∃ type, infer (door passable) (.member (.ref (.attribute ⟨0⟩ 0)) ⟨0⟩ 0) = some type ∧
        Number type := by
  have linked : (door passable).Linked := rfl
  have clean : guardErrors (door passable) ⟨0⟩ 0 0 = [] := rfl
  have acyclic := (typeOrder_exists (door passable)).mp ⟨[⟨0⟩], rfl⟩
  have inside : passable.At [.left, .operand] narrow :=
    .inside _ _ _ _ _ List.mem_cons_self (.inside _ _ _ _ _ List.mem_cons_self (.here _))
  have typeable : ¬ narrow.HasUntypedOperand := by
    rintro ⟨step, operand, down, untyped⟩
    have none := infer_untyped (door passable) operand untyped
    rcases List.mem_pair.mp down with same | same
    · cases same
      exact Option.some_ne_none ValueType.integer none
    · cases same
      exact Option.some_ne_none ValueType.integer none
  have typed := (guard_operands (door passable) ⟨0⟩ 0 0 _ rfl linked acyclic clean _ rfl _ _ inside
    (Or.inr (by decide))).mpr typeable
  exact ⟨linked, clean, (typed.2 (by decide)).1⟩

def untypedAnd : Expr := .binary .and (.bracket []) (.literal (.integer 5))

/-- An operand without a type hides the one beside it, and both stand where Booleans should. -/
theorem untypedAnd_accepted :
    (door untypedAnd).Linked ∧ (∀ id, ¬ Relation.TransGen (door untypedAnd).DependsOn id id) ∧
      hasErrors (checkModel (door untypedAnd)) = false ∧
      guardErrors (door untypedAnd) ⟨0⟩ 0 0 = [] ∧
      ¬ ∀ path part, untypedAnd.At path part → part.IsTest →
        (door untypedAnd).OperandsTyped part := by
  have acyclic := (typeOrder_exists (door untypedAnd)).mp ⟨[⟨0⟩], rfl⟩
  refine ⟨rfl, acyclic, rfl, rfl, fun allTyped => ?_⟩
  have typed := allTyped [] untypedAnd (.here _) (Or.inl (by decide))
  have boolean := (typed.1 (by decide)).2
  exact absurd boolean (by decide)

end Check

end FrancaAudit
