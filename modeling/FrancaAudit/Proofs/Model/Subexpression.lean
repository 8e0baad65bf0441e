import FrancaAudit.Proofs.Model.Survey

/-!
The expressions inside an expression, each at a path of its own, and the elements they refer to.

Paths tell apart what looks alike: in `x + x` the same element is referred to at two paths. The list
of element references surveys them all.
-/

namespace FrancaAudit.Expr

/-- The way to an expression that stands directly inside another. -/
inductive Step
  | base
  | operand
  | left
  | right
  | init (index : Nat)
  | item (index : Nat)
  | key (index : Nat)
  | value (index : Nat)

def Step.position? : Step → Option Nat
  | .init index | .item index | .key index | .value index => some index
  | .base | .operand | .left | .right => none

def heldChildren (index : Nat) : BracketItem → List (Step × Expr)
  | .item value => [(.item index, value)]
  | .entry key value => [(.key index, key), (.value index, value)]

/-- The expressions that stand directly inside, from left to right, each with the way to it. -/
def children : Expr → List (Step × Expr)
  | .literal _ | .ref _ => []
  | .member base _ _ => [(.base, base)]
  | .unary _ operand => [(.operand, operand)]
  | .binary _ left right => [(.left, left), (.right, right)]
  | .compound inits => Model.placed inits fun index init => [(.init index, init.value)]
  | .bracket items => Model.placed items heldChildren

/-- The path leads from the expression to a part of it, at any depth. -/
inductive At : Expr → List Step → Expr → Prop
  | here (expr : Expr) : At expr [] expr
  | inside (expr : Expr) (step : Step) (child : Expr) (path : List Step) (part : Expr)
      (down : (step, child) ∈ expr.children) (rest : At child path part) :
      At expr (step :: path) part

def referred? : Expr → Option ElementRef
  | .ref element => some element
  | .member _ owner index => some (.field owner index)
  | _ => none

def RefersAt (expr : Expr) (path : List Step) (element : ElementRef) : Prop :=
  ∃ part, At expr path part ∧ part.referred? = some element

theorem mem_children_compound (inits : List FieldInit) (step : Step) (child : Expr) :
    (step, child) ∈ (compound inits).children ↔
      ∃ index init, inits[index]? = some init ∧ step = .init index ∧ child = init.value := by
  simp only [children, Model.mem_placed, List.mem_singleton, Prod.mk.injEq]

theorem mem_children_bracket (items : List BracketItem) (step : Step) (child : Expr) :
    (step, child) ∈ (bracket items).children ↔
      ∃ index item, items[index]? = some item ∧ (step, child) ∈ heldChildren index item := by
  simp only [children, Model.mem_placed]

theorem sizeOf_heldChildren (index : Nat) (item : BracketItem) (step : Step) (child : Expr)
    (down : (step, child) ∈ heldChildren index item) : sizeOf child < sizeOf item := by
  cases item with
  | item value =>
      cases List.mem_singleton.mp down
      simp
  | entry key value =>
      rcases List.mem_pair.mp down with same | same
      · cases same
        simp only [BracketItem.entry.sizeOf_spec]
        omega
      · cases same
        simp only [BracketItem.entry.sizeOf_spec]
        omega

theorem sizeOf_children (expr : Expr) (step : Step) (child : Expr)
    (down : (step, child) ∈ expr.children) : sizeOf child < sizeOf expr := by
  cases expr with
  | literal value => exact absurd down List.not_mem_nil
  | ref element => exact absurd down List.not_mem_nil
  | member base owner index =>
      cases List.mem_singleton.mp down
      simp only [member.sizeOf_spec]
      omega
  | unary op operand =>
      cases List.mem_singleton.mp down
      simp only [unary.sizeOf_spec]
      omega
  | binary op left right =>
      rcases List.mem_pair.mp down with same | same
      · cases same
        simp only [binary.sizeOf_spec]
        omega
      · cases same
        simp only [binary.sizeOf_spec]
        omega
  | compound inits =>
      -- the value is part of an initializer, which is part of the list
      obtain ⟨index, init, located, rfl, rfl⟩ := (mem_children_compound ..).mp down
      have inner := List.sizeOf_lt_of_mem (List.mem_of_getElem? located)
      have value : sizeOf init.value < sizeOf init := by
        cases init
        simp only [FieldInit.mk.sizeOf_spec]
        omega
      simp only [compound.sizeOf_spec]
      omega
  | bracket items =>
      obtain ⟨index, item, located, member⟩ := (mem_children_bracket ..).mp down
      have inner := List.sizeOf_lt_of_mem (List.mem_of_getElem? located)
      have held := sizeOf_heldChildren index item step child member
      simp only [bracket.sizeOf_spec]
      omega

/-- What holds of an expression whenever it holds of all that stands directly inside. -/
@[elab_as_elim]
theorem inductionOn {motive : Expr → Prop}
    (inner : ∀ expr, (∀ step child, (step, child) ∈ expr.children → motive child) → motive expr)
    (expr : Expr) : motive expr :=
  -- by size, since parts also stand in the lists of initializers and items
  inner expr fun step child down =>
    have : sizeOf child < sizeOf expr := sizeOf_children expr step child down
    inductionOn inner child
termination_by sizeOf expr

theorem at_append (expr middle part : Expr) (path rest : List Step) (outer : At expr path middle)
    (inner : At middle rest part) : At expr (path ++ rest) part := by
  induction outer with
  | here expr => exact inner
  | inside expr step child path middle down _ ih =>
      exact .inside expr step child (path ++ rest) part down (ih inner)

theorem refersAt_nil (expr : Expr) (element : ElementRef) :
    RefersAt expr [] element ↔ expr.referred? = some element := by
  constructor
  · rintro ⟨part, reached, refers⟩
    cases reached
    exact refers
  · exact fun refers => ⟨expr, .here expr, refers⟩

theorem refersAt_cons (expr : Expr) (step : Step) (path : List Step) (element : ElementRef) :
    RefersAt expr (step :: path) element ↔
      ∃ child, (step, child) ∈ expr.children ∧ RefersAt child path element := by
  constructor
  · rintro ⟨part, reached, refers⟩
    cases reached with
    | inside _ _ child _ _ down rest => exact ⟨child, down, part, rest, refers⟩
  · rintro ⟨child, down, part, rest, refers⟩
    exact ⟨part, .inside expr step child path part down rest, refers⟩

theorem heldChildren_apart (index : Nat) (item : BracketItem) :
    (heldChildren index item).Pairwise fun first second => first.1 ≠ second.1 := by
  cases item <;> simp [heldChildren]

theorem heldChildren_position (index : Nat) (item : BracketItem) (entry : Step × Expr)
    (member : entry ∈ heldChildren index item) : entry.1.position? = some index := by
  cases item with
  | item value =>
      rw [List.mem_singleton.mp member]
      rfl
  | entry key value => rcases List.mem_pair.mp member with rfl | rfl <;> rfl

theorem step_ne_of_position (first second : Nat) (less : first < second) (here there : Step)
    (atFirst : here.position? = some first) (atSecond : there.position? = some second) :
    here ≠ there := by
  rintro rfl
  exact Nat.ne_of_lt less (Option.some.inj (atFirst.symm.trans atSecond))

theorem children_apart (expr : Expr) :
    expr.children.Pairwise fun first second => first.1 ≠ second.1 := by
  cases expr with
  | literal value => exact .nil
  | ref element => exact .nil
  | member base owner index => exact List.pairwise_singleton _ _
  | unary op operand => exact List.pairwise_singleton _ _
  | binary op left right => simp [children]
  | compound inits =>
      rw [children]
      apply placed_pairwise
      · intro index init _
        exact List.pairwise_singleton _ _
      · intro first second _ _ less left here right there
        rw [List.mem_singleton.mp here, List.mem_singleton.mp there]
        exact step_ne_of_position first second less _ _ rfl rfl
  | bracket items =>
      rw [children]
      apply placed_pairwise
      · intro index item _
        exact heldChildren_apart index item
      · intro first second firstItem secondItem less left here right there
        exact step_ne_of_position first second less _ _
          (heldChildren_position first firstItem left here)
          (heldChildren_position second secondItem right there)

theorem child_unique (expr : Expr) (step : Step) (first second : Expr)
    (here : (step, first) ∈ expr.children) (there : (step, second) ∈ expr.children) :
    first = second := by
  have once : (expr.children.map Prod.fst).Nodup := List.pairwise_map.mpr (children_apart expr)
  exact congrArg Prod.snd (List.inj_on_of_nodup_map once here there rfl)

/-- Nothing but the children of a placed list counts, not the ways to them. -/
theorem flatMap_placed {α β γ : Type} (items : List α) (pieces : Nat → α → List β)
    (inner : β → List γ) (whole : α → List γ)
    (same : ∀ index item, (pieces index item).flatMap inner = whole item) :
    (Model.placed items pieces).flatMap inner = items.flatMap whole := by
  calc (Model.placed items pieces).flatMap inner
      = items.zipIdx.flatMap (fun entry => whole entry.1) := by
        simp only [Model.placed, List.flatMap_assoc, same]
    _ = (items.zipIdx.map Prod.fst).flatMap whole := by rw [List.flatMap_map]
    _ = items.flatMap whole := by rw [List.zipIdx_map_fst]

def heldRefs : BracketItem → List ElementRef
  | .item value => value.elementRefs
  | .entry key value => key.elementRefs ++ value.elementRefs

theorem elementRefs_initRefs (inits : List FieldInit) :
    elementRefs.initRefs inits = inits.flatMap fun init => init.value.elementRefs := by
  induction inits with
  | nil => rfl
  | cons init rest ih =>
      obtain ⟨owner, index, value⟩ := init
      rw [elementRefs.initRefs, ih, List.flatMap_cons]

theorem elementRefs_itemRefs (items : List BracketItem) :
    elementRefs.itemRefs items = items.flatMap heldRefs := by
  induction items with
  | nil => rfl
  | cons item rest ih => cases item <;> rw [elementRefs.itemRefs, ih, List.flatMap_cons, heldRefs]

theorem elementRefs_children (expr : Expr) :
    expr.elementRefs =
      (expr.children.flatMap fun entry => entry.2.elementRefs) ++ expr.referred?.toList := by
  cases expr with
  | literal value => rfl
  | ref element => rfl
  | member base owner index => simp [elementRefs, children, referred?]
  | unary op operand => simp [elementRefs, children, referred?]
  | binary op left right => simp [elementRefs, children, referred?]
  | compound inits =>
      have parts := flatMap_placed inits (fun index init => [(Step.init index, init.value)])
        (fun entry => entry.2.elementRefs) (fun init => init.value.elementRefs) (by simp)
      simp [elementRefs, children, referred?, parts, elementRefs_initRefs]
  | bracket items =>
      have parts := flatMap_placed items heldChildren (fun entry => entry.2.elementRefs) heldRefs
        (fun index item => by cases item <;> simp [heldChildren, heldRefs])
      simp [elementRefs, children, referred?, parts, elementRefs_itemRefs]

def Begins (step : Step) (path : List Step) : Prop := ∃ rest, path = step :: rest

theorem childRefs_survey (expr : Expr) (step : Step) (child : Expr)
    (down : (step, child) ∈ expr.children)
    (inner : SurveysAll (RefersAt child) child.elementRefs) :
    Surveys (RefersAt expr) (Begins step) child.elementRefs := by
  refine surveys_embed _ _ _ (step :: ·) List.cons_injective ?_ inner
  intro path element
  constructor
  · rintro ⟨⟨rest, rfl⟩, refers⟩
    obtain ⟨other, otherDown, below⟩ := (refersAt_cons ..).mp refers
    obtain rfl := child_unique expr step child other down otherDown
    exact ⟨rest, trivial, below, rfl⟩
  · rintro ⟨rest, _, below, rfl⟩
    exact ⟨⟨rest, rfl⟩, (refersAt_cons ..).mpr ⟨child, down, below⟩⟩

theorem ownRef_survey (expr : Expr) :
    Surveys (RefersAt expr) (fun path => path = []) expr.referred?.toList := by
  cases own : expr.referred? with
  | none =>
      refine surveys_nil _ ?_
      rintro _ element rfl refers
      simp [refersAt_nil, own] at refers
  | some element =>
      refine surveys_singleton _ [] element rfl ((refersAt_nil expr element).mpr own) ?_
      rintro _ other rfl refers
      exact ⟨rfl, by simpa [refersAt_nil, own, eq_comm] using refers⟩

theorem elementRefs_survey (expr : Expr) : SurveysAll (RefersAt expr) expr.elementRefs := by
  induction expr using inductionOn with
  | inner expr ih =>
      have parts : Surveys (RefersAt expr) (fun path => ∃ entry ∈ expr.children, Begins entry.1 path)
          (expr.children.flatMap fun entry => entry.2.elementRefs) := by
        refine surveys_flatMap _ _ (fun entry : Step × Expr => Begins entry.1) ?_ ?_
        · refine (children_apart expr).imp ?_
          rintro first second different path ⟨rest, rfl⟩ ⟨other, same⟩
          exact different (List.cons.inj same).1
        · rintro ⟨step, child⟩ down
          exact childRefs_survey expr step child down (ih step child down)
      rw [elementRefs_children]
      refine surveys_region _ _ _ ?_ (surveys_append _ _ _ _ parts (ownRef_survey expr) ?_)
      · intro path element refers
        -- a path is empty or leads into one of the children
        simp only [iff_true]
        cases path with
        | nil => exact Or.inr rfl
        | cons step rest =>
            obtain ⟨child, down, _⟩ := (refersAt_cons ..).mp refers
            exact Or.inl ⟨(step, child), down, rest, rfl⟩
      · rintro path ⟨entry, _, rest, rfl⟩
        exact List.cons_ne_nil _ _

theorem mem_elementRefs (expr : Expr) (element : ElementRef) :
    element ∈ expr.elementRefs ↔ ∃ path, RefersAt expr path element := by
  rw [mem_of_surveys _ _ (elementRefs_survey expr)]
  simp only [true_and]

end FrancaAudit.Expr
