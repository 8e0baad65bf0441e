import FrancaAudit.Check.ValueType
import FrancaAudit.Model.Node

/-!
The types of expressions, and operators whose operands have the wrong type.
-/

namespace FrancaAudit.Check

variable (model : Model)

def literalType : Literal → ValueType
  | .bool _ => .boolean
  | .integer _ => .integer
  | .float _ => .float
  | .string _ => .string

/-- The type of a value that is referred to by name. An enumerator has the type that lists it. -/
def elementType? (element : ElementRef) : Option ValueType :=
  match model.element? element with
  | none => none
  | some found =>
      match element with
      | .enumerator owner _ => some (.named owner)
      | _ => found.type.bind model.valueType

def fieldType? (owner : TypeId) (index : Nat) : Option ValueType :=
  (model.field? owner index).bind fun field => model.valueType field.type

inductive OperatorClass
  | logical
  | equality
  | ordering
  | arithmetic
deriving DecidableEq

def operatorClass : BinaryOp → OperatorClass
  | .and | .or => .logical
  | .eq | .ne => .equality
  | .lt | .le | .gt | .ge => .ordering
  | .add | .sub | .mul | .div => .arithmetic

def unaryType? : UnaryOp → ValueType → Option ValueType
  | .not, operand => if operand = .boolean then some .boolean else none
  | .neg, operand => if operand.isNumeric then some operand else none

/-- Two integers give an integer, other numbers a float. -/
def arithmeticType? (left right : ValueType) : Option ValueType :=
  if left = .integer ∧ right = .integer then some .integer
  else if left.isNumeric && right.isNumeric then some .float
  else none

/-- The type of an expression as far as it has one by itself. Logic and comparisons are Boolean
whatever their operands; initializers get their type from where they stand. -/
def infer : Expr → Option ValueType
  | .literal value => some (literalType value)
  | .ref element => elementType? model element
  | .member _ owner index => fieldType? model owner index
  | .unary op operand => (infer operand).bind (unaryType? op)
  | .binary op left right =>
      match operatorClass op with
      | .arithmetic =>
          match infer left, infer right with
          | some left, some right => arithmeticType? left right
          | _, _ => none
      | _ => some .boolean
  | .compound _ | .bracket _ => none

inductive Side
  | left
  | right
deriving DecidableEq

def Side.label : Side → String
  | .left => "left"
  | .right => "right"

inductive Problem
  | notAnElement (owner : TypeId) (index : Nat) (of : TypeId)
  | notBoolean (found : ValueType)
  | notNumeric (found : ValueType)
  | logicalOperand (op : BinaryOp) (side : Side) (found : ValueType)
  | incomparable (op : BinaryOp) (left right : ValueType)
  | numericOperands (op : BinaryOp) (left right : ValueType)
deriving DecidableEq

def Problem.message : Problem → String
  | .notAnElement owner index type =>
      "'" ++ Model.nameOr ((model.field? owner index).map (·.name)) ++ "' is not an element of " ++
        model.typeName type
  | .notBoolean found =>
      "operator \x60!\x60 requires a Boolean operand, found " ++ found.label model
  | .notNumeric found =>
      "operator \x60-\x60 requires a numeric operand, found " ++ found.label model
  | .logicalOperand op side found =>
      "logical \x60" ++ op.symbol ++ "\x60 requires Boolean operands, " ++ side.label ++
        " side is " ++ found.label model
  | .incomparable op left right =>
      "cannot compare " ++ left.label model ++ " with " ++ right.label model ++ " using \x60" ++
        op.symbol ++ "\x60"
  | .numericOperands op left right =>
      "operator \x60" ++ op.symbol ++ "\x60 requires numeric operands, found " ++
        left.label model ++ " and " ++ right.label model

def memberProblems (base : Option ValueType) (owner : TypeId) (index : Nat) : List Problem :=
  match base with
  | some (.named type) =>
      if owner = type ∨ owner ∈ model.baseTypes type then []
      else [.notAnElement owner index type]
  | _ => []

def unaryProblems (op : UnaryOp) (operand : Option ValueType) : List Problem :=
  match op, operand with
  | _, none => []
  | .not, some found => if found = .boolean then [] else [.notBoolean found]
  | .neg, some found => if found.isNumeric then [] else [.notNumeric found]

/-- Operands are held against each other only if the types of both are known. -/
def binaryProblems (op : BinaryOp) (left right : Option ValueType) : List Problem :=
  match left, right with
  | some left, some right =>
      match operatorClass op with
      | .logical =>
          (if left = .boolean then [] else [.logicalOperand op .left left]) ++
          (if right = .boolean then [] else [.logicalOperand op .right right])
      | .equality =>
          if model.compatible left right || model.compatible right left then []
          else [.incomparable op left right]
      | .ordering | .arithmetic =>
          if left.isNumeric && right.isNumeric then [] else [.numericOperands op left right]
  | _, _ => []

def problems : Expr → List Problem
  | .literal _ | .ref _ => []
  | .member base owner index =>
      problems base ++ memberProblems model (infer model base) owner index
  | .unary op operand => problems operand ++ unaryProblems op (infer model operand)
  | .binary op left right =>
      problems left ++ problems right ++
        binaryProblems model op (infer model left) (infer model right)
  | .compound inits => initProblems inits
  | .bracket items => itemProblems items
where
  initProblems : List FieldInit → List Problem
    | [] => []
    | ⟨_, _, value⟩ :: rest => problems value ++ initProblems rest
  itemProblems : List BracketItem → List Problem
    | [] => []
    | .item value :: rest => problems value ++ itemProblems rest
    | .entry key value :: rest => problems key ++ problems value ++ itemProblems rest

end FrancaAudit.Check
