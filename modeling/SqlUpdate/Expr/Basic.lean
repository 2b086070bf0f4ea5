import SqlUpdate.Schema.Table
/-!
# Expressions

* `Expr` — columns, arguments, raw fragments and the operators on them.
* `Expr.arguments`, `Expr.argumentCount` — the arguments of an expression from left to right, and
  how many there are.
* `Column.compare` and its companions — the expressions that start with a column; their arguments
  have the type of the column.
-/

namespace SqlUpdate

/-- An operator between two expressions. -/
inductive BinaryOp where
  | eq
  | ne
  | lt
  | le
  | gt
  | ge
  | like
  | notLike
  | and
  | or
  | add
  | sub
  | mul
  | div
  deriving DecidableEq, Repr, Inhabited

namespace BinaryOp

/-- The operator in SQL. -/
def sql : BinaryOp → String
  | eq => "="
  | ne => "!="
  | lt => "<"
  | le => "<="
  | gt => ">"
  | ge => ">="
  | like => "LIKE"
  | notLike => "NOT LIKE"
  | and => "AND"
  | or => "OR"
  | add => "+"
  | sub => "-"
  | mul => "*"
  | div => "/"

/-- Whether the operator combines truth values. -/
def isLogical : BinaryOp → Bool
  | and | or => true
  | _ => false

/-- Whether the operator computes with numbers. -/
def isArithmetic : BinaryOp → Bool
  | add | sub | mul | div => true
  | _ => false

end BinaryOp

/-- An expression. -/
inductive Expr where
  /-- A column. -/
  | column (c : Column)
  /-- A value that is bound. -/
  | argument (a : Argument)
  /-- A fragment of SQL, written as it is. -/
  | raw (sql : String)
  /-- Two operands and the operator between them. -/
  | binary (op : BinaryOp) (left right : Expr)
  /-- A negation. -/
  | not (e : Expr)
  /-- Whether a value is absent, or whether it is not. -/
  | isNull (negated : Bool) (e : Expr)
  /-- Whether a value is in a list, or whether it is not. -/
  | inList (negated : Bool) (e : Expr) (items : List Expr)
  /-- Whether a value lies between two others, or whether it does not. -/
  | between (negated : Bool) (e low high : Expr)
  /-- An expression between parentheses. -/
  | paren (e : Expr)
  deriving Inhabited

namespace Expr

/-- A value that belongs to no column. -/
def ofValue (v : Value) : Expr := .argument (Argument.inferred v)

/-- Whether this is two operands and an operator. -/
def isBinary : Expr → Bool
  | .binary .. => true
  | _ => false

/-- Whether this is a disjunction. -/
def isDisjunction : Expr → Bool
  | .binary .or _ _ => true
  | _ => false

/-- Both this and another. -/
def and (e f : Expr) : Expr := .binary .and e f

/-- This or another. -/
def or (e f : Expr) : Expr := .binary .or e f

/-- An operator between this and a value that belongs to no column. -/
def compare (e : Expr) (op : BinaryOp) (v : Value) : Expr := .binary op e (ofValue v)

mutual
/-- The arguments from left to right: an operand before the items of a list, the lower bound before
the upper one. -/
def arguments : Expr → List Argument
  | .column _ | .raw _ => []
  | .argument a => [a]
  | .binary _ e f => e.arguments ++ f.arguments
  | .not e | .isNull _ e | .paren e => e.arguments
  | .inList _ e items => e.arguments ++ argumentsOfItems items
  | .between _ e low high => e.arguments ++ low.arguments ++ high.arguments

/-- The arguments of the items of a list. -/
def argumentsOfItems : List Expr → List Argument
  | [] => []
  | e :: es => e.arguments ++ argumentsOfItems es
end

mutual
/-- How many arguments there are. -/
def argumentCount : Expr → Nat
  | .column _ | .raw _ => 0
  | .argument _ => 1
  | .binary _ e f => e.argumentCount + f.argumentCount
  | .not e | .isNull _ e | .paren e => e.argumentCount
  | .inList _ e items => e.argumentCount + argumentCountOfItems items
  | .between _ e low high => e.argumentCount + low.argumentCount + high.argumentCount

/-- How many arguments the items of a list have. -/
def argumentCountOfItems : List Expr → Nat
  | [] => 0
  | e :: es => e.argumentCount + argumentCountOfItems es
end

mutual
/-- The arguments are as many as are counted. -/
theorem length_arguments : (e : Expr) → e.arguments.length = e.argumentCount
  | .column _ | .argument _ | .raw _ => rfl
  | .binary _ e f => by
    simp [arguments, argumentCount, length_arguments e, length_arguments f]
  | .not e | .isNull _ e | .paren e => by simp [arguments, argumentCount, length_arguments e]
  | .inList _ e items => by
    simp [arguments, argumentCount, length_arguments e, length_argumentsOfItems items]
  | .between _ e low high => by
    simp [arguments, argumentCount, length_arguments e, length_arguments low,
      length_arguments high, Nat.add_assoc]

/-- The arguments of the items of a list are as many as are counted. -/
theorem length_argumentsOfItems :
    (es : List Expr) → (argumentsOfItems es).length = argumentCountOfItems es
  | [] => rfl
  | e :: es => by
    simp [argumentsOfItems, argumentCountOfItems, length_arguments e, length_argumentsOfItems es]
end

end Expr

/-! ### Expressions that start with a column -/

namespace Column

/-- A value bound with the type of the column. -/
def bind (c : Column) (v : Value) : Expr := .argument ⟨c.type, v⟩

/-- An operator between the column and a value. -/
def compare (c : Column) (op : BinaryOp) (v : Value) : Expr := .binary op (.column c) (c.bind v)

/-- Whether two columns are equal. -/
def equals (c d : Column) : Expr := .binary .eq (.column c) (.column d)

/-- Whether the column has no value. -/
def isNull (c : Column) : Expr := .isNull false (.column c)

/-- Whether the column has a value. -/
def isNotNull (c : Column) : Expr := .isNull true (.column c)

/-- Whether the column is in a list of values. -/
def inList (c : Column) (vs : List Value) : Expr := .inList false (.column c) (vs.map c.bind)

/-- Whether the column is not in a list of values. -/
def notInList (c : Column) (vs : List Value) : Expr := .inList true (.column c) (vs.map c.bind)

/-- Whether the column lies between two values. -/
def between (c : Column) (low high : Value) : Expr :=
  .between false (.column c) (c.bind low) (c.bind high)

/-- Whether the column does not lie between two values. -/
def notBetween (c : Column) (low high : Value) : Expr :=
  .between true (.column c) (c.bind low) (c.bind high)

end Column

end SqlUpdate
