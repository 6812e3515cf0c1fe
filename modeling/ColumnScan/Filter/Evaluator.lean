import ColumnScan.Filter.Failure
import ColumnScan.Predicate.Truth
import ColumnScan.Row

/-!
# Evaluators

An evaluator is a leaf bound to a column: its literals are brought into the stored form of the
column once, and rows are judged by what is stored in them. Integers lose the bits that the column
has no room for, floating-point numbers are rounded, text is cut to the column's bound, and a decimal
is taken as it is written. A comparison with null is unknown; whether a cell is null never is.
Main statement: `evaluate_null`.
-/

namespace ColumnScan

/-- A comparison with literals in stored form. -/
inductive Comparison where
  | equals (literal : Stored)
  | below (literal : Stored) (inclusive : Bool)
  | oneOf (literals : List Stored)
  | between (lower upper : Stored)
  | isNull

namespace Comparison

/-- Whether a value is less than a literal, given how the literal compares with it. -/
def isBelow (inclusive : Bool) : Ordering → Bool
  | .gt => true
  | .eq => inclusive
  | .lt => false

/-- The verdict on a value that is not null. -/
def judge (value : Stored) : Comparison → Truth
  | equals literal =>
    match literal.compare? value with
    | some o => .ofBool o.isEq
    | none => .unknown
  | below literal inclusive =>
    match literal.compare? value with
    | some o => .ofBool (isBelow inclusive o)
    | none => .unknown
  | oneOf literals =>
    if literals.any fun l => l.compare? value == some .eq then .yes
    else if literals.any fun l => l.compare? value == none then .unknown
    else .no
  | between lower upper =>
    match lower.compare? value, value.compare? upper with
    | some low, some high => .ofBool (low.isLE && high.isLE)
    | _, _ => .unknown
  | isNull => .no

/-- The verdict on a null, or on a cell that is not there. -/
def judgeNull : Comparison → Truth
  | isNull => .yes
  | _ => .unknown

/-- The verdict on a cell. -/
def evaluate (c : Comparison) (cell : Option Stored) : Truth :=
  match cell with
  | none | some .null => c.judgeNull
  | some value => c.judge value

/-- A null and a cell that is not there are the same to every comparison. -/
theorem evaluate_null (c : Comparison) : c.evaluate (some .null) = c.evaluate none := rfl

end Comparison

/-- The stored form of a literal in a column of some kind. -/
def Literal.coerce? : Kind → Literal → Option Stored
  | .byte, .long n => some (.scalar (.byte n.toInt8))
  | .short, .long n => some (.scalar (.short n.toInt16))
  | .int, .long n => some (.scalar (.int n.toInt32))
  | .long, .long n => some (.scalar (.long n))
  | .float, .float x => some (.scalar (.float x.toSingle))
  | .double, .float x => some (.scalar (.double x))
  | .string, .string s => some (.scalar (.string s))
  | .char limit, .string s => some (.char (.cut s limit))
  | .varchar limit, .string s => some (.varchar (.cut s limit))
  | .decimal .., .decimal s => (Decimal.read s).toOption.map fun d => .scalar (.decimal d)
  | .timestamp, .timestamp nanos => some (.timestamp nanos)
  | .date, .date days => some (.date days)
  | .boolean, .boolean b => some (.scalar (.boolean b))
  | _, _ => none

/-- The number of literals that an operator takes. -/
def Operator.arity : Operator → Arity
  | .equals | .nullSafeEquals | .lessThan | .lessThanEquals => .exactly 1
  | .inList => .atLeast 1
  | .between => .exactly 2
  | .isNull => .atLeast 0

/-- The comparison that an operator makes with literals in stored form, if there are as many as it
takes. -/
def Operator.compare? : Operator → List Stored → Option Comparison
  | .equals, [literal] | .nullSafeEquals, [literal] => some (.equals literal)
  | .lessThan, [literal] => some (.below literal false)
  | .lessThanEquals, [literal] => some (.below literal true)
  | .inList, literal :: rest => some (.oneOf (literal :: rest))
  | .between, [lower, upper] => some (.between lower upper)
  | .isNull, _ => some .isNull
  | _, _ => none

/-- A leaf bound to a column. -/
structure Evaluator where
  /-- The declared name of the column. -/
  column : String
  comparison : Comparison

namespace Evaluator

/-- The kind of a column that can be compared. -/
def comparable? : DataType → Option Kind
  | .primitive .binary => none
  | .primitive kind => some kind
  | _ => none

/-- The stored forms of literals, up to the first that has none. -/
def coerceAll (field : Field) (kind : Kind) : List Literal → Except EvaluatorError (List Stored)
  | [] => .ok []
  | literal :: rest =>
    match literal.coerce? kind with
    | none => .error (.invalidLiteral field.name field.type literal)
    | some value => (coerceAll field kind rest).map (value :: ·)

/-- The literals that an operator looks at. -/
def used : Operator → List Literal → List Literal
  | .isNull, _ => []
  | _, literals => literals

/-- Binds a leaf to its column; the number of literals is looked at before the literals are. -/
def bindField (leaf : Leaf) (field : Field) (kind : Kind) : Except EvaluatorError Evaluator := do
  let wrongArity :=
    EvaluatorError.arity leaf.operator field.name leaf.operator.arity leaf.literals.length
  if !leaf.operator.arity.admits leaf.literals.length then .error wrongArity
  let literals ← coerceAll field kind (used leaf.operator leaf.literals)
  match leaf.operator.compare? literals with
  | some comparison => return ⟨field.name, comparison⟩
  | none => .error wrongArity

/-- Binds a leaf to its column in a schema. -/
def make (schema : StructType) (leaf : Leaf) : Except EvaluatorError Evaluator :=
  match schema.lookup? leaf.column with
  | none => .error (.unknownColumn leaf.column)
  | some (_, field) =>
    match comparable? field.type with
    | none => .error (.unsupportedType field.name field.type)
    | some kind => do
      kind.validate.mapError .schema
      bindField leaf field kind

/-- Binds leaves one after the other. -/
def makeAll (schema : StructType) : List Leaf → Except EvaluatorError (List Evaluator)
  | [] => .ok []
  | leaf :: rest => do
    let first ← make schema leaf
    let rest ← makeAll schema rest
    return first :: rest

/-- The verdict on a cell. -/
def evaluate (e : Evaluator) (cell : Option Stored) : Truth := e.comparison.evaluate cell

/-- The verdict on the column of a row. -/
def evaluateRow (e : Evaluator) (r : Row) : Except Error Truth × Row :=
  match r.stored? e.column with
  | (.ok cell, r) => (.ok (e.evaluate cell), r)
  | (.error failure, r) => (.error failure, r)

/-- The verdicts of evaluators on a row, up to the first failure. -/
def evaluateRowAll (r : Row) : List Evaluator → Except Error (List Truth) × Row
  | [] => (.ok [], r)
  | e :: rest =>
    match e.evaluateRow r with
    | (.error failure, r) => (.error failure, r)
    | (.ok verdict, r) =>
      match evaluateRowAll r rest with
      | (.error failure, r) => (.error failure, r)
      | (.ok verdicts, r) => (.ok (verdict :: verdicts), r)

end Evaluator

end ColumnScan
