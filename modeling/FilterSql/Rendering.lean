import FilterSql.Filter.Basic
import FilterSql.Parameter
import FilterSql.Predicate
import FilterSql.Resolver

/-!
Rendering filters as predicates. Literals reach a predicate only through the bindings, one value for
each, in the order in which the filter has them.
-/

namespace FilterSql

/-- The comparison that an operator becomes, when it compares with a value at all. -/
def Operator.comparison? : Operator → Option Comparison
  | present => none
  | equal => some .equal
  | notEqual => some .notEqual
  | greater => some .greater
  | greaterOrEqual => some .greaterOrEqual
  | less => some .less
  | lessOrEqual => some .lessOrEqual
  | contains | startsWith | endsWith => some .like

/-- A text with the wildcards that its operator calls for. -/
def Operator.likePattern (op : Operator) (s : String) : String :=
  match op with
  | contains => "%" ++ s ++ "%"
  | startsWith => s ++ "%"
  | endsWith => "%" ++ s
  | _ => s

/-- A test on one column, before its value is bound. -/
inductive Condition
  | notNull (column : String)
  | compare (column : String) (comparison : Comparison) (value : Parameter) (folded : Bool)
  deriving DecidableEq, Repr

structure Renderer where
  resolver : Resolver
  /-- Whether the database itself ignores case, so that nothing has to be folded. -/
  caseInsensitive : Bool

namespace Renderer

/-- The value that a column of the given kind is compared with, if the literal fits the kind. -/
def fit? (kind : ColumnKind) (op : Operator) (value : Literal) : Option Parameter :=
  match kind, value with
  | .integer, .number n => some (.number n)
  | .integer, _ => none
  | .timestamp, .timestamp _ instant => some (.timestamp instant)
  | .timestamp, _ => none
  | .text, .text s => some (.text (op.likePattern s))
  | .text, .timestamp raw _ => some (.text (op.likePattern raw))
  | .text, .number n => some (.number n)
  | .text, .boolean b => some (.boolean b)

/-- Text columns ignore case when they are compared with text. -/
def folds (r : Renderer) (column : Column) (value : Literal) : Bool :=
  !r.caseInsensitive && !column.kind.isTyped && value.isTextual

def compare (r : Renderer) (column : Column) (op : Operator) (value : Literal) :
    Except FilterError Condition :=
  match op.comparison? with
  | none => .ok (.notNull column.name)
  | some comparison =>
    if op.matchesPart && (column.kind.isTyped || !value.isTextual) then
      .error (.unsupported op column)
    else match fit? column.kind op value with
      | some parameter => .ok (.compare column.name comparison parameter (r.folds column value))
      | none => .error (.mismatch column value)

def present (r : Renderer) (path : String) : Except FilterError Condition :=
  (r.resolver.resolve path).map fun column => .notNull column.name

def comparison (r : Renderer) (path : String) (op : Operator) (value : Literal) :
    Except FilterError Condition :=
  (r.resolver.resolve path).bind fun column => r.compare column op value

/-- Binds the value of a condition, and compares with the name it is bound to. -/
def place (b : Bindings) : Condition → Predicate × Bindings
  | .notNull column => (.notNull column, b)
  | .compare column comparison value folded =>
    let (placeholder, b) := b.bind value
    (.compare column comparison placeholder folded, b)

def renderCondition (condition : Except FilterError Condition) (b : Bindings) :
    Except FilterError Predicate × Bindings :=
  match condition with
  | .error e => (.error e, b)
  | .ok condition =>
    let (predicate, b) := place b condition
    (.ok predicate, b)

/-- Renders a filter on top of what is bound already. The values bound before an error stay bound. -/
def render (r : Renderer) : Filter → Bindings → Except FilterError Predicate × Bindings
  | .present path, b => renderCondition (r.present path) b
  | .compare path op value, b => renderCondition (r.comparison path op value) b
  | .join c left right, b =>
    match r.render left b with
    | (.error e, b) => (.error e, b)
    | (.ok leftPredicate, b) =>
      match r.render right b with
      | (.error e, b) => (.error e, b)
      | (.ok rightPredicate, b) => (.ok (.join c leftPredicate rightPredicate), b)

end Renderer

end FilterSql
