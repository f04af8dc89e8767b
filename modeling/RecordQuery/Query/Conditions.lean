import RecordQuery.Fragment

/-!
# Conditions

Conditions of WHERE, HAVING and ON: predicates in order, each linked to the one before it by AND or OR.
A predicate may be malformed; it is then refused when it is compiled.
-/

namespace RecordQuery

/-- How a predicate is linked to the one before it. -/
inductive Link where
  | and
  | or
deriving DecidableEq, Repr

/-- The word between two predicates. -/
def Link.keyword : Link → String
  | .and => " AND "
  | .or => " OR "

/-- A left-hand side, an operator and a right-hand side, each of which may be absent. -/
structure Predicate where
  link : Link
  column? : Option Fragment
  operator? : Option String
  operand? : Option Fragment

namespace Predicate

/-- The operators that predicates may use. -/
def operators : List String :=
  ["=", "!=", "<>", "<", "<=", ">", ">=", "LIKE", "NOT LIKE", "ILIKE", "NOT ILIKE", "IN",
    "NOT IN", "IS", "IS NOT", "BETWEEN", "NOT BETWEEN", "EXISTS", "NOT EXISTS"]

/-- A predicate whose operator is trimmed and put in upper case. -/
def make (link : Link) (column? : Option Fragment) (operator? : Option String)
    (operand? : Option Fragment) : Predicate :=
  ⟨link, column?, operator?.map fun operator => Text.upperAscii (Text.trim operator), operand?⟩

/-- The operator in use; an empty one counts as absent. -/
def checkedOperator (predicate : Predicate) : Except Error (Option String) :=
  match predicate.operator? with
  | none => .ok none
  | some operator =>
    if operator.isEmpty then .ok none
    else if operators.contains operator then .ok (some operator)
    else .error (.invalidCondition ("unsupported operator '" ++ operator ++ "'"))

/-- The test for NULL that an operator without operand becomes. -/
def nullTest? : String → Option String
  | "=" | "IS" => some "IS NULL"
  | "!=" | "<>" | "IS NOT" => some "IS NOT NULL"
  | _ => none

def fragment (predicate : Predicate) : Fragment :=
  match predicate.checkedOperator with
  | .error cause => .refused cause
  | .ok operator? =>
    match predicate.column?, operator?, predicate.operand? with
    | some _, none, _ =>
      .refused (.invalidCondition "operator must be set when column is set")
    | some column, some operator, none =>
      match nullTest? operator with
      | some test => .joined "" column (.text (" " ++ test))
      | none =>
        .refused (.invalidCondition ("operator '" ++ operator ++ "' requires a value"))
    | some column, some operator, some operand =>
      .joined " " (.joined "" column (.text (" " ++ operator))) operand
    | none, some operator, some operand => .joined " " (.text operator) operand
    | none, none, some operand => operand
    | none, _, none => .refused (.invalidCondition "predicate has no value")

/-! ## Kinds of predicates -/

/-- What a comparison compares with: NULL is no operand but a test. -/
def comparand? (value : Value) : Option Fragment :=
  if value.isNull then none else some (.bound value)

/-- `column operator value`. -/
def compare (link : Link) (column operator : String) (value : Value) : Predicate :=
  make link (some (.name column)) (some operator) (comparand? value)

/-- `column BETWEEN low AND high`. -/
def between (column : String) (low high : Value) : Predicate :=
  make .and (some (.name column)) (some "BETWEEN") (some (.joined " AND " (.bound low) (.bound high)))

/-- `column operator other`, names on both sides. -/
def columns (link : Link) (column operator other : String) : Predicate :=
  make link (some (.name column)) (some operator) (some (.name other))

/-- Membership in a list of values. The empty list holds nothing. -/
def inList (link : Link) (negated : Bool) (column : String) (values : List Value) : Predicate :=
  if values.isEmpty then
    make link none none (some (.text (if negated then "1 = 1" else "1 = 0")))
  else
    make link (some (.name column)) (some (if negated then "NOT IN" else "IN"))
      (some (.group (.join ", " (values.map .bound))))

/-- Membership in the result of a sub-query. -/
def inQuery (negated : Bool) (column : String) (query : Fragment) : Predicate :=
  make .and (some (.name column)) (some (if negated then "NOT IN" else "IN")) (some (.group query))

/-- Whether a sub-query has a row. -/
def existence (link : Link) (negated : Bool) (query : Fragment) : Predicate :=
  make link none (some (if negated then "NOT EXISTS" else "EXISTS")) (some (.group query))

/-- `(sub-query) operator value`. -/
def compareQuery (link : Link) (query : Fragment) (operator : String) (value : Value) : Predicate :=
  make link (some (.group query)) (some operator) (comparand? value)

def raw (link : Link) (sql : String) (bindings : List Value) : Predicate :=
  make link none none (some (.raw sql bindings))

end Predicate

abbrev Conditions := List Predicate

namespace Conditions

/-- The predicates with their links between them. -/
def fragment (conditions : Conditions) : Fragment :=
  conditions.foldl (fun done predicate => .joined predicate.link.keyword done predicate.fragment)
    .nothing

end Conditions

/-- A list of conditions in parentheses, as one predicate. -/
def Predicate.nested (link : Link) (conditions : Conditions) : Predicate :=
  make link none none (some (.group conditions.fragment))

end RecordQuery
