import RecordQuery.Proofs.Grammar.Queries

/-!
# Calls that add conditions

A list of conditions is made by calls.  Each adds one predicate, and each says
what a reader should find: the term with its column, its operator and its
operands.  A call is proper when its operator compares two operands and no
column is a star.
-/

namespace RecordQuery

open Grammar

/-- A call of a method that adds a condition without raw SQL.  A group is handed
the calls that are made inside of it. -/
inductive Call where
  | compare (link : Link) (column operator : String) (value : Value)
  | between (column : String) (low high : Value)
  | columns (link : Link) (column operator other : String)
  | inList (link : Link) (negated : Bool) (column : String)
      (values : List Value)
  | inQuery (negated : Bool) (column : String) (query : Query)
  | existence (link : Link) (negated : Bool) (query : Query)
  | compareQuery (link : Link) (query : Query) (operator : String)
      (value : Value)
  | group (link : Link) (calls : List Call)

namespace Call

mutual

/-- The predicate that a call adds. -/
def predicate : Call → Predicate
  | .compare link column operator value =>
      .compare link column operator value
  | .between column low high => .between column low high
  | .columns link column operator other =>
      .columns link column operator other
  | .inList link negated column values =>
      .inList link negated column values
  | .inQuery negated column query => .inQuery negated column query.fragment
  | .existence link negated query => .existence link negated query.fragment
  | .compareQuery link query operator value =>
      .compareQuery link query.fragment operator value
  | .group link calls => .nested link (conditions calls)

/-- The conditions that calls add, one after the other. -/
def conditions : List Call → Conditions
  | [] => []
  | call :: rest => call.predicate :: conditions rest

end

mutual

/-- The sub-queries that a call is handed, at any depth. -/
def queries : Call → List Query
  | .inQuery _ _ query => [query]
  | .existence _ _ query => [query]
  | .compareQuery _ query _ _ => [query]
  | .group _ calls => queriesOf calls
  | .compare .. | .between .. | .columns .. | .inList .. => []

def queriesOf : List Call → List Query
  | [] => []
  | call :: rest => call.queries ++ queriesOf rest

end

/-! ## What a reader should find -/

/-- An operator as it is written. -/
def written (operator : String) : String :=
  Text.upperAscii (Text.trim operator)

/-- The column that a path names. -/
def column (path : String) : Operand :=
  match Ident.parse path with
  | .ok ident => .column (ident.parts.map bare)
  | .error _ => .column []

/-- The text and values of a sub-query that stands after `count`
placeholders. -/
def subquery (dialect : Dialect) (count : Nat) (query : Query) : Compiled :=
  ⟨Item.print dialect count query.fragment.items, query.fragment.values⟩

/-- A comparison with a value; with NULL it is a test for NULL. -/
def comparison (left : Operand) (operator : String) (value : Value) : Term :=
  if value.isNull then
    .nullTest left (written operator ≠ "=" ∧ written operator ≠ "IS")
  else .comparison left (written operator) (.value value)

/-- Membership in a list.  The empty list has no members, which a comparison of
numbers says. -/
def membership (negated : Bool) (left : Operand) : List Value → Term
  | [] => .comparison (.number "1") "=" (.number (if negated then "1" else "0"))
  | values => .inList left negated (values.map .value)

/-- Alternatives with a further term: AND adds it to the last of them, OR starts
another. -/
def extend (link : Link) (term : Term) : Alternatives → Alternatives
  | [] => [[term]]
  | [last] =>
      match link with
      | .and => [last ++ [term]]
      | .or => [last, [term]]
  | first :: second :: rest => first :: extend link term (second :: rest)

/-- Terms in order, each linked to those before it. -/
def alternation (linked : List (Link × Term)) : Alternatives :=
  linked.foldl (fun done next => extend next.1 next.2 done) []

mutual

/-- The term that a call writes after `count` placeholders, with its link.  A
group without terms writes nothing. -/
def terms (dialect : Dialect) (count : Nat) : Call → List (Link × Term)
  | .compare link path operator value =>
      [(link, comparison (column path) operator value)]
  | .between path low high =>
      [(.and, .between (column path) false (.value low) (.value high))]
  | .columns link path operator other =>
      [(link, .comparison (column path) (written operator) (column other))]
  | .inList link negated path values =>
      [(link, membership negated (column path) values)]
  | .inQuery negated path query =>
      [(.and,
        .inQuery (column path) negated (subquery dialect count query))]
  | .existence link negated query =>
      [(link, .existence negated (subquery dialect count query))]
  | .compareQuery link query operator value =>
      [(link,
        comparison (.query (subquery dialect count query)) operator value)]
  | .group link calls =>
      match termsOf dialect count calls with
      | [] => []
      | inside => [(link, .nested (alternation inside))]

def termsOf (dialect : Dialect) (count : Nat) :
    List Call → List (Link × Term)
  | [] => []
  | call :: rest =>
      call.terms dialect count ++
        termsOf dialect
          (count + call.predicate.fragment.values.length) rest

end

/-! ## Proper calls -/

/-- Whether a path names a column; one with a star names several. -/
def namesColumn (path : String) : Bool :=
  match Ident.parse path with
  | .ok ident => !ident.parts.contains .star
  | .error _ => true

/-- Whether an operator compares two operands. -/
def compares (operator : String) : Bool :=
  comparisons.contains (written operator)

mutual

/-- Whether a call is handed operators that go with its operands. -/
def isProper : Call → Bool
  | .compare _ path operator value =>
      namesColumn path && (value.isNull || compares operator)
  | .between path _ _ => namesColumn path
  | .columns _ path operator other =>
      namesColumn path && compares operator && namesColumn other
  | .inList _ _ path values => values.isEmpty || namesColumn path
  | .inQuery _ path _ => namesColumn path
  | .existence .. => true
  | .compareQuery _ _ operator value => value.isNull || compares operator
  | .group _ calls => areProper calls

def areProper : List Call → Bool
  | [] => true
  | call :: rest => call.isProper && areProper rest

end

end Call

end RecordQuery
