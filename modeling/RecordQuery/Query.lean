import RecordQuery.Query.Conditions
import RecordQuery.Text.Debug
import RecordQuery.Value

/-!
# SELECT queries

A query is a value; every step gives a new one. Scopes are named lists of steps that a query carries
and that take effect when it is compiled: the local ones in the order in which they were attached, then
the global ones that are not suppressed.
-/

namespace RecordQuery

/-!
## Contexts

Values that a caller hands along with a query, one of each kind. Scopes and executors read them.
-/

/-- Values by kind; no kind occurs twice. -/
structure Context where
  entries : List (String × Value) := []

namespace Context

def get? (context : Context) (kind : String) : Option Value :=
  context.entries.lookup kind

def contains (context : Context) (kind : String) : Bool :=
  (context.get? kind).isSome

/-- The context with a value, in place of an earlier one of its kind. -/
def insert (context : Context) (kind : String) (value : Value) : Context :=
  ⟨(kind, value) :: context.entries.filter fun entry => entry.1 != kind⟩

def size (context : Context) : Nat :=
  context.entries.length

def isEmpty (context : Context) : Bool :=
  context.entries.isEmpty

/-- What a context shows of itself when printed. -/
def debugText (context : Context) : String :=
  "Context \x7b values: " ++ toString context.size ++ " \x7d"

end Context

/-! ## Queries -/

/-- What a query selects from. -/
inductive Source where
  | table (reference : String)
  | derived (query : Fragment) (label : String)

inductive JoinKind where
  | inner
  | left
  | right
  | cross
deriving DecidableEq, Repr

/-- A joined table and the conditions under which its rows match. -/
structure Join where
  kind : JoinKind
  table : String
  on : Conditions

/-- An expression to sort by. -/
structure SortKey where
  expression : Fragment
  descending : Bool

/-- The two clauses that hold conditions. -/
inductive Clause where
  | where_
  | having
deriving DecidableEq, Repr

mutual

/-- A named list of steps. In general a scope may be any function from queries to queries; here it is
one that takes a chain of steps, of which `filterByContext` looks at the context. A function that
chooses its steps by the query it is given, or puts a query of its own in its place, is left out. -/
structure Scope where
  name : String
  steps : List Step

/-- One step of building a query. `filterByContext` compares a column with the context's value of a
kind and does nothing without one. -/
inductive Step where
  | filter (clause : Clause) (predicate : Predicate)
  | filterByContext (kind column operator : String)
  | fromSource (source : Source)
  | select (columns : List String)
  | addSelect (expression : Fragment)
  | selectQuery (query : Fragment) (label : String)
  | distinct
  | join (joined : Join)
  | groupBy (columns : List String)
  | orderBy (key : SortKey)
  | unordered
  | limit (count : Nat)
  | offset (count : Nat)
  | attach (scope : Scope)
  | detach (name : String)
  | attachGlobal (scope : Scope)
  | suppress (name : String)
  | suppressAll
  | withContext (context : Context)

end

/-- The scopes of a query and the global ones that it opts out of. -/
structure ScopeSet where
  locals : List Scope := []
  globals : List Scope := []
  suppressed : List String := []
  suppressAll : Bool := false

namespace ScopeSet

def active (scopes : ScopeSet) : List Scope :=
  scopes.locals ++ scopes.globals.filter fun scope =>
    !scopes.suppressAll && !scopes.suppressed.contains scope.name

end ScopeSet

/-- A SELECT query. The first failure of building it is kept and refuses it when it is compiled. -/
structure Query where
  source? : Option Source := none
  distinct : Bool := false
  columns : List Fragment := []
  joins : List Join := []
  wheres : Conditions := []
  groupBy : List Fragment := []
  havings : Conditions := []
  orderBy : List SortKey := []
  limit? : Option Nat := none
  offset? : Option Nat := none
  scopes : ScopeSet := {}
  context : Context := {}
  fault? : Option Error := none

namespace Query

def table (reference : String) : Query :=
  { source? := some (.table reference) }

def addPredicate (query : Query) (clause : Clause) (predicate : Predicate) : Query :=
  match clause with
  | .where_ => { query with wheres := query.wheres ++ [predicate] }
  | .having => { query with havings := query.havings ++ [predicate] }

/-- The query with a failure, unless it has one already. -/
def withFault (query : Query) (fault : Error) : Query :=
  { query with fault? := query.fault?.or (some fault) }

def withGlobalScopes (query : Query) (scopes : List Scope) : Query :=
  { query with scopes := { query.scopes with globals := query.scopes.globals ++ scopes } }

end Query

def Step.apply (query : Query) : Step → Query
  | .filter clause predicate => query.addPredicate clause predicate
  | .filterByContext kind column operator =>
    match query.context.get? kind with
    | some value => query.addPredicate .where_ (.compare .and column operator value)
    | none => query
  | .fromSource source => { query with source? := some source }
  | .select columns => { query with columns := columns.map .name }
  | .addSelect expression => { query with columns := query.columns ++ [expression] }
  | .selectQuery sub label =>
    { query with columns := query.columns ++ [.join " " [.group sub, .text "AS", .name label]] }
  | .distinct => { query with distinct := true }
  | .join joined => { query with joins := query.joins ++ [joined] }
  | .groupBy columns => { query with groupBy := query.groupBy ++ columns.map .name }
  | .orderBy key => { query with orderBy := query.orderBy ++ [key] }
  | .unordered => { query with orderBy := [] }
  | .limit count => { query with limit? := some count }
  | .offset count => { query with offset? := some count }
  | .attach scope =>
    { query with scopes := { query.scopes with locals := query.scopes.locals ++ [scope] } }
  | .detach name =>
    { query with scopes :=
      { query.scopes with locals := query.scopes.locals.filter fun scope => scope.name != name } }
  | .attachGlobal scope =>
    { query with scopes := { query.scopes with globals := query.scopes.globals ++ [scope] } }
  | .suppress name =>
    { query with scopes := { query.scopes with suppressed := query.scopes.suppressed ++ [name] } }
  | .suppressAll => { query with scopes := { query.scopes with suppressAll := true } }
  | .withContext context => { query with context := context }

def Scope.apply (query : Query) (scope : Scope) : Query :=
  scope.steps.foldl Step.apply query

/-- What a scope shows of itself when printed. -/
def Scope.debugText (scope : Scope) : String :=
  "Scope(" ++ Text.debugText scope.name ++ ")"

namespace Query

def applyAll (query : Query) (steps : List Step) : Query :=
  steps.foldl Step.apply query

/-- The query after its active scopes. It keeps no scopes but those that they attached. -/
def applyScopes (query : Query) : Query :=
  query.scopes.active.foldl Scope.apply { query with scopes := {} }

end Query

end RecordQuery
