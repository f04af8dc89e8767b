import RecordQuery.Query

/-!
# The SQL of a query

The clauses of a query from left to right, each with its keyword or absent.
-/

namespace RecordQuery

/-! ## Tables -/

/-- A table reference: `table`, `table alias` or `table AS alias`, the word in any case. -/
def tableFragment (reference : String) : Fragment :=
  let aliased (table label : List Char) : Fragment :=
    .joined "" (.joined "" (.name (String.ofList table)) (.text " AS "))
      (.name (String.ofList label))
  match Text.words reference.toList with
  | [table, word, label] =>
    if word.map Char.toLower = ['a', 's'] then aliased table label
    else .name (Text.trim reference)
  | [table, label] => aliased table label
  | _ => .name (Text.trim reference)

/-- The name by which rows of a table reference are addressed. -/
def tableName (reference : String) : String :=
  match (Text.words reference.toList).getLast? with
  | some word => String.ofList word
  | none => reference

namespace Source

/-- The reference of a table, or the alias of a derived one. -/
def name : Source → String
  | .table reference => reference
  | .derived _ label => label

def fragment : Source → Fragment
  | .table reference => .joined "" (.text "FROM ") (tableFragment reference)
  | .derived query label =>
    .joined " " (.joined " " (.text "FROM") (.group query)) (.joined "" (.text "AS ") (.name label))

end Source

/-! ## Clauses -/

def JoinKind.keyword : JoinKind → String
  | .inner => "INNER JOIN"
  | .left => "LEFT JOIN"
  | .right => "RIGHT JOIN"
  | .cross => "CROSS JOIN"

def Join.fragment (join : Join) : Fragment :=
  .joined " " (.joined "" (.text (join.kind.keyword ++ " ")) (tableFragment join.table))
    (.led "ON" join.on.fragment)

def SortKey.fragment (key : SortKey) : Fragment :=
  if key.descending then .joined "" key.expression (.text " DESC") else key.expression

namespace Query

/-- The table reference or alias that the query selects from. -/
def tableName? (query : Query) : Option String :=
  query.source?.map Source.name

/-- The columns; without any, all of the table, or a bare star without a table. -/
def selectFragment (query : Query) : Fragment :=
  let keyword := if query.distinct then "SELECT DISTINCT" else "SELECT"
  let columns :=
    if query.columns.isEmpty then
      match query.tableName? with
      | some reference => .name (tableName reference ++ ".*")
      | none => .name "*"
    else .join ", " query.columns
  .joined " " (.text keyword) columns

/-- A clause that lists its items, or nothing without items. -/
def listed (keyword : String) (items : List Fragment) : Fragment :=
  if items.isEmpty then .nothing else .joined " " (.text keyword) (.join ", " items)

/-- An offset without a limit needs a limit that sets none. -/
def limitFragment (query : Query) : Fragment :=
  match query.limit?, query.offset? with
  | none, none => .nothing
  | some count, none => .text ("LIMIT " ++ toString count)
  | some count, some start => .text ("LIMIT " ++ toString count ++ " OFFSET " ++ toString start)
  | none, some start =>
    .joined "" (.joined "" (.text "LIMIT ") .unlimited) (.text (" OFFSET " ++ toString start))

/-- The clauses as they stand, scopes left aside. -/
def layout (query : Query) : Fragment :=
  match query.fault? with
  | some fault => .refused fault
  | none =>
    .join " "
      [query.selectFragment,
        (query.source?.map Source.fragment).getD .nothing,
        .join " " (query.joins.map Join.fragment),
        .led "WHERE" query.wheres.fragment,
        listed "GROUP BY" query.groupBy,
        .led "HAVING" query.havings.fragment,
        listed "ORDER BY" (query.orderBy.map SortKey.fragment),
        query.limitFragment]

/-- The query as a piece of SQL, its scopes applied. -/
def fragment (query : Query) : Fragment :=
  query.applyScopes.layout

def toSql (query : Query) (dialect : Dialect) : Except Error Compiled :=
  query.fragment.toSql dialect

end Query

end RecordQuery
