import RecordQuery.Text.Basic

/-!
# The dialects of SQL

The three dialects by what differs between them: quotes, placeholders and a few keywords.
-/

namespace RecordQuery

inductive Dialect where
  | sqlite
  | mysql
  | postgres
deriving DecidableEq, Repr

/-- A text between quotes, every quote inside it doubled. -/
def quoteWith (quote : Char) (text : String) : String :=
  let inner := text.toList.flatMap fun letter =>
    if letter = quote then [quote, quote] else [letter]
  String.ofList (quote :: (inner ++ [quote]))

namespace Dialect

def all : List Dialect := [.sqlite, .mysql, .postgres]

def name : Dialect → String
  | .sqlite => "sqlite"
  | .mysql => "mysql"
  | .postgres => "postgres"

def nameQuote : Dialect → Char
  | .mysql => '\x60'
  | _ => '"'

/-- One name of a path, quoted. -/
def quoteName (dialect : Dialect) (name : String) : String :=
  quoteWith dialect.nameQuote name

/-- The mark of a binding; the first binding has number 1. -/
def placeholder (dialect : Dialect) (number : Nat) : String :=
  match dialect with
  | .postgres => "$" ++ toString number
  | _ => "?"

/-- The expression for the current time. -/
def currentTimestamp : Dialect → String
  | .postgres => "now()"
  | _ => "CURRENT_TIMESTAMP"

/-- The words that make a column number itself. -/
def autoIncrement : Dialect → String
  | .sqlite => "AUTOINCREMENT"
  | .mysql => "AUTO_INCREMENT"
  | .postgres => "GENERATED BY DEFAULT AS IDENTITY"

def limitAll : Dialect → String
  | .sqlite => "-1"
  | .mysql => "18446744073709551615"
  | .postgres => "ALL"

/-- A dotted path quoted name by name; a star stays bare. -/
def quotePath (dialect : Dialect) (path : String) : String :=
  String.intercalate "." <| (Text.splitAt '.' path).map fun segment =>
    if segment = "*" then segment else dialect.quoteName segment

/-- The dialect that a setting names, in any case and with blanks around it. -/
def ofSetting? (text : String) : Option Dialect :=
  match Text.lowerAscii (Text.trim text) with
  | "sqlite" | "sqlite3" => some .sqlite
  | "mysql" | "mariadb" => some .mysql
  | "postgres" | "postgresql" | "pg" => some .postgres
  | _ => none

/-- The dialect of an exact name in a configuration text. -/
def ofTag? : String → Option Dialect
  | "sqlite" => some .sqlite
  | "mysql" | "mariadb" => some .mysql
  | "postgres" | "postgresql" | "pg" => some .postgres
  | _ => none

end Dialect

end RecordQuery
