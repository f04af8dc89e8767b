import RecordQuery.Fragment

/-!
# Reading conditions by the grammar of SQL

What stands between blanks and commas is a piece: a word, an operand, or what a
pair of parentheses encloses.  Pieces are read as terms with AND and OR between
them.  AND binds tighter than OR, BETWEEN takes the next AND for itself, IN takes
a list or a query in parentheses, EXISTS a query, and other parentheses group.
-/

namespace RecordQuery

namespace Grammar

/-- A part of a path as it is read back: every name stands in quotes. -/
def bare : Ident.Part → Ident.Part
  | .plain name => .quoted name
  | part => part

/-- What stands beside an operator.  A query is the text between its
parentheses with its values. -/
inductive Operand where
  | column (path : List Ident.Part)
  | value (value : Value)
  | number (digits : String)
  | query (compiled : Compiled)

/-- One condition. -/
inductive Term where
  | comparison (left : Operand) (operator : String) (right : Operand)
  | nullTest (left : Operand) (negated : Bool)
  | between (left : Operand) (negated : Bool) (low high : Operand)
  | inList (left : Operand) (negated : Bool) (members : List Operand)
  | inQuery (left : Operand) (negated : Bool) (query : Compiled)
  | existence (negated : Bool) (query : Compiled)
  | nested (alternatives : List (List Term))

/-- Terms that are joined by AND, divided by OR. -/
abbrev Alternatives := List (List Term)

/-- A piece of a text.  What parentheses enclose is kept as text, as pieces, and
as conditions if it reads as such. -/
inductive Piece where
  | word (letters : String)
  | operand (operand : Operand)
  | comma
  | enclosed (text : Compiled) (inside : List Piece)
      (alternatives? : Option Alternatives)

/-- The operators that compare two operands. -/
def comparisons : List String :=
  ["=", "!=", "<>", "<", "<=", ">", ">=", "LIKE", "NOT LIKE", "ILIKE",
    "NOT ILIKE", "IS", "IS NOT"]

/-! ## Terms -/

namespace Piece

/-- Whether pieces between parentheses are a query. -/
def areQuery : List Piece → Bool
  | word letters :: _ => letters = "SELECT"
  | _ => false

def query? : Piece → Option Compiled
  | enclosed text inside _ => if areQuery inside then some text else none
  | _ => none

def operand? : Piece → Option Operand
  | operand held => some held
  | piece => piece.query?.map .query

/-- The operands of a list. -/
def members? : List Piece → Option (List Operand)
  | [piece] => piece.operand?.map ([·])
  | piece :: comma :: rest => do
      let member ← piece.operand?
      let members ← members? rest
      some (member :: members)
  | _ => none

/-- What IN and NOT IN say of an operand: membership in a query or in a list. -/
def membership? (left : Operand) (negated : Bool) : Piece → Option Term
  | enclosed text inside _ =>
      if areQuery inside then some (.inQuery left negated text)
      else (members? inside).map (.inList left negated)
  | _ => none

def comparison? (left : Operand) (operator : String) (right : Piece) :
    Option Term :=
  if operator ∈ comparisons then right.operand?.map (.comparison left operator)
  else none

def between? (left : Operand) (negated : Bool) (low high : Piece) :
    Option Term := do
  some (.between left negated (← low.operand?) (← high.operand?))

/-- What pieces say of the operand before them. -/
def predicate? (left : Operand) : List Piece → Option Term
  | [word "IS", word "NULL"] => some (.nullTest left false)
  | [word "IS", word "NOT", word "NULL"] => some (.nullTest left true)
  | [word "BETWEEN", low, word "AND", high] => between? left false low high
  | [word "NOT", word "BETWEEN", low, word "AND", high] =>
      between? left true low high
  | [word "IN", piece] => membership? left false piece
  | [word "NOT", word "IN", piece] => membership? left true piece
  | [word operator, right] => comparison? left operator right
  | [word first, word second, right] =>
      comparison? left (first ++ " " ++ second) right
  | _ => none

/-- The term that pieces between two links write. -/
def term? : List Piece → Option Term
  | [enclosed _ _ (some alternatives)] => some (.nested alternatives)
  | [word "EXISTS", piece] => piece.query?.map (.existence false)
  | [word "NOT", word "EXISTS", piece] => piece.query?.map (.existence true)
  | left :: rest => do predicate? (← left.operand?) rest
  | [] => none

/-! ## Links -/

/-- Reads on after `pieces` of a term and `terms` of its alternative, both from
the last to the first.  `ranging` is between BETWEEN and its own AND. -/
def readOn : (ranging : Bool) → (pieces : List Piece) → (terms : List Term) →
    List Piece → Option Alternatives
  | _, pieces, terms, [] => do
      let term ← term? pieces.reverse
      some [(term :: terms).reverse]
  | ranging, pieces, terms, word letters :: rest =>
      if letters = "OR" then do
        let term ← term? pieces.reverse
        let later ← readOn false [] [] rest
        some ((term :: terms).reverse :: later)
      else if letters = "AND" ∧ ranging = false then do
        let term ← term? pieces.reverse
        readOn false [] (term :: terms) rest
      else
        readOn (letters = "BETWEEN" ∨ ranging ∧ letters ≠ "AND")
          (word letters :: pieces) terms rest
  | ranging, pieces, terms, piece :: rest =>
      readOn ranging (piece :: pieces) terms rest

/-- The conditions that pieces write. -/
def alternatives? (pieces : List Piece) : Option Alternatives :=
  readOn false [] [] pieces

end Piece

end Grammar

end RecordQuery
