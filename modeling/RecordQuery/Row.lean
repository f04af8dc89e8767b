import RecordQuery.Error

/-!
# Result rows

Values under column names, in order. Of two columns with one name the first is read.
-/

namespace RecordQuery

/-- Column names and as many values. -/
structure Row where
  columns : List String
  values : List Value

namespace Row

def ofPairs (pairs : List (String × Value)) : Row :=
  ⟨pairs.map Prod.fst, pairs.map Prod.snd⟩

def size (row : Row) : Nat :=
  row.values.length

def isEmpty (row : Row) : Bool :=
  row.values.isEmpty

/-- The value of the first column of a name. -/
def get? (row : Row) (column : String) : Option Value :=
  (row.columns.zip row.values).lookup column

/-- A column's value read as a type. -/
def read (row : Row) (column : String) (type : ScalarType) : Except Error Scalar :=
  match row.get? column with
  | none => .error (.ofDecode column .missingColumn)
  | some value =>
    match type.decode value with
    | .ok scalar => .ok scalar
    | .error fault => .error (.ofDecode column fault)

end Row

end RecordQuery
