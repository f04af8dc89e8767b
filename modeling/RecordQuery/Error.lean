import RecordQuery.Value.Scalar

/-!
# Errors

What can go wrong in building a query, resolving a relationship, reading a row or running a statement,
and the wording of it.
-/

namespace RecordQuery

/-- A failure. Times are in nanoseconds. -/
inductive Error where
  | missingRelationship (model relation : String)
  | missingField (model field : String)
  | invalidCondition (reason : String)
  | compositeKey (model relation : String)
  | unsupportedKey (reason : String)
  | unsupportedType (dialect type : String)
  | invalidIdentifier (reason : String)
  | decode (column reason : String)
  | timeout (nanos : Nat)
  | load (relation : String) (source : Error)
  | other (text : String)
deriving DecidableEq

namespace Error

/-- A count of units of `10 ^ places` each, with the decimals that are needed. -/
def durationLetters (nanos places : Nat) : List Char :=
  let unit := Nat.pow 10 places
  let decimals := ((Text.padded places (nanos % unit)).reverse.dropWhile (· == '0')).reverse
  let fraction := if nanos % unit = 0 then [] else '.' :: decimals
  Nat.toDigits 10 (nanos / unit) ++ fraction

/-- A time in the largest unit that is not larger than it. -/
def durationText (nanos : Nat) : String :=
  if Nat.pow 10 9 ≤ nanos then String.ofList (durationLetters nanos 9) ++ "s"
  else if Nat.pow 10 6 ≤ nanos then String.ofList (durationLetters nanos 6) ++ "ms"
  else if Nat.pow 10 3 ≤ nanos then String.ofList (durationLetters nanos 3) ++ "µs"
  else String.ofList (durationLetters nanos 0) ++ "ns"

def message : Error → String
  | .missingRelationship model relation =>
    "missing relationship: " ++ model ++ " has no relationship named '" ++ relation ++ "'"
  | .missingField model field => "missing field: " ++ model ++ " has no column '" ++ field ++ "'"
  | .invalidCondition reason => "invalid condition: " ++ reason
  | .compositeKey model relation =>
    "relationship '" ++ relation ++ "' needs an explicit key: " ++ model ++
      " has a composite primary key"
  | .unsupportedKey reason => "unsupported relationship key: " ++ reason
  | .unsupportedType dialect type =>
    "dialect " ++ dialect ++ " does not support column type " ++ type
  | .invalidIdentifier reason => "invalid identifier: " ++ reason
  | .decode column reason => "Decode error on column '" ++ column ++ "': " ++ reason
  | .timeout nanos => "Query timeout after " ++ durationText nanos
  | .load relation source => "loading relationship '" ++ relation ++ "': " ++ source.message
  | .other text => text

/-- The failure under any number of loading contexts. -/
def root : Error → Error
  | .load _ source => source.root
  | cause => cause

def isMissingRelationship (error : Error) : Bool :=
  match error.root with
  | .missingRelationship .. => true
  | _ => false

def isMissingField (error : Error) : Bool :=
  match error.root with
  | .missingField .. => true
  | _ => false

def isTimeout (error : Error) : Bool :=
  match error.root with
  | .timeout _ => true
  | _ => false

def isInvalidCondition (error : Error) : Bool :=
  match error.root with
  | .invalidCondition _ => true
  | _ => false

/-- A failure kept in a query until it is compiled. Missing relationships, missing fields and unusable
keys stay what they are, any other is kept by its wording. -/
def deferred (error : Error) : Error :=
  match error.root with
  | .missingRelationship model relation => .missingRelationship model relation
  | .missingField model field => .missingField model field
  | .compositeKey model relation => .compositeKey model relation
  | .unsupportedKey reason => .unsupportedKey reason
  | cause => .invalidCondition cause.message

/-- The failure of reading a column. -/
def ofDecode (column : String) (fault : DecodeFault) : Error :=
  .decode column fault.message

end Error

end RecordQuery
