import RecordQuery.Text.Basic

/-!
# Universally unique identifiers

Sixteen bytes, written as lower-case digits in five groups. Which other forms are read is taken over
from the usual library for identifiers: digits without hyphens, groups in braces, and groups after the
name space. What the bytes mean, by version and variant, is left out.
-/

namespace RecordQuery

/-- Sixteen bytes. -/
structure Uuid where
  bytes : List UInt8
  size_eq : bytes.length = 16
deriving DecidableEq, Repr

namespace Uuid

open Text

/-- The identifier of sixteen bytes. -/
def ofBytes? (bytes : List UInt8) : Option Uuid :=
  if size : bytes.length = 16 then some ⟨bytes, size⟩ else none

/-- The digits in groups of 8, 4, 4, 4 and 12. -/
def letters (uuid : Uuid) : List Char :=
  let digits := Hex.ofBytes uuid.bytes
  let group (start size : Nat) : List Char := (digits.drop start).take size
  group 0 8 ++ '-' :: group 8 4 ++ '-' :: group 12 4 ++ '-' :: group 16 4 ++ '-' :: group 20 12

def text (uuid : Uuid) : String :=
  String.ofList uuid.letters

/-- Five groups with hyphens between them. -/
def ofGroups? (letters : List Char) : Option Uuid :=
  let group (start size : Nat) : List Char := (letters.drop start).take size
  let hyphens := [group 8 1, group 13 1, group 18 1, group 23 1]
  if letters.length = 36 ∧ hyphens.all (· == ['-']) then
    (Hex.toBytes? (group 0 8 ++ group 9 4 ++ group 14 4 ++ group 19 4 ++ group 24 12)).bind ofBytes?
  else none

/-- The identifier that a text names: 32 digits, the groups, the groups in braces, or the groups
after the name space `urn:uuid:` in any case. -/
def ofText? (text : String) : Option Uuid :=
  let letters := text.toList
  let size := letters.length
  if size = 32 then (Hex.toBytes? letters).bind ofBytes?
  else if size = 36 then ofGroups? letters
  else if size = 38 then
    if letters.head? = some '\x7b' ∧ letters.getLast? = some '\x7d' then
      ofGroups? ((letters.drop 1).take 36)
    else none
  else if size = 45 ∧ (letters.take 9).map Char.toLower = "urn:uuid:".toList then ofGroups? (letters.drop 9)
  else none

end Uuid

end RecordQuery
