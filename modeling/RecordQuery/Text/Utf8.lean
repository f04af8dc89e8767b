/-!
# UTF-8

`encode` is the encoding of a text; `scan` reads bytes into characters and reports each maximal part of
a broken sequence once, so `lossy` puts one replacement character for it and `strict?` refuses it.
`lastBoundary` is where a text can be cut so that a number of bytes suffices.
-/

namespace RecordQuery.Text.Utf8

/-- What a leading byte announces: its share of the code point, how many bytes follow, and the
range that the first of them lies in. -/
structure Lead where
  share : Nat
  trailing : Nat
  low : Nat
  high : Nat

/-- The ranges exclude overlong forms, surrogates and code points above U+10FFFF. -/
def lead? (byte : Nat) : Option Lead :=
  if byte < 0x80 then some ⟨byte, 0, 0x80, 0xbf⟩
  else if byte < 0xc2 then none
  else if byte < 0xe0 then some ⟨byte - 0xc0, 1, 0x80, 0xbf⟩
  else if byte = 0xe0 then some ⟨0, 2, 0xa0, 0xbf⟩
  else if byte = 0xed then some ⟨0xd, 2, 0x80, 0x9f⟩
  else if byte < 0xf0 then some ⟨byte - 0xe0, 2, 0x80, 0xbf⟩
  else if byte = 0xf0 then some ⟨0, 3, 0x90, 0xbf⟩
  else if byte < 0xf4 then some ⟨byte - 0xf0, 3, 0x80, 0xbf⟩
  else if byte = 0xf4 then some ⟨4, 3, 0x80, 0x8f⟩
  else none

/-- Reads the bytes that follow a leading byte. The code point is missing when one of them is
absent or out of range; that byte is then left in the rest. -/
def trail (low high share : Nat) : Nat → List UInt8 → Option Nat × List UInt8
  | 0, rest => (some share, rest)
  | _ + 1, [] => (none, [])
  | count + 1, byte :: rest =>
    if low ≤ byte.toNat ∧ byte.toNat ≤ high then
      trail 0x80 0xbf (share * 64 + (byte.toNat - 0x80)) count rest
    else
      (none, byte :: rest)

theorem trail_length_le (low high share count : Nat) (bytes : List UInt8) :
    (trail low high share count bytes).2.length ≤ bytes.length := by
  induction count generalizing low high share bytes with
  | zero => simp [trail]
  | succ count ih =>
      cases bytes with
      | nil => simp [trail]
      | cons byte rest =>
          simp only [trail]
          split
          · exact Nat.le_trans (ih _ _ _ rest) (Nat.le_succ _)
          · exact Nat.le_refl _

/-- The characters of a byte string, with `none` for each maximal part of a broken sequence. -/
def scan : List UInt8 → List (Option Char)
  | [] => []
  | byte :: rest =>
    match lead? byte.toNat with
    | none => none :: scan rest
    | some lead =>
      (trail lead.low lead.high lead.share lead.trailing rest).1.map Char.ofNat ::
        scan (trail lead.low lead.high lead.share lead.trailing rest).2
termination_by bytes => bytes.length
decreasing_by
  · simp
  · exact Nat.lt_succ_of_le (trail_length_le ..)

/-- Broken parts become U+FFFD, one for each. -/
def lossy (bytes : List UInt8) : String :=
  String.ofList ((scan bytes).map fun letter? => letter?.getD '\ufffd')

/-- The text that the bytes encode, if they encode one. -/
def strict? (bytes : List UInt8) : Option String :=
  ((scan bytes).mapM id).map String.ofList

def encode (text : String) : List UInt8 :=
  text.toList.flatMap String.utf8EncodeChar

/-- The last boundary between characters at or before an offset in bytes. -/
def lastBoundary (text : String) : Nat → Nat
  | 0 => 0
  | offset + 1 =>
    if String.Pos.Raw.IsValid text ⟨offset + 1⟩ then offset + 1 else lastBoundary text offset

/-- The walk back ends at the start of the text at the latest. -/
theorem isValid_lastBoundary (text : String) (offset : Nat) :
    String.Pos.Raw.IsValid text ⟨lastBoundary text offset⟩ := by
  induction offset with
  | zero => exact String.Pos.Raw.isValid_zero
  | succ offset ih =>
      rw [lastBoundary]
      split
      case isTrue valid => exact valid
      case isFalse => exact ih

end RecordQuery.Text.Utf8
