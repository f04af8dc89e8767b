import Mathlib.Tactic.SplitIfs
import RecordQuery.Json.Parser

/-!
# Strings in JSON text

A string is read back from its quoted text: each character from itself, from an
escape of one letter or from its number in hexadecimal.
-/

namespace RecordQuery.Json

open Text

namespace Source

/-! ## Characters -/

/-- A part in front of those that are read behind it. -/
def behind (unit : Unit) (read : List Unit × List Char) :
    List Unit × List Char :=
  (unit :: read.1, read.2)

theorem units?_escaped {short letter : Char} (rest : List Char)
    (other : short ≠ 'u') (escaped : escaped? short = some letter) :
    units? ('\\' :: short :: rest) =
      (units? rest).map (behind (.letter letter)) := by
  rw [units?.eq_4 _ _ fun _ _ _ _ _ same => (other same).elim, escaped]
  cases units? rest <;> rfl

theorem units?_coded {a b c d : Char} {number : Nat} (rest : List Char)
    (read : Hex.toNat? [a, b, c, d] = some number) :
    units? ('\\' :: 'u' :: a :: b :: c :: d :: rest) =
      (units? rest).map (behind (.code number)) := by
  rw [units?, read]
  cases units? rest <;> rfl

theorem units?_plain {letter : Char} (rest : List Char)
    (unquoted : letter ≠ '"') (unescaped : letter ≠ '\\')
    (visible : ¬letter.toNat < 0x20) :
    units? (letter :: rest) =
      (units? rest).map (behind (.letter letter)) := by
  have kept : ¬(letter.toNat < 0x20 ∨ letter = '\\') := by
    rintro (control | escape)
    · exact visible control
    · exact unescaped escape
  rw [units?.eq_5 _ _ (fun same => unquoted same)
    (fun _ _ _ _ _ same => (unescaped same).elim)
    fun _ _ same => (unescaped same).elim, if_neg kept]
  rfl

/-- Whether a part stands for a character by itself. -/
def IsUnitOf (letter : Char) (unit : Unit) : Prop :=
  unit = .letter letter ∨ letter.toNat < 0x20 ∧ unit = .code letter.toNat

theorem toNat?_ofByte :
    ∀ number < 0x20,
      Hex.toNat? ('0' :: '0' :: Hex.ofByte (UInt8.ofNat number)) =
        some number := by
  decide

/-- A character is read back from what it is written as. -/
theorem exists_units?_escapeLetter (letter : Char) (rest : List Char) :
    ∃ unit, IsUnitOf letter unit ∧
      units? (escapeLetter letter ++ rest) =
        (units? rest).map (behind unit) := by
  have short :
      ∀ {code : Char}, code ≠ 'u' → escaped? code = some letter →
        ∃ unit, IsUnitOf letter unit ∧
          units? (['\\', code] ++ rest) =
            (units? rest).map (behind unit) :=
    fun other escaped => ⟨.letter letter, Or.inl rfl,
      units?_escaped rest other escaped⟩
  unfold escapeLetter
  split_ifs with quote backslash backspace formFeed newline carriage tab control
  · exact short (by decide) (by rw [quote]; rfl)
  · exact short (by decide) (by rw [backslash]; rfl)
  · have same : letter = '\x08' := Char.toNat_inj.mp backspace
    exact short (by decide) (by rw [same]; rfl)
  · have same : letter = '\x0c' := Char.toNat_inj.mp formFeed
    exact short (by decide) (by rw [same]; rfl)
  · exact short (by decide) (by rw [newline]; rfl)
  · exact short (by decide) (by rw [carriage]; rfl)
  · exact short (by decide) (by rw [tab]; rfl)
  · exact ⟨.code letter.toNat, Or.inr ⟨control, rfl⟩,
      units?_coded rest (toNat?_ofByte _ control)⟩
  · exact ⟨.letter letter, Or.inl rfl,
      units?_plain rest quote backslash control⟩

/-! ## Strings -/

theorem letters?_cons {letter : Char} {unit : Unit} {units : List Unit}
    (isUnit : IsUnitOf letter unit) :
    letters? (unit :: units) = (letters? units).map (letter :: ·) := by
  rcases isUnit with rfl | ⟨control, rfl⟩
  · rfl
  · have low : ¬(0xd800 ≤ letter.toNat ∧ letter.toNat < 0xdc00) := by omega
    have high : ¬(0xdc00 ≤ letter.toNat ∧ letter.toNat < 0xe000) := by omega
    have either : ¬(0xd800 ≤ letter.toNat ∧ letter.toNat < 0xe000) := by omega
    cases units with
    | nil =>
        rw [letters?.eq_4 letter.toNat [] nofun, if_neg either,
          Char.ofNat_toNat]
    | cons next units =>
        cases next with
        | letter value =>
            rw [letters?.eq_4 letter.toNat (.letter value :: units) nofun,
              if_neg either, Char.ofNat_toNat]
        | code value =>
            rw [letters?, if_neg low, if_neg high, Char.ofNat_toNat]

theorem exists_units?_escaped (letters : List Char) (rest : List Char) :
    ∃ units, letters? units = some letters ∧
      units? (letters.flatMap escapeLetter ++ '"' :: rest) =
        some (units, rest) := by
  induction letters with
  | nil => exact ⟨[], rfl, rfl⟩
  | cons letter letters inductionHypothesis =>
      obtain ⟨units, meant, read⟩ := inductionHypothesis
      obtain ⟨unit, isUnit, readFirst⟩ :=
        exists_units?_escapeLetter letter
          (letters.flatMap escapeLetter ++ '"' :: rest)
      refine ⟨unit :: units, ?_, ?_⟩
      · rw [letters?_cons isUnit, meant, Option.map_some]
      · rw [List.flatMap_cons, List.append_assoc, readFirst, read,
          Option.map_some]
        rfl

/-- A string is read back from its quoted text. -/
theorem string?_quoted (text : String) (rest : List Char) :
    string? (text.toList.flatMap escapeLetter ++ '"' :: rest) =
      some (some text, rest) := by
  obtain ⟨units, meant, read⟩ := exists_units?_escaped text.toList rest
  rw [string?, read, Option.map_some]
  simp only [meant, Option.map_some, String.ofList_toList]

end Source

/-- Texts that begin alike begin with one string and go on alike. -/
theorem quoted_append_inj {left right : String}
    {leftRest rightRest : List Char}
    (same : quoted left ++ leftRest = quoted right ++ rightRest) :
    left = right ∧ leftRest = rightRest := by
  have read (text : String) (rest : List Char) :
      quoted text ++ rest =
        '"' :: (text.toList.flatMap escapeLetter ++ '"' :: rest) := by
    simp [quoted]
  rw [read, read, List.cons.injEq] at same
  have leftRead := Source.string?_quoted left leftRest
  rw [same.2, Source.string?_quoted, Option.some.injEq, Prod.mk.injEq,
    Option.some.injEq] at leftRead
  exact ⟨leftRead.1.symm, leftRead.2.symm⟩

end RecordQuery.Json
