import RecordQuery.Proofs.Grammar.Calls

/-!
# Pieces that are read as terms

Pieces are read as a whole when they write one term and hold no link of their
own but the AND of BETWEEN.  What follows them with a link before it is then
read on from there, so that the alternatives of a list are those of its
beginning, extended by its last term.
-/

namespace RecordQuery

namespace Grammar

/-! ## Operators -/

/-- Whether letters are a word that neither ends a term nor opens a range. -/
def isInnerWord (letters : String) : Bool :=
  letters.toList.all isWordLetter && !letters.toList.all Char.isDigit &&
    !(["AND", "OR", "BETWEEN"].contains letters)

/-- The words of an operator. -/
def operatorWords (operator : String) : List String :=
  (Text.words operator.toList).map String.ofList

theorem operatorWords_comparisons :
    ∀ operator ∈ comparisons,
      operatorWords operator ≠ [] ∧
        (operatorWords operator).all isInnerWord = true ∧
        " ".intercalate (operatorWords operator) = operator := by
  decide

namespace Piece

/-- Whether a piece neither ends a term nor opens a range. -/
def isInner : Piece → Bool
  | word letters => isInnerWord letters
  | _ => true

theorem isInner_of_operand? {piece : Piece} {operand : Operand}
    (held : piece.operand? = some operand) : piece.isInner = true := by
  cases piece with
  | word letters => cases held
  | operand _ => rfl
  | comma => cases held
  | enclosed _ _ _ => rfl

theorem isInner_words {words : List String}
    (inner : words.all isInnerWord = true) :
    ∀ piece ∈ words.map word, piece.isInner = true := by
  intro piece member
  obtain ⟨letters, within, rfl⟩ := List.mem_map.mp member
  exact List.all_eq_true.mp inner letters within

theorem isInner_words_concat {words : List String} {last : Piece}
    (inner : words.all isInnerWord = true) (lastInner : last.isInner = true) :
    ∀ piece ∈ words.map word ++ [last], piece.isInner = true := by
  intro piece member
  rcases List.mem_append.mp member with among | only
  · exact isInner_words inner piece among
  · rw [List.mem_singleton.mp only]
    exact lastInner

theorem readOn_operand {piece : Piece} {operand : Operand}
    (held : piece.operand? = some operand) (ranging : Bool)
    (before : List Piece) (terms : List Term) (rest : List Piece) :
    readOn ranging before terms (piece :: rest) =
      readOn ranging (piece :: before) terms rest := by
  cases piece with
  | word letters => cases held
  | operand _ => rfl
  | comma => cases held
  | enclosed _ _ _ => rfl

/-- What is no link and opens no range belongs to the term. -/
theorem readOn_inner {pieces : List Piece} (ranging : Bool)
    (terms : List Term) (rest : List Piece) :
    ∀ {before : List Piece}, (∀ piece ∈ pieces, piece.isInner = true) →
      readOn ranging before terms (pieces ++ rest) =
        readOn ranging (pieces.reverse ++ before) terms rest := by
  induction pieces with
  | nil => exact fun _ => rfl
  | cons piece later inductionHypothesis =>
      intro before inner
      have passed :
          readOn ranging before terms (piece :: (later ++ rest)) =
            readOn ranging (piece :: before) terms (later ++ rest) := by
        have alone := inner piece (List.mem_cons_self ..)
        cases piece with
        | word letters =>
            have others :
                letters ≠ "AND" ∧ letters ≠ "OR" ∧ letters ≠ "BETWEEN" := by
              have unlinked := (Bool.and_eq_true_iff.mp alone).2
              simpa [isInner, isInnerWord] using unlinked
            simp [readOn, others]
        | operand held => rfl
        | comma => rfl
        | enclosed text inside alternatives? => rfl
      rw [List.cons_append, passed, inductionHypothesis fun member within =>
        inner member (List.mem_cons_of_mem piece within)]
      simp

/-- Pieces that are read as one term, wherever they stand. -/
structure Whole (pieces : List Piece) (term : Term) : Prop where
  term : term? pieces = some term
  passed : ∀ (terms : List Term) (rest : List Piece),
    readOn false [] terms (pieces ++ rest) =
      readOn false pieces.reverse terms rest

theorem whole_of_inner {pieces : List Piece} {term : Term}
    (read : term? pieces = some term)
    (inner : ∀ piece ∈ pieces, piece.isInner = true) : Whole pieces term where
  term := read
  passed := by
    intro terms rest
    rw [readOn_inner false terms rest inner, List.append_nil]

/-- After an operand its predicate is read. -/
theorem term?_operand {left : Piece} {operand : Operand}
    (held : left.operand? = some operand) {rest : List Piece}
    (more : rest ≠ []) : term? (left :: rest) = predicate? operand rest := by
  cases rest with
  | nil => exact (more rfl).elim
  | cons second later =>
      cases left with
      | word letters => cases held
      | operand kept =>
          cases held
          rfl
      | comma => cases held
      | enclosed text inside alternatives? =>
          -- The nested term stands alone, and here more pieces follow.
          have query :
              (enclosed text inside alternatives?).operand? = some operand :=
            held
          simp [term?, query]

theorem predicate?_comparison {operator : String}
    (listed : operator ∈ comparisons) {right : Piece} {operand : Operand}
    (held : right.operand? = some operand) (left : Operand) :
    predicate? left ((operatorWords operator).map word ++ [right]) =
      some (.comparison left operator operand) := by
  have compared :
      ∀ operator ∈ comparisons,
        predicate? left ((operatorWords operator).map word ++ [right]) =
          comparison? left operator right := by
    simp only [comparisons, List.forall_mem_cons, List.not_mem_nil,
      false_implies, implies_true, and_true]
    cases right with
    | word letters => cases held
    | operand kept => and_intros <;> rfl
    | comma => cases held
    | enclosed text inside alternatives? => and_intros <;> rfl
  simp [compared operator listed, comparison?, listed, held]

/-! ## Terms -/

theorem whole_comparison {operator : String} (listed : operator ∈ comparisons)
    {left right : Piece} {leftOperand rightOperand : Operand}
    (lefts : left.operand? = some leftOperand)
    (rights : right.operand? = some rightOperand) :
    Whole (left :: ((operatorWords operator).map word ++ [right]))
      (.comparison leftOperand operator rightOperand) := by
  obtain ⟨_, inner, _⟩ := operatorWords_comparisons operator listed
  apply whole_of_inner
  · rw [term?_operand lefts (by simp), predicate?_comparison listed rights]
  · exact List.forall_mem_cons.mpr ⟨isInner_of_operand? lefts,
      isInner_words_concat inner (isInner_of_operand? rights)⟩

/-- The words of a test for NULL. -/
def nullWords (negated : Bool) : List String :=
  if negated then ["IS", "NOT", "NULL"] else ["IS", "NULL"]

/-- The words of an operator that may be negated. -/
def negatedWords (negated : Bool) (operator : String) : List String :=
  if negated then ["NOT", operator] else [operator]

theorem whole_nullTest {left : Piece} {operand : Operand}
    (held : left.operand? = some operand) (negated : Bool) :
    Whole (left :: (nullWords negated).map word)
      (.nullTest operand negated) := by
  apply whole_of_inner
  · cases negated <;> exact term?_operand held (List.cons_ne_nil _ _)
  · have inner : (nullWords negated).all isInnerWord = true := by
      cases negated <;> decide
    exact List.forall_mem_cons.mpr
      ⟨isInner_of_operand? held, isInner_words inner⟩

theorem whole_membership {left : Piece} {operand : Operand}
    (held : left.operand? = some operand) {negated : Bool} {text : Compiled}
    {inside : List Piece} {alternatives? : Option Alternatives} {term : Term}
    (members :
      membership? operand negated (enclosed text inside alternatives?) =
        some term) :
    Whole
      (left :: ((negatedWords negated "IN").map word ++
        [enclosed text inside alternatives?]))
      term := by
  apply whole_of_inner
  · rw [← members]
    cases negated <;> exact term?_operand held (List.cons_ne_nil _ _)
  · have inner : (negatedWords negated "IN").all isInnerWord = true := by
      cases negated <;> decide
    exact List.forall_mem_cons.mpr
      ⟨isInner_of_operand? held, isInner_words_concat inner rfl⟩

theorem whole_existence (negated : Bool) {text : Compiled}
    {inside : List Piece} {alternatives? : Option Alternatives}
    (query : areQuery inside = true) :
    Whole
      ((negatedWords negated "EXISTS").map word ++
        [enclosed text inside alternatives?])
      (.existence negated text) := by
  apply whole_of_inner
  · cases negated <;> simp [negatedWords, term?, query?, query]
  · have inner : (negatedWords negated "EXISTS").all isInnerWord = true := by
      cases negated <;> decide
    exact isInner_words_concat inner rfl

/-- The AND between the bounds of a range does not end the term. -/
theorem whole_between {left low high : Piece}
    {operand lowOperand highOperand : Operand}
    (held : left.operand? = some operand)
    (lows : low.operand? = some lowOperand)
    (highs : high.operand? = some highOperand) :
    Whole [left, word "BETWEEN", low, word "AND", high]
      (.between operand false lowOperand highOperand) where
  term := by
    rw [term?_operand held (by simp)]
    simp [predicate?, between?, lows, highs]
  passed := by
    intro terms rest
    simp [readOn, readOn_operand held, readOn_operand lows,
      readOn_operand highs]

/-! ## Alternatives -/

/-- Pieces that are read as alternatives and end with a term, so that what
follows with a link is read on from there. -/
def ReadsAs (pieces : List Piece) (alternatives : Alternatives) : Prop :=
  ∃ (earlier : Alternatives) (terms : List Term) (last : List Piece)
    (term : Term),
    alternatives = earlier ++ [(term :: terms).reverse] ∧
      term? last = some term ∧
      ∀ rest, readOn false [] [] (pieces ++ rest) =
        (readOn false last.reverse terms rest).map (earlier ++ ·)

/-- What parentheses enclose is a term if it reads as conditions. -/
theorem whole_nested (text : Compiled) (inside : List Piece)
    (alternatives : Alternatives) :
    Whole [enclosed text inside (some alternatives)]
      (.nested alternatives) := by
  apply whole_of_inner
  · rfl
  · intro piece member
    rw [List.mem_singleton.mp member]
    rfl

theorem readsAs_of_whole {pieces : List Piece} {term : Term}
    (whole : Whole pieces term) : ReadsAs pieces [[term]] := by
  refine ⟨[], [], pieces, term, rfl, whole.term, fun rest => ?_⟩
  rw [whole.passed]
  simp

theorem alternatives?_of_readsAs {pieces : List Piece}
    {alternatives : Alternatives} (reads : ReadsAs pieces alternatives) :
    alternatives? pieces = some alternatives := by
  obtain ⟨earlier, terms, last, term, rfl, read, passed⟩ := reads
  have ended := passed []
  rw [List.append_nil] at ended
  simp [alternatives?, ended, readOn, read]

theorem extend_concat (link : Link) (term : Term) (earlier : Alternatives)
    (last : List Term) :
    Call.extend link term (earlier ++ [last]) =
      match link with
      | .and => earlier ++ [last ++ [term]]
      | .or => earlier ++ [last, [term]] := by
  induction earlier with
  | nil => rfl
  | cons first rest inductionHypothesis =>
      cases rest with
      | nil => cases link <;> rfl
      | cons second later =>
          have passed :
              Call.extend link term (first :: second :: later ++ [last]) =
                first :: Call.extend link term (second :: later ++ [last]) :=
            rfl
          rw [passed, inductionHypothesis]
          cases link <;> rfl

/-- The word of a link. -/
def linkWord : Link → String
  | .and => "AND"
  | .or => "OR"

/-- A further term extends the alternatives of the pieces before it. -/
theorem ReadsAs.extend {pieces next : List Piece} {alternatives : Alternatives}
    {term : Term} (reads : ReadsAs pieces alternatives)
    (whole : Whole next term) (link : Link) :
    ReadsAs (pieces ++ word (linkWord link) :: next)
      (Call.extend link term alternatives) := by
  obtain ⟨earlier, terms, last, lastTerm, rfl, read, passed⟩ := reads
  rw [extend_concat]
  cases link with
  | and =>
      refine ⟨earlier, lastTerm :: terms, next, term, by simp, whole.term,
        fun rest => ?_⟩
      rw [List.append_assoc, passed]
      simp [readOn, linkWord, read, whole.passed]
  | or =>
      refine ⟨earlier ++ [(lastTerm :: terms).reverse], [], next, term, by simp,
        whole.term, fun rest => ?_⟩
      rw [List.append_assoc, passed]
      cases after : readOn false next.reverse [] rest with
      | none => simp [readOn, linkWord, read, whole.passed, after]
      | some later => simp [readOn, linkWord, read, whole.passed, after]

end Piece

end Grammar

end RecordQuery
