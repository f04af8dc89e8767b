import RecordQuery.Proofs.Grammar.Reading

/-!
# What operands and operators write

Names, values, lists and sub-queries between parentheses write one operand each.
With an operator between them, or before them, they write one term, provided
that the operator goes with them.
-/

namespace RecordQuery

namespace Fragment

variable (dialect : Dialect) (count : Nat)

/-! ## A part with a word after it -/

theorem isSilent_followed (left : Fragment) (word : String) :
    (joined "" left (text (" " ++ word))).isSilent = false := by
  have seen : (text (" " ++ word)).isSilent = false :=
    isSilent_text_of_ne (by simp)
  rw [isSilent_joined, seen, Bool.and_false]

theorem letters_followed {left : Fragment} (seen : left.isSilent = false)
    (word : String) :
    (joined "" left (text (" " ++ word))).letters dialect count =
      left.letters dialect count ++ ' ' :: word.toList := by
  rw [letters_joined_of_seen _ _ seen (isSilent_text_of_ne (by simp)),
    letters_text]
  simp

theorem values_followed (left : Fragment) (word : String) :
    (joined "" left (text (" " ++ word))).values = left.values := by
  rw [values_joined, values_text, List.append_nil]

end Fragment

namespace Grammar

namespace Passage

variable {passage : Passage}

theorem writes_words (passage : Passage) (marks : Nat)
    {words : List String} (inner : words.all isInnerWord = true)
    (begun : words ≠ []) :
    passage.Writes marks (" ".intercalate words).toList 0
      (words.map .word) := by
  have alone {word : String} (single : isInnerWord word = true) :
      passage.Writes marks word.toList 0 [.word word] := by
    simp only [isInnerWord, Bool.and_eq_true, Bool.not_eq_true'] at single
    obtain ⟨⟨letters, noNumber⟩, _⟩ := single
    have written := writes_word passage marks letters noNumber
    rwa [String.ofList_toList] at written
  induction words with
  | nil => exact (begun rfl).elim
  | cons first rest inductionHypothesis =>
      rw [List.all_cons, Bool.and_eq_true] at inner
      cases rest with
      | nil => simpa using alone inner.1
      | cons second later =>
          have tail := inductionHypothesis inner.2 (List.cons_ne_nil _ _)
          rw [String.intercalate_cons_cons]
          have joined := writes_blank (alone inner.1) tail
          simpa using joined

/-! ## Bound values -/

/-- The placeholders after the first `marks` start with those of the values. -/
def Binds (passage : Passage) (marks : Nat) (values : List Value) : Prop :=
  values <+: passage.compiled.bindings.drop marks

theorem binds_append_iff {marks : Nat} {left right : List Value} :
    passage.Binds marks (left ++ right) ↔
      passage.Binds marks left ∧
        passage.Binds (marks + left.length) right := by
  unfold Binds
  rw [← List.drop_drop]
  constructor
  · rintro ⟨rest, whole⟩
    rw [← whole]
    simp
  · rintro ⟨⟨between, leftWhole⟩, rest, rightWhole⟩
    rw [← leftWhole] at rightWhole ⊢
    simp at rightWhole
    exact ⟨rest, by rw [List.append_assoc, rightWhole]⟩

theorem slice_of_binds {marks : Nat} {values : List Value}
    (binds : passage.Binds marks values) :
    passage.slice marks values.length = values := by
  rw [slice, List.drop_take, Nat.add_sub_cancel_left]
  exact (List.prefix_iff_eq_take.mp binds).symm

theorem getElem?_of_binds {marks : Nat} {value : Value}
    (binds : passage.Binds marks [value]) :
    passage.compiled.bindings[marks]? = some value := by
  obtain ⟨rest, whole⟩ := binds
  rw [← Nat.add_zero marks, ← List.getElem?_drop, ← whole]
  rfl

/-! ## Operands -/

/-- A fragment that writes one operand, when it stands after `marks`
placeholders. -/
def WritesOperand (passage : Passage) (marks : Nat) (fragment : Fragment)
    (operand : Operand) : Prop :=
  fragment.isSilent = false ∧
    ∃ piece : Piece, piece.operand? = some operand ∧
      passage.Writes marks
        (fragment.letters passage.dialect (passage.count + marks))
        fragment.values.length [piece]

theorem writesOperand_name {path : String}
    (compilable : (Fragment.name path).IsCompilable)
    (named : Call.namesColumn path = true) (marks : Nat) :
    passage.WritesOperand marks (.name path) (Call.column path) := by
  obtain ⟨ident, parsed⟩ := (Fragment.isCompilable_name path).mp compilable
  have begun := Ident.parts_ne_nil_of_parse parsed
  have starless : .star ∉ ident.parts := by
    simpa [Call.namesColumn, parsed] using named
  refine ⟨?_, .operand (.column (ident.parts.map bare)), ?_, ?_⟩
  · simp [Fragment.isSilent, Fragment.items, parsed, Item.isBlank, begun]
  · simp [Piece.operand?, Call.column, parsed]
  · rw [Fragment.letters_name _ _ parsed, Fragment.values_name]
    exact writes_column passage marks begun starless

theorem writesOperand_bound {marks : Nat} {value : Value}
    (binds : passage.Binds marks [value]) :
    passage.WritesOperand marks (.bound value) (.value value) := by
  refine ⟨rfl, .operand (.value value), rfl, ?_⟩
  rw [Fragment.letters_bound, Fragment.values_bound]
  exact writes_placeholder (getElem?_of_binds binds)

/-- A sub-query between parentheses is one piece. -/
theorem writes_subquery {query : Query} {marks : Nat} (made : query.IsPlain)
    (compilable : query.fragment.IsCompilable)
    (binds : passage.Binds marks query.fragment.values) :
    (Fragment.group query.fragment).isSilent = false ∧
      ∃ inside : List Piece, Piece.areQuery inside = true ∧
        passage.Writes marks
          ((Fragment.group query.fragment).letters passage.dialect
            (passage.count + marks))
          (Fragment.group query.fragment).values.length
          [.enclosed
            (Call.subquery passage.dialect (passage.count + marks) query)
            inside (Piece.alternatives? inside)] := by
  have seen := Query.isSilent_fragment compilable
  refine ⟨by rw [Fragment.isSilent_group, seen], ?_⟩
  obtain ⟨inside, query, written⟩ := writes_query
    (Query.isQuery_fragment made compilable passage
      (passage.count + marks))
  refine ⟨inside, query, ?_⟩
  rw [slice_of_binds binds, Fragment.letters, String.ofList_toList] at written
  rw [Fragment.letters_group, seen, Fragment.values_group]
  exact written

theorem writesOperand_subquery {query : Query} {marks : Nat}
    (made : query.IsPlain) (compilable : query.fragment.IsCompilable)
    (binds : passage.Binds marks query.fragment.values) :
    passage.WritesOperand marks (.group query.fragment)
      (.query
        (Call.subquery passage.dialect (passage.count + marks)
          query)) := by
  obtain ⟨seen, inside, query, written⟩ := writes_subquery made compilable binds
  exact ⟨seen, _, by simp [Piece.operand?, Piece.query?, query], written⟩

/-- What parentheses around a fragment write. -/
theorem writes_group {marks : Nat} {inner : Fragment} {pieces : List Piece}
    (seen : inner.isSilent = false)
    (written : passage.Writes marks
      (inner.letters passage.dialect (passage.count + marks))
      inner.values.length pieces) :
    (Fragment.group inner).isSilent = false ∧
      ∃ text : Compiled,
        passage.Writes marks
          ((Fragment.group inner).letters passage.dialect
            (passage.count + marks))
          (Fragment.group inner).values.length
          [.enclosed text pieces (Piece.alternatives? pieces)] := by
  rw [Fragment.isSilent_group, Fragment.letters_group, seen,
    Fragment.values_group]
  exact ⟨rfl, _, writes_enclosed written⟩

/-- The pieces of a list after its first member. -/
def furtherMembers (values : List Value) : List Piece :=
  values.flatMap fun value => [.comma, .operand (.value value)]

theorem members?_values (first : Value) (values : List Value) :
    Piece.members? (.operand (.value first) :: furtherMembers values) =
      some ((first :: values).map .value) := by
  induction values generalizing first with
  | nil => rfl
  | cons second rest inductionHypothesis =>
      have tail := inductionHypothesis second
      simp only [furtherMembers, List.flatMap_cons, List.cons_append,
        List.nil_append] at tail ⊢
      rw [Piece.members?, tail]
      rfl

theorem writes_foldl_bound {marks : Nat} {values : List Value} :
    ∀ {start : Fragment} {pieces : List Piece}, start.isSilent = false →
      passage.Writes marks
        (start.letters passage.dialect (passage.count + marks))
        start.values.length pieces →
      passage.Binds (marks + start.values.length) values →
        let whole := (values.map .bound).foldl (.joined ", ") start
        whole.isSilent = false ∧
          passage.Writes marks
            (whole.letters passage.dialect (passage.count + marks))
            whole.values.length (pieces ++ furtherMembers values) := by
  induction values with
  | nil =>
      intro start pieces seen written _
      exact ⟨seen, by simpa [furtherMembers] using written⟩
  | cons value rest inductionHypothesis =>
      intro start pieces seen written binds
      obtain ⟨head, tail⟩ := binds_append_iff.mp
        (show passage.Binds _ ([value] ++ rest) from binds)
      have bound : (Fragment.bound value).isSilent = false := rfl
      have last : passage.Writes (marks + start.values.length)
          (passage.dialect.placeholder
            (passage.count + marks + start.values.length + 1)).toList 1
          [.operand (.value value)] := by
        have placed := writes_placeholder (getElem?_of_binds head)
        simpa [Nat.add_assoc] using placed
      have joinedSeen : (Fragment.joined ", " start (.bound value)).isSilent =
          false := by
        rw [Fragment.isSilent_joined, seen, Bool.false_and]
      have joined : passage.Writes marks
          ((Fragment.joined ", " start (.bound value)).letters
            passage.dialect (passage.count + marks))
          (Fragment.joined ", " start (.bound value)).values.length
          (pieces ++ [.comma, .operand (.value value)]) := by
        have both := writes_comma written last
        rw [Fragment.letters_joined_of_seen _ _ seen bound]
        simpa using both
      have whole := inductionHypothesis joinedSeen joined
        (by simpa [Nat.add_assoc] using tail)
      simpa [furtherMembers] using whole

/-- The values of a list between parentheses are one piece. -/
theorem writes_list {first : Value} {values : List Value} {marks : Nat}
    (binds : passage.Binds marks (first :: values)) :
    let list : Fragment :=
      .group (.join ", " ((first :: values).map .bound))
    list.isSilent = false ∧
      ∃ (text : Compiled) (inside : List Piece),
        Piece.areQuery inside = false ∧
          Piece.members? inside = some ((first :: values).map .value) ∧
          passage.Writes marks
            (list.letters passage.dialect (passage.count + marks))
            list.values.length
            [.enclosed text inside (Piece.alternatives? inside)] := by
  obtain ⟨head, tail⟩ := binds_append_iff.mp
    (show passage.Binds _ ([first] ++ values) from binds)
  have begun : passage.Writes marks
      ((Fragment.joined ", " .nothing (.bound first)).letters
        passage.dialect (passage.count + marks))
      (Fragment.joined ", " .nothing (.bound first)).values.length
      [.operand (.value first)] := by
    have placed := writes_placeholder (getElem?_of_binds head)
    have silent : Fragment.nothing.isSilent = true := rfl
    have bound : (Fragment.bound first).isSilent = false := rfl
    simpa [Fragment.letters_joined, silent, bound] using placed
  obtain ⟨seen, written⟩ :=
    writes_foldl_bound (by rfl) begun (by simpa using tail)
  obtain ⟨listSeen, text, listed⟩ := writes_group seen written
  exact ⟨listSeen, text, _, rfl, members?_values first values, listed⟩

/-! ## Terms -/

/-- A fragment that writes one term, when it stands after `marks`
placeholders. -/
def WritesTerm (passage : Passage) (marks : Nat) (fragment : Fragment)
    (term : Term) : Prop :=
  fragment.isSilent = false ∧
    ∃ pieces : List Piece, Piece.Whole pieces term ∧
      passage.Writes marks
        (fragment.letters passage.dialect (passage.count + marks))
        fragment.values.length pieces

/-- What an operator between two parts writes. -/
theorem writes_operator {marks : Nat} {left right : Fragment}
    {operator : String} {leftPieces words rightPieces : List Piece}
    (leftSeen : left.isSilent = false)
    (lefts : passage.Writes marks
      (left.letters passage.dialect (passage.count + marks))
      left.values.length leftPieces)
    (operators : passage.Writes (marks + left.values.length) operator.toList 0
      words)
    (rightSeen : right.isSilent = false)
    (rights : passage.Writes (marks + left.values.length)
      (right.letters passage.dialect
        (passage.count + (marks + left.values.length)))
      right.values.length rightPieces) :
    let whole : Fragment :=
      .joined " " (.joined "" left (.text (" " ++ operator))) right
    whole.isSilent = false ∧
      passage.Writes marks
        (whole.letters passage.dialect (passage.count + marks))
        whole.values.length (leftPieces ++ (words ++ rightPieces)) := by
  intro whole
  have followed := Fragment.isSilent_followed left operator
  refine ⟨by rw [Fragment.isSilent_joined, followed, Bool.false_and], ?_⟩
  have values : whole.values = left.values ++ right.values := by
    simp [whole]
  rw [values, Fragment.letters_joined_of_seen _ _ followed rightSeen,
    Fragment.letters_followed _ _ leftSeen, Fragment.values_followed,
    List.length_append]
  have written := writes_blank lefts (writes_blank operators rights)
  simpa [Nat.add_assoc] using written

theorem writesTerm_comparison {marks : Nat} {left right : Fragment}
    {leftOperand rightOperand : Operand} {operator : String}
    (lefts : passage.WritesOperand marks left leftOperand)
    (rights : passage.WritesOperand (marks + left.values.length) right
      rightOperand)
    (listed : operator ∈ comparisons) :
    passage.WritesTerm marks
      (.joined " " (.joined "" left (.text (" " ++ operator))) right)
      (.comparison leftOperand operator rightOperand) := by
  obtain ⟨leftSeen, leftPiece, leftHeld, leftWrites⟩ := lefts
  obtain ⟨rightSeen, rightPiece, rightHeld, rightWrites⟩ := rights
  obtain ⟨begun, inner, spelled⟩ := operatorWords_comparisons operator listed
  have operators :=
    writes_words passage (marks + left.values.length) inner begun
  rw [spelled] at operators
  obtain ⟨seen, written⟩ :=
    writes_operator leftSeen leftWrites operators rightSeen rightWrites
  exact ⟨seen, _, Piece.whole_comparison listed leftHeld rightHeld, written⟩

theorem writesTerm_nullTest {marks : Nat} {left : Fragment} {operand : Operand}
    (lefts : passage.WritesOperand marks left operand) (negated : Bool) :
    passage.WritesTerm marks
      (.joined "" left
        (.text (" " ++ if negated then "IS NOT NULL" else "IS NULL")))
      (.nullTest operand negated) := by
  obtain ⟨seen, piece, held, writes⟩ := lefts
  refine ⟨Fragment.isSilent_followed _ _, _,
    Piece.whole_nullTest held negated, ?_⟩
  have inner : (Piece.nullWords negated).all isInnerWord = true := by
    cases negated <;> decide
  have begun : Piece.nullWords negated ≠ [] := by
    cases negated <;> decide
  have spelled :
      " ".intercalate (Piece.nullWords negated) =
        if negated then "IS NOT NULL" else "IS NULL" := by
    cases negated <;> decide
  rw [Fragment.letters_followed _ _ seen, Fragment.values_followed, ← spelled]
  exact writes_blank writes (writes_words passage _ inner begun)

theorem writes_negated (passage : Passage) (marks : Nat) (negated : Bool)
    {operator : String} (inner : isInnerWord operator = true) :
    passage.Writes marks
      (if negated then "NOT " ++ operator else operator).toList 0
      ((Piece.negatedWords negated operator).map .word) := by
  have words :
      (Piece.negatedWords negated operator).all isInnerWord = true := by
    cases negated
    · simpa [Piece.negatedWords] using inner
    · have not : isInnerWord "NOT" = true := by decide
      simpa [Piece.negatedWords, not] using inner
  have begun : Piece.negatedWords negated operator ≠ [] := by
    cases negated <;> exact List.cons_ne_nil _ _
  have spelled :
      " ".intercalate (Piece.negatedWords negated operator) =
        if negated then "NOT " ++ operator else operator := by
    cases negated <;> simp [Piece.negatedWords]
  rw [← spelled]
  exact writes_words passage marks words begun

/-- IN between an operand and a list or a sub-query. -/
theorem writesTerm_membership {marks : Nat} {left right : Fragment}
    {operand : Operand} {negated : Bool} {text : Compiled}
    {inside : List Piece} {alternatives? : Option Alternatives} {term : Term}
    (lefts : passage.WritesOperand marks left operand)
    (rightSeen : right.isSilent = false)
    (rights : passage.Writes (marks + left.values.length)
      (right.letters passage.dialect
        (passage.count + (marks + left.values.length)))
      right.values.length [.enclosed text inside alternatives?])
    (members :
      Piece.membership? operand negated
          (.enclosed text inside alternatives?) =
        some term) :
    passage.WritesTerm marks
      (.joined " "
        (.joined "" left (.text (" " ++ if negated then "NOT IN" else "IN")))
        right)
      term := by
  obtain ⟨leftSeen, leftPiece, held, leftWrites⟩ := lefts
  obtain ⟨seen, written⟩ := writes_operator leftSeen leftWrites
    (writes_negated passage _ negated (show isInnerWord "IN" = true by decide))
    rightSeen rights
  exact ⟨seen, _, Piece.whole_membership held members, written⟩

theorem writesTerm_existence {query : Query} {marks : Nat}
    (made : query.IsPlain) (compilable : query.fragment.IsCompilable)
    (binds : passage.Binds marks query.fragment.values) (negated : Bool) :
    passage.WritesTerm marks
      (.joined " " (.text (if negated then "NOT EXISTS" else "EXISTS"))
        (.group query.fragment))
      (.existence negated
        (Call.subquery passage.dialect (passage.count + marks)
          query)) := by
  obtain ⟨groupSeen, inside, areQuery, group⟩ :=
    writes_subquery made compilable binds
  have textSeen :
      (Fragment.text (if negated then "NOT EXISTS" else "EXISTS")).isSilent =
        false :=
    Fragment.isSilent_text_of_ne (by cases negated <;> decide)
  have written := writes_blank
    (writes_negated passage marks negated
      (show isInnerWord "EXISTS" = true by decide))
    group
  refine ⟨by rw [Fragment.isSilent_joined, textSeen, Bool.false_and], ?_⟩
  rw [Fragment.letters_joined_of_seen _ _ textSeen groupSeen,
    Fragment.letters_text, Fragment.values_joined, Fragment.values_text]
  exact ⟨_, Piece.whole_existence negated areQuery, by simpa using written⟩

theorem writesTerm_between {path : String} {low high : Value} {marks : Nat}
    (compilable : (Fragment.name path).IsCompilable)
    (named : Call.namesColumn path = true)
    (binds : passage.Binds marks [low, high]) :
    passage.WritesTerm marks
      (.joined " " (.joined "" (.name path) (.text (" " ++ "BETWEEN")))
        (.joined " AND " (.bound low) (.bound high)))
      (.between (Call.column path) false (.value low) (.value high)) := by
  obtain ⟨lowBinds, highBinds⟩ := binds_append_iff.mp
    (show passage.Binds marks ([low] ++ [high]) from binds)
  have lefts : passage.WritesOperand marks (.name path) (Call.column path) :=
    writesOperand_name compilable named marks
  obtain ⟨leftSeen, leftPiece, held, left⟩ := lefts
  have and : passage.Writes (marks + 1) "AND".toList 0 [.word "AND"] :=
    writes_word passage _ (by decide) (by decide)
  have between : passage.Writes marks "BETWEEN".toList 0 [.word "BETWEEN"] :=
    writes_word passage _ (by decide) (by decide)
  have bounds :=
    writes_blank (writes_placeholder (getElem?_of_binds lowBinds))
      (writes_blank and (writes_placeholder (getElem?_of_binds highBinds)))
  have range : passage.Writes marks
      ((Fragment.joined " AND " (.bound low) (.bound high)).letters
        passage.dialect (passage.count + marks))
      (Fragment.joined " AND " (.bound low) (.bound high)).values.length
      [.operand (.value low), .word "AND", .operand (.value high)] := by
    rw [Fragment.letters_joined_of_seen _ _ rfl rfl]
    simpa [Nat.add_assoc] using bounds
  have place : marks + (Fragment.name path).values.length = marks := by
    rw [Fragment.values_name, List.length_nil, Nat.add_zero]
  rw [← place] at between range
  have rangeSeen :
      (Fragment.joined " AND " (.bound low) (.bound high)).isSilent = false :=
    rfl
  obtain ⟨seen, written⟩ :=
    writes_operator leftSeen left between rangeSeen range
  exact ⟨seen, _, Piece.whole_between held rfl rfl, written⟩

/-- The comparison of numbers that stands for the empty list. -/
theorem writesTerm_emptyList (passage : Passage) (marks : Nat)
    (negated : Bool) :
    passage.WritesTerm marks (.text (if negated then "1 = 1" else "1 = 0"))
      (.comparison (.number "1") "="
        (.number (if negated then "1" else "0"))) := by
  have one : passage.Writes marks "1".toList 0 [.operand (.number "1")] :=
    writes_number passage marks (by decide) (by decide)
  have equals : passage.Writes marks "=".toList 0 [.word "="] :=
    writes_word passage marks (by decide) (by decide)
  have other : passage.Writes marks
      (if negated then "1" else "0").toList 0
      [.operand (.number (if negated then "1" else "0"))] := by
    cases negated <;> exact writes_number passage marks (by decide) (by decide)
  have spelled :
      (if negated then "1 = 1" else "1 = 0").toList =
        "1".toList ++ ' ' :: ("=".toList ++
          ' ' :: (if negated then "1" else "0").toList) := by
    cases negated <;> rfl
  have held (digits : String) :
      (Piece.operand (.number digits)).operand? = some (.number digits) :=
    rfl
  refine ⟨Fragment.isSilent_text_of_ne (by cases negated <;> decide), _,
    Piece.whole_comparison (show "=" ∈ comparisons by decide) (held "1")
      (held (if negated then "1" else "0")), ?_⟩
  rw [Fragment.letters_text, Fragment.values_text, spelled]
  exact writes_blank one (writes_blank equals other)

/-- What is read between parentheses is one term of its own. -/
theorem writesTerm_nested {marks : Nat} {inner : Fragment}
    {pieces : List Piece} {alternatives : Alternatives}
    (seen : inner.isSilent = false)
    (written : passage.Writes marks
      (inner.letters passage.dialect (passage.count + marks))
      inner.values.length pieces)
    (reads : Piece.ReadsAs pieces alternatives) :
    passage.WritesTerm marks (.group inner) (.nested alternatives) := by
  obtain ⟨groupSeen, text, group⟩ := writes_group seen written
  rw [Piece.alternatives?_of_readsAs reads] at group
  exact ⟨groupSeen, _, Piece.whole_nested text pieces alternatives, group⟩

end Passage

end Grammar

end RecordQuery
