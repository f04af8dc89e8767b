import RecordQuery.Proofs.Fragment.Dialects
import RecordQuery.Proofs.Fragment.Letters
import RecordQuery.Proofs.Grammar.Writing
import RecordQuery.Proofs.Model.ContextOrder
import RecordQuery.Proofs.Model.Twins

/-!
# Queries between parentheses

The letters of a query that is made without raw SQL start with SELECT and stay
between the parentheses around them: names are in quotes, and what stands around
them is plain.
-/

namespace RecordQuery

namespace Fragment

variable (dialect : Dialect) (count : Nat)

/-! ## Fragments of names, values and plain text -/

/-- Whether all text of a fragment is plain and handed in without values. -/
def IsPlain : Fragment → Prop
  | .raw sql bindings => Text.isPlain sql = true ∧ bindings = []
  | .group inner => inner.IsPlain
  | .joined separator left right =>
      Text.isPlain separator = true ∧ left.IsPlain ∧ right.IsPlain
  | .led keyword body => Text.isPlain keyword = true ∧ body.IsPlain
  | .name _ | .bound _ | .unlimited | .refused _ => True

/-- Text that hands in no values and has no letters of a special meaning. -/
def IsPlainRaw (sql : String) (bindings : List Value) : Prop :=
  Text.isPlain sql = true ∧ bindings = []

/-- What is made without raw SQL but plain text is plain. -/
theorem isPlain_of_twins {fragment : Fragment}
    (twins : Fragment.Twins Eq IsPlainRaw fragment fragment) :
    fragment.IsPlain := by
  have congruence :
      Fragment.RawCongruence Eq (fun left _ => left.IsPlain) IsPlainRaw :=
    { name := fun _ => trivial
      text := fun _ plain => ⟨plain, rfl⟩
      bound := fun _ => trivial
      group := id
      joined := fun _ plain _ _ _ _ lefts rights => ⟨plain, lefts, rights⟩
      led := fun _ plain _ _ bodies => ⟨plain, bodies⟩
      unlimited := trivial
      refused := fun _ => trivial
      raw := fun _ _ _ allowed _ => allowed
      separated := fun _ allowed _ _ _ _ lefts rights =>
        ⟨allowed.1, lefts, rights⟩ }
  exact twins.related congruence fun _ _ same => congrArg Value.isNull same

theorem isPlain_foldl_joined {separator : String} {parts : List Fragment} :
    ∀ {start : Fragment},
      (parts.foldl (joined separator) start).IsPlain →
        start.IsPlain ∧ ∀ part ∈ parts, part.IsPlain := by
  induction parts with
  | nil =>
      intro start plain
      exact ⟨plain, fun part member => by cases member⟩
  | cons first rest inductionHypothesis =>
      intro start plain
      obtain ⟨⟨_, started, head⟩, tail⟩ := inductionHypothesis plain
      refine ⟨started, fun part member => ?_⟩
      rcases List.mem_cons.mp member with same | later
      · rw [same]
        exact head
      · exact tail part later

open Grammar

/-- Plain fragments stay between the parentheses around them. -/
theorem contained_letters {fragment : Fragment} (passage : Passage) :
    fragment.IsPlain → fragment.fault? = none → ∀ count : Nat,
      passage.Contained (fragment.letters passage.dialect count)
        fragment.values.length := by
  induction fragment with
  | name path =>
      intro _ faultless count
      cases parsed : Ident.parse path with
      | ok ident =>
          rw [letters_name _ _ parsed, values_name]
          exact Passage.contained_of_spelled
            (Passage.spelled_ident passage ident)
      | error fault => simp [fault?, parsed] at faultless
  | raw sql bindings =>
      intro plain _ count
      rw [plain.2]
      show passage.Contained ((text sql).letters _ count)
        (text sql).values.length
      rw [letters_text, values_text]
      exact Passage.contained_text plain.1
  | bound value =>
      intro _ _ count
      rw [letters_bound]
      exact Passage.contained_of_spelled
        (Passage.spelled_placeholder passage _)
  | group inner inductionHypothesis =>
      intro plain faultless count
      have inside := inductionHypothesis plain faultless count
      rw [letters_group, values_group]
      split
      · exact inside
      · exact Passage.contained_enclosed inside
  | joined separator left right leftHypothesis rightHypothesis =>
      intro plains faultless count
      obtain ⟨plain, leftPlain, rightPlain⟩ := plains
      have both : left.fault? = none ∧ right.fault? = none :=
        Option.or_eq_none_iff.mp faultless
      have lefts := leftHypothesis leftPlain both.1
      have rights := rightHypothesis rightPlain both.2
      rw [letters_joined, values_joined, List.length_append]
      split
      · next silent =>
          rw [values_of_isSilent silent]
          exact lefts count
      · split
        · next silent =>
            rw [values_of_isSilent silent, List.length_nil, Nat.zero_add]
            exact rights count
        · have between : passage.Contained separator.toList 0 :=
            Passage.contained_text plain
          have joined := Passage.contained_append (lefts count)
            (Passage.contained_append between
              (rights (count + left.values.length)))
          rwa [Nat.zero_add] at joined
  | led keyword body inductionHypothesis =>
      intro plains faultless count
      obtain ⟨plain, bodyPlain⟩ := plains
      have inside := inductionHypothesis bodyPlain faultless
      rw [letters_led, values_led]
      split
      · exact inside count
      · have blank : passage.Contained [' '] 0 :=
          Passage.contained_plain (by decide)
        have leading : passage.Contained keyword.toList 0 :=
          Passage.contained_text plain
        have led := Passage.contained_append leading
          (Passage.contained_append blank (inside count))
        simpa only [Nat.zero_add, List.singleton_append] using led
  | unlimited =>
      intro _ _ count
      have limit : Text.isPlain passage.dialect.limitAll = true := by
        cases passage.dialect <;> decide
      have text : passage.Contained passage.dialect.limitAll.toList 0 :=
        Passage.contained_text limit
      simpa [letters, items, Item.print, values, Item.values] using text
  | refused cause =>
      intro _ faultless
      cases faultless

/-! ## Queries -/

/-- What is joined to a query by a blank belongs to it. -/
theorem isQuery_joined {passage : Passage} {count : Nat}
    {left right : Fragment}
    (query : passage.IsQuery (left.letters passage.dialect count)
      left.values.length)
    (seen : left.isSilent = false) (plain : right.IsPlain)
    (compilable : right.IsCompilable) :
    passage.IsQuery ((joined " " left right).letters passage.dialect count)
      (joined " " left right).values.length := by
  have faultless := (isCompilable_iff_fault? right).mp compilable
  rw [values_joined, List.length_append]
  cases silent : right.isSilent with
  | true =>
      simpa [letters_joined, silent, values_of_isSilent silent] using query
  | false =>
      rw [letters_joined_of_seen _ _ seen silent]
      exact Passage.isQuery_blank query
        (contained_letters passage plain faultless _)

theorem isQuery_foldl_joined {passage : Passage} {count : Nat}
    {parts : List Fragment} :
    ∀ {start : Fragment},
      passage.IsQuery (start.letters passage.dialect count)
        start.values.length →
      start.isSilent = false →
      (∀ part ∈ parts, part.IsPlain ∧ part.IsCompilable) →
        passage.IsQuery
          ((parts.foldl (joined " ") start).letters passage.dialect count)
          (parts.foldl (joined " ") start).values.length := by
  induction parts with
  | nil => exact fun query _ _ => query
  | cons first rest inductionHypothesis =>
      intro start query seen each
      have head := each first (List.mem_cons_self ..)
      exact inductionHypothesis (isQuery_joined query seen head.1 head.2)
        (by rw [isSilent_joined, seen, Bool.false_and])
        fun part member => each part (List.mem_cons_of_mem first member)

end Fragment

/-- Whether a query is made, to any depth, without raw SQL but plain text. -/
def Query.IsPlain (query : Query) : Prop :=
  Fragment.Twins Eq Fragment.IsPlainRaw query.fragment query.fragment

open Grammar

theorem Query.isQuery_selectFragment {query : Query}
    (plain : query.selectFragment.IsPlain)
    (compilable : query.selectFragment.IsCompilable) (passage : Passage)
    (count : Nat) :
    passage.IsQuery (query.selectFragment.letters passage.dialect count)
      query.selectFragment.values.length := by
  obtain ⟨_, _, columnsPlain⟩ := plain
  have columns := ((Fragment.isCompilable_joined ..).mp compilable).2
  refine Fragment.isQuery_joined ?_ ?_ columnsPlain columns
  · have select : passage.IsQuery "SELECT".toList 0 := Or.inl ⟨rfl, rfl⟩
    rw [Fragment.letters_text, Fragment.values_text]
    split
    · have distinct : passage.Contained "DISTINCT".toList 0 :=
        Passage.contained_text (by decide)
      exact Passage.isQuery_blank select distinct
    · exact select
  · split
    · exact Fragment.isSilent_text_of_ne (by decide)
    · exact Fragment.isSilent_text_of_ne (by decide)

/-- The letters of a query without raw SQL. -/
theorem Query.isQuery_fragment {query : Query} (made : query.IsPlain)
    (compilable : query.fragment.IsCompilable) (passage : Passage)
    (count : Nat) :
    passage.IsQuery (query.fragment.letters passage.dialect count)
      query.fragment.values.length := by
  have plain := Fragment.isPlain_of_twins made
  have faultless := fault?_eq_none_of_isCompilable compilable
  obtain ⟨clauses, laidOut⟩ : ∃ clauses, query.fragment =
      .join " " (query.applyScopes.selectFragment :: clauses) := by
    rw [fragment, layout, faultless]
    exact ⟨_, rfl⟩
  rw [laidOut] at plain compilable ⊢
  have parts := (Fragment.isCompilable_join ..).mp compilable
  obtain ⟨_, plains⟩ := Fragment.isPlain_foldl_joined plain
  have select := isQuery_selectFragment (plains _ (List.mem_cons_self ..))
    (parts _ (List.mem_cons_self ..)) passage count
  have silent : Fragment.nothing.isSilent = true := rfl
  have seen := query.applyScopes.isSilent_selectFragment
  have opened :
      passage.IsQuery
        ((Fragment.joined " " .nothing
          query.applyScopes.selectFragment).letters passage.dialect count)
        (Fragment.joined " " .nothing
          query.applyScopes.selectFragment).values.length := by
    simpa [Fragment.letters_joined, silent, seen] using select
  have each : ∀ clause ∈ clauses, clause.IsPlain ∧ clause.IsCompilable :=
    fun clause member =>
      ⟨plains clause (List.mem_cons_of_mem _ member),
        parts clause (List.mem_cons_of_mem _ member)⟩
  have whole := Fragment.isQuery_foldl_joined opened
    (by rw [Fragment.isSilent_joined, seen, Bool.and_false]) each
  exact whole

end RecordQuery
