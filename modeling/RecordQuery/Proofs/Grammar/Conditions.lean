import RecordQuery.Proofs.Grammar.Operands

/-!
# What conditions write

A call that is proper writes the term that it stands for, or nothing, and a list
of them writes their alternatives.  Groups are lists between parentheses, so
that the two are proved together.
-/

namespace RecordQuery

/-! ## Predicates as they are compiled -/

namespace Predicate

theorem operator?_of_checked {predicate : Predicate} {word : String}
    (checked : predicate.checkedOperator = .ok (some word)) :
    predicate.operator? = some word := by
  unfold checkedOperator at checked
  cases given : predicate.operator? with
  | none =>
      rw [given] at checked
      cases checked
  | some operator =>
      rw [given] at checked
      simp only at checked
      split at checked
      · simp at checked
      · split at checked
        · exact Except.ok.inj checked
        · simp at checked

variable {link : Link} {column : Fragment} {operator : String}

theorem checkedOperator_of_isCompilable {operand? : Option Fragment}
    (compilable :
      (make link (some column) (some operator) operand?).fragment.IsCompilable) :
    (make link (some column) (some operator) operand?).checkedOperator =
      .ok (some (Call.written operator)) := by
  unfold fragment at compilable
  cases checked :
      (make link (some column) (some operator) operand?).checkedOperator with
  | error cause =>
      rw [checked] at compilable
      exact (Fragment.not_isCompilable_refused _ compilable).elim
  | ok operator? =>
      rw [checked] at compilable
      cases operator? with
      | none => exact (Fragment.not_isCompilable_refused _ compilable).elim
      | some word =>
          have same : some (Call.written operator) = some word :=
            operator?_of_checked checked
          rw [same]

theorem fragment_of_operand {operand : Fragment}
    (compilable :
      (make link (some column) (some operator)
        (some operand)).fragment.IsCompilable) :
    (make link (some column) (some operator) (some operand)).fragment =
        .joined " "
          (.joined "" column (.text (" " ++ Call.written operator))) operand ∧
      column.IsCompilable ∧ operand.IsCompilable := by
  have shape :
      (make link (some column) (some operator) (some operand)).fragment =
        .joined " "
          (.joined "" column (.text (" " ++ Call.written operator)))
          operand := by
    rw [fragment, checkedOperator_of_isCompilable compilable]
    rfl
  rw [shape] at compilable
  obtain ⟨started, operands⟩ := (Fragment.isCompilable_joined ..).mp compilable
  exact ⟨shape, ((Fragment.isCompilable_joined ..).mp started).1, operands⟩

/-- Which test a comparison with NULL becomes. -/
theorem nullTest?_eq {word test : String} (tested : nullTest? word = some test) :
    test = if word ≠ "=" ∧ word ≠ "IS" then "IS NOT NULL" else "IS NULL" := by
  unfold nullTest? at tested
  split at tested
  all_goals cases tested
  all_goals rfl

theorem fragment_of_null
    (compilable :
      (make link (some column) (some operator) none).fragment.IsCompilable) :
    (make link (some column) (some operator) none).fragment =
      .joined "" column
        (.text (" " ++
          if Call.written operator ≠ "=" ∧ Call.written operator ≠ "IS" then
            "IS NOT NULL"
          else "IS NULL")) := by
  have checked := checkedOperator_of_isCompilable compilable
  unfold fragment at compilable ⊢
  rw [checked] at compilable ⊢
  simp only [make] at compilable ⊢
  cases tested : nullTest? (Call.written operator) with
  | none =>
      rw [tested] at compilable
      exact (Fragment.not_isCompilable_refused _ compilable).elim
  | some test => rw [← nullTest?_eq tested]

end Predicate

namespace Grammar

namespace Passage

variable {passage : Passage}

/-! ## Comparisons with a value -/

/-- A comparison with a value that may be NULL. -/
theorem writesTerm_comparand {link : Link} {left : Fragment}
    {operand : Operand} {operator : String} {value : Value} {marks : Nat}
    (lefts : left.IsCompilable → passage.Binds marks left.values →
      passage.WritesOperand marks left operand)
    (compilable :
      (Predicate.make link (some left) (some operator)
        (Predicate.comparand? value)).fragment.IsCompilable)
    (proper : (value.isNull || Call.compares operator) = true)
    (binds : passage.Binds marks
      (Predicate.make link (some left) (some operator)
        (Predicate.comparand? value)).fragment.values) :
    passage.WritesTerm marks
      (Predicate.make link (some left) (some operator)
        (Predicate.comparand? value)).fragment
      (Call.comparison operand operator value) := by
  unfold Predicate.comparand? at compilable binds ⊢
  cases null : value.isNull with
  | true =>
      simp only [null, if_true] at compilable binds ⊢
      have shape := Predicate.fragment_of_null compilable
      rw [shape] at compilable binds ⊢
      rw [Fragment.values_followed] at binds
      have parts := (Fragment.isCompilable_joined ..).mp compilable
      have written := writesTerm_nullTest (lefts parts.1 binds)
        (decide
          (Call.written operator ≠ "=" ∧ Call.written operator ≠ "IS"))
      simpa [Call.comparison, null] using written
  | false =>
      simp only [null, Bool.false_eq_true, if_false] at compilable binds ⊢
      obtain ⟨shape, parsed, _⟩ := Predicate.fragment_of_operand compilable
      rw [shape] at binds ⊢
      rw [Fragment.values_joined, Fragment.values_followed,
        Fragment.values_bound] at binds
      obtain ⟨leftBinds, rightBinds⟩ := binds_append_iff.mp binds
      have listed : Call.written operator ∈ comparisons := by
        simpa [null, Call.compares] using proper
      have written := writesTerm_comparison (lefts parsed leftBinds)
        (writesOperand_bound rightBinds) listed
      simpa [Call.comparison, null] using written

/-! ## Lists of terms -/

/-- A predicate that writes one term with its link, or nothing. -/
def WritesTerms (passage : Passage) (marks : Nat) (predicate : Predicate)
    (terms : List (Link × Term)) : Prop :=
  terms = [] ∧ predicate.fragment.isSilent = true ∨
    ∃ term : Term, terms = [(predicate.link, term)] ∧
      passage.WritesTerm marks predicate.fragment term

/-- A fragment that writes alternatives, or nothing when there are none. -/
def WritesAlternatives (passage : Passage) (marks : Nat)
    (fragment : Fragment) (alternatives : Alternatives) : Prop :=
  alternatives = [] ∧ fragment.isSilent = true ∨
    fragment.isSilent = false ∧
      ∃ pieces : List Piece, Piece.ReadsAs pieces alternatives ∧
        passage.Writes marks
          (fragment.letters passage.dialect (passage.count + marks))
          fragment.values.length pieces

theorem writes_linkWord (passage : Passage) (marks : Nat) (link : Link) :
    passage.Writes marks (Piece.linkWord link).toList 0
      [.word (Piece.linkWord link)] := by
  cases link with
  | and => exact writes_word passage marks (by decide) (by decide)
  | or => exact writes_word passage marks (by decide) (by decide)

theorem writesAlternatives_joined {marks : Nat} {done : Fragment}
    {alternatives : Alternatives} {predicate : Predicate}
    {terms : List (Link × Term)}
    (before : passage.WritesAlternatives marks done alternatives)
    (next : passage.WritesTerms (marks + done.values.length) predicate
      terms) :
    passage.WritesAlternatives marks
      (.joined predicate.link.keyword done predicate.fragment)
      (terms.foldl (fun done next => Call.extend next.1 next.2 done)
        alternatives) := by
  rcases next with ⟨rfl, silent⟩ | ⟨term, rfl, seen, pieces, whole, written⟩
  · rcases before with ⟨rfl, doneSilent⟩ | ⟨doneSeen, pieces, reads, written⟩
    · apply Or.inl
      exact ⟨rfl, by rw [Fragment.isSilent_joined, silent, doneSilent]; rfl⟩
    · apply Or.inr
      refine ⟨by rw [Fragment.isSilent_joined, doneSeen]; rfl, pieces, reads,
        ?_⟩
      simpa [Fragment.letters_joined, silent,
        Fragment.values_of_isSilent silent] using written
  · apply Or.inr
    refine ⟨by rw [Fragment.isSilent_joined, seen, Bool.and_false], ?_⟩
    rcases before with ⟨rfl, doneSilent⟩ | ⟨doneSeen, earlier, reads, begun⟩
    · refine ⟨pieces, Piece.readsAs_of_whole whole, ?_⟩
      have fresh := Fragment.values_of_isSilent doneSilent
      simpa [Fragment.letters_joined, seen, doneSilent, fresh] using written
    · refine ⟨_, reads.extend whole predicate.link, ?_⟩
      have spaced :
          predicate.link.keyword.toList =
            ' ' :: ((Piece.linkWord predicate.link).toList ++ [' ']) := by
        cases predicate.link <;> rfl
      have joined := writes_blank begun
        (writes_blank (writes_linkWord passage _ predicate.link) written)
      rw [Fragment.letters_joined_of_seen _ _ doneSeen seen, spaced]
      simpa [Nat.add_assoc] using joined

end Passage

end Grammar

theorem Conditions.values_fragment (conditions : Conditions) :
    conditions.fragment.values =
      conditions.flatMap fun predicate => predicate.fragment.values := by
  have started :
      ∀ start : Fragment,
        (conditions.foldl
          (fun done predicate =>
            .joined predicate.link.keyword done predicate.fragment)
          start).values =
          start.values ++
            conditions.flatMap fun predicate => predicate.fragment.values := by
    induction conditions with
    | nil => simp
    | cons predicate rest inductionHypothesis =>
        intro start
        rw [List.foldl_cons, inductionHypothesis, Fragment.values_joined,
          List.flatMap_cons, List.append_assoc]
  rw [fragment, started, Fragment.values_nothing, List.nil_append]

/-! ## Calls -/

namespace Call

open Grammar

variable {passage : Passage} {marks : Nat}

theorem writesTerm_compare (link : Link) (path operator : String)
    (value : Value)
    (compilable :
      (Predicate.compare link path operator value).fragment.IsCompilable)
    (proper : (Call.compare link path operator value).isProper = true)
    (binds : passage.Binds marks
      (Predicate.compare link path operator value).fragment.values) :
    passage.WritesTerm marks
      (Predicate.compare link path operator value).fragment
      (comparison (column path) operator value) := by
  obtain ⟨named, compared⟩ := Bool.and_eq_true_iff.mp proper
  have lefts : (Fragment.name path).IsCompilable →
      passage.Binds marks (Fragment.name path).values →
        passage.WritesOperand marks (.name path) (column path) :=
    fun parsed _ => Passage.writesOperand_name parsed named marks
  exact Passage.writesTerm_comparand lefts compilable compared binds

theorem writesTerm_columns (passage : Passage) (marks : Nat) (link : Link)
    (path operator other : String)
    (compilable :
      (Predicate.columns link path operator other).fragment.IsCompilable)
    (proper : (Call.columns link path operator other).isProper = true) :
    passage.WritesTerm marks
      (Predicate.columns link path operator other).fragment
      (.comparison (column path) (written operator) (column other)) := by
  obtain ⟨lefts, otherNamed⟩ := Bool.and_eq_true_iff.mp proper
  obtain ⟨named, compared⟩ := Bool.and_eq_true_iff.mp lefts
  obtain ⟨shape, parsed, otherParsed⟩ :=
    Predicate.fragment_of_operand compilable
  have listed : written operator ∈ comparisons := by
    simpa [compares] using compared
  rw [Predicate.columns, shape]
  exact Passage.writesTerm_comparison
    (Passage.writesOperand_name parsed named marks)
    (Passage.writesOperand_name otherParsed otherNamed _) listed

theorem writesTerm_range (path : String) (low high : Value)
    (compilable : (Predicate.between path low high).fragment.IsCompilable)
    (proper : (Call.between path low high).isProper = true)
    (binds : passage.Binds marks
      (Predicate.between path low high).fragment.values) :
    passage.WritesTerm marks (Predicate.between path low high).fragment
      (.between (column path) false (.value low) (.value high)) := by
  have spelled : written "BETWEEN" = "BETWEEN" := by decide
  obtain ⟨shape, parsed, _⟩ := Predicate.fragment_of_operand compilable
  rw [spelled] at shape
  rw [Predicate.between, shape] at binds ⊢
  have bound : passage.Binds marks [low, high] := by
    simpa using binds
  exact Passage.writesTerm_between parsed proper bound

theorem written_membership (negated : Bool) :
    written (if negated then "NOT IN" else "IN") =
      if negated then "NOT IN" else "IN" := by
  cases negated <;> decide

theorem writesTerm_list (link : Link) (negated : Bool) (path : String)
    (values : List Value)
    (compilable :
      (Predicate.inList link negated path values).fragment.IsCompilable)
    (proper : (Call.inList link negated path values).isProper = true)
    (binds : passage.Binds marks
      (Predicate.inList link negated path values).fragment.values) :
    passage.WritesTerm marks
      (Predicate.inList link negated path values).fragment
      (membership negated (column path) values) := by
  cases values with
  | nil => exact Passage.writesTerm_emptyList passage marks negated
  | cons first rest =>
      have named : namesColumn path = true := proper
      have made :
          Predicate.inList link negated path (first :: rest) =
            .make link (some (.name path))
              (some (if negated then "NOT IN" else "IN"))
              (some (.group (.join ", " ((first :: rest).map .bound)))) :=
        rfl
      rw [made] at compilable binds ⊢
      obtain ⟨shape, parsed, _⟩ := Predicate.fragment_of_operand compilable
      rw [written_membership] at shape
      rw [shape] at binds ⊢
      have bound : passage.Binds
          (marks + (Fragment.name path).values.length) (first :: rest) := by
        simpa [List.flatMap_map] using binds
      obtain ⟨seen, text, inside, noQuery, members, list⟩ :=
        Passage.writes_list bound
      refine Passage.writesTerm_membership
        (Passage.writesOperand_name parsed named marks) seen list ?_
      simp [Piece.membership?, noQuery, members, membership]

theorem writesTerm_inQuery (negated : Bool) (path : String) {query : Query}
    (made : query.IsPlain)
    (compilable :
      (Predicate.inQuery negated path query.fragment).fragment.IsCompilable)
    (proper : (Call.inQuery negated path query).isProper = true)
    (binds : passage.Binds marks
      (Predicate.inQuery negated path query.fragment).fragment.values) :
    passage.WritesTerm marks
      (Predicate.inQuery negated path query.fragment).fragment
      (.inQuery (column path) negated
        (subquery passage.dialect (passage.count + marks) query)) := by
  obtain ⟨shape, parsed, group⟩ := Predicate.fragment_of_operand compilable
  rw [written_membership] at shape
  rw [Predicate.inQuery, shape] at binds ⊢
  have place : marks + (Fragment.name path).values.length = marks := by
    rw [Fragment.values_name, List.length_nil, Nat.add_zero]
  have bound : passage.Binds marks query.fragment.values := by
    simpa using binds
  have inside := (Fragment.isCompilable_group _).mp group
  obtain ⟨seen, pieces, areQuery, written⟩ :=
    Passage.writes_subquery made inside bound
  rw [← place] at written
  refine Passage.writesTerm_membership
    (Passage.writesOperand_name parsed proper marks) seen written ?_
  simp [Piece.membership?, areQuery]

theorem writesTerm_exists (link : Link) (negated : Bool) {query : Query}
    (made : query.IsPlain)
    (compilable :
      (Predicate.existence link negated query.fragment).fragment.IsCompilable)
    (binds : passage.Binds marks
      (Predicate.existence link negated query.fragment).fragment.values) :
    passage.WritesTerm marks
      (Predicate.existence link negated query.fragment).fragment
      (.existence negated
        (subquery passage.dialect (passage.count + marks) query)) := by
  have shape :
      (Predicate.existence link negated query.fragment).fragment =
        .joined " " (.text (if negated then "NOT EXISTS" else "EXISTS"))
          (.group query.fragment) := by
    cases negated <;> rfl
  rw [shape] at compilable binds ⊢
  have group := ((Fragment.isCompilable_joined ..).mp compilable).2
  have bound : passage.Binds marks query.fragment.values := by
    simpa using binds
  exact Passage.writesTerm_existence made
    ((Fragment.isCompilable_group _).mp group) bound negated

theorem writesTerm_compareQuery (link : Link) {query : Query}
    (operator : String) (value : Value) (made : query.IsPlain)
    (compilable :
      (Predicate.compareQuery link query.fragment operator
        value).fragment.IsCompilable)
    (proper : (Call.compareQuery link query operator value).isProper = true)
    (binds : passage.Binds marks
      (Predicate.compareQuery link query.fragment operator
        value).fragment.values) :
    passage.WritesTerm marks
      (Predicate.compareQuery link query.fragment operator value).fragment
      (comparison
        (.query (subquery passage.dialect (passage.count + marks) query))
        operator value) := by
  have lefts : (Fragment.group query.fragment).IsCompilable →
      passage.Binds marks (Fragment.group query.fragment).values →
        passage.WritesOperand marks (.group query.fragment)
          (.query
            (subquery passage.dialect (passage.count + marks) query)) := by
    intro group bound
    rw [Fragment.values_group] at bound
    exact Passage.writesOperand_subquery made
      ((Fragment.isCompilable_group _).mp group) bound
  exact Passage.writesTerm_comparand lefts compilable proper binds

theorem extend_ne_nil (link : Link) (term : Term)
    (alternatives : Alternatives) : extend link term alternatives ≠ [] := by
  unfold extend
  split
  · exact List.cons_ne_nil _ _
  · cases link <;> exact List.cons_ne_nil _ _
  · exact List.cons_ne_nil _ _

theorem alternation_eq_nil_iff {linked : List (Link × Term)} :
    alternation linked = [] ↔ linked = [] := by
  constructor
  · intro empty
    rcases List.eq_nil_or_concat' linked with none | ⟨front, last, rfl⟩
    · exact none
    · rw [alternation, List.foldl_concat] at empty
      exact (extend_ne_nil _ _ _ empty).elim
  · rintro rfl
    rfl

theorem terms_group (dialect : Dialect) (count : Nat) (link : Link)
    (calls : List Call) :
    (Call.group link calls).terms dialect count =
      if termsOf dialect count calls = [] then []
      else [(link, .nested (alternation (termsOf dialect count calls)))] := by
  rw [terms]
  split
  · next empty => rw [if_pos empty]
  · next some => rw [if_neg some]

theorem fragment_group (link : Link) (calls : List Call) :
    (Call.group link calls).predicate.fragment =
      .group (conditions calls).fragment :=
  rfl

/-- A group writes one term, or nothing if all that is in it writes nothing. -/
theorem writesTerms_group {calls : List Call} (link : Link)
    (inside : passage.WritesAlternatives marks (conditions calls).fragment
      (alternation
        (termsOf passage.dialect (passage.count + marks) calls))) :
    passage.WritesTerms marks (Call.group link calls).predicate
      ((Call.group link calls).terms passage.dialect
        (passage.count + marks)) := by
  rcases inside with ⟨empty, silent⟩ | ⟨seen, pieces, reads, written⟩
  · apply Or.inl
    rw [terms_group, if_pos (alternation_eq_nil_iff.mp empty), fragment_group,
      Fragment.isSilent_group]
    exact ⟨rfl, silent⟩
  · apply Or.inr
    refine ⟨_, ?_, Passage.writesTerm_nested seen written reads⟩
    have some :
        termsOf passage.dialect (passage.count + marks) calls ≠ [] := by
      intro none
      rw [none] at reads
      obtain ⟨_, _, _, _, absent, _⟩ := reads
      simp [alternation] at absent
    rw [terms_group, if_neg some]
    rfl

mutual

/-- A proper call writes the term that it stands for, or nothing. -/
theorem writesTerms {passage : Passage} (call : Call) (marks : Nat)
    (made : ∀ query ∈ call.queries, query.IsPlain)
    (compilable : call.predicate.fragment.IsCompilable)
    (proper : call.isProper = true)
    (binds : passage.Binds marks call.predicate.fragment.values) :
    passage.WritesTerms marks call.predicate
      (call.terms passage.dialect (passage.count + marks)) := by
  cases call with
  | compare link path operator value =>
      have term :=
        writesTerm_compare link path operator value compilable proper binds
      exact Or.inr ⟨_, rfl, term⟩
  | between path low high =>
      have term := writesTerm_range path low high compilable proper binds
      exact Or.inr ⟨_, rfl, term⟩
  | columns link path operator other =>
      have term :=
        writesTerm_columns passage marks link path operator other compilable
          proper
      exact Or.inr ⟨_, rfl, term⟩
  | inList link negated path values =>
      have term :=
        writesTerm_list link negated path values compilable proper binds
      refine Or.inr ⟨_, ?_, term⟩
      cases values <;> rfl
  | inQuery negated path query =>
      have plain := made query (List.mem_singleton_self _)
      have term := writesTerm_inQuery negated path plain compilable proper binds
      exact Or.inr ⟨_, rfl, term⟩
  | existence link negated query =>
      have plain := made query (List.mem_singleton_self _)
      have term := writesTerm_exists link negated plain compilable binds
      exact Or.inr ⟨_, rfl, term⟩
  | compareQuery link query operator value =>
      have plain := made query (List.mem_singleton_self _)
      have term :=
        writesTerm_compareQuery link operator value plain compilable proper
          binds
      exact Or.inr ⟨_, rfl, term⟩
  | group link calls =>
      have shape := fragment_group link calls
      rw [shape] at compilable binds
      rw [Fragment.values_group, Conditions.values_fragment] at binds
      have each := (Conditions.isCompilable_fragment _).mp
        ((Fragment.isCompilable_group _).mp compilable)
      -- The list of a group starts with nothing written before it.
      have inside := writesAlternatives calls marks .nothing []
        (Or.inl ⟨rfl, rfl⟩) made each proper binds
      exact writesTerms_group link inside

/-- Proper calls extend the alternatives that `done` writes by their terms. -/
theorem writesAlternatives {passage : Passage} (calls : List Call)
    (marks : Nat) (done : Fragment) (alternatives : Alternatives)
    (before : passage.WritesAlternatives marks done alternatives)
    (made : ∀ query ∈ queriesOf calls, query.IsPlain)
    (compilable :
      ∀ predicate ∈ conditions calls, predicate.fragment.IsCompilable)
    (proper : areProper calls = true)
    (binds : passage.Binds (marks + done.values.length)
      ((conditions calls).flatMap fun predicate =>
        predicate.fragment.values)) :
    passage.WritesAlternatives marks
      ((conditions calls).foldl
        (fun done predicate =>
          .joined predicate.link.keyword done predicate.fragment)
        done)
      ((termsOf passage.dialect
          (passage.count + (marks + done.values.length)) calls).foldl
        (fun done next => extend next.1 next.2 done) alternatives) := by
  cases calls with
  | nil => exact before
  | cons call rest =>
      obtain ⟨first, later⟩ := List.forall_mem_cons.mp compilable
      obtain ⟨firstProper, laterProper⟩ := Bool.and_eq_true_iff.mp proper
      obtain ⟨firstMade, laterMade⟩ := List.forall_mem_append.mp made
      obtain ⟨firstBinds, laterBinds⟩ := Passage.binds_append_iff.mp binds
      have next := writesTerms call (marks + done.values.length) firstMade first
        firstProper firstBinds
      have joined := Passage.writesAlternatives_joined before next
      have whole := writesAlternatives rest marks
        (.joined call.predicate.link.keyword done call.predicate.fragment) _
        joined laterMade later laterProper
        (by
          rw [Fragment.values_joined, List.length_append, ← Nat.add_assoc]
          exact laterBinds)
      rw [Fragment.values_joined, List.length_append, ← Nat.add_assoc,
        ← List.foldl_append] at whole
      simpa only [conditions, List.foldl_cons, termsOf, Nat.add_assoc] using
        whole

end

end Call

end RecordQuery
