import RecordQuery.Proofs.Outcome
import RecordQuery.Query.Layout

/-!
# Which fragments compile

Whether a fragment compiles is seen from its parts: every path is an
identifier, raw text has a question mark for each of its values, and nothing in
it is refused.  Neither the dialect nor the placeholders taken before matter.
-/

namespace RecordQuery

/-- Whether no part of the fragment keeps it from being compiled. -/
def Fragment.IsCompilable : Fragment → Prop
  | .name path => ∃ ident, Ident.parse path = .ok ident
  | .raw sql bindings => bindings.length ≤ sql.toList.count '?'
  | .group inner => inner.IsCompilable
  | .joined _ left right => left.IsCompilable ∧ right.IsCompilable
  | .led _ body => body.IsCompilable
  | .bound _ | .unlimited => True
  | .refused _ => False

namespace Fragment

@[simp]
theorem isCompilable_name (path : String) :
    (name path).IsCompilable ↔ ∃ ident, Ident.parse path = .ok ident :=
  Iff.rfl

@[simp]
theorem isCompilable_raw (sql : String) (bindings : List Value) :
    (raw sql bindings).IsCompilable ↔
      bindings.length ≤ sql.toList.count '?' :=
  Iff.rfl

@[simp]
theorem isCompilable_bound (value : Value) : (bound value).IsCompilable :=
  trivial

@[simp]
theorem isCompilable_group (inner : Fragment) :
    (group inner).IsCompilable ↔ inner.IsCompilable :=
  Iff.rfl

@[simp]
theorem isCompilable_joined (separator : String) (left right : Fragment) :
    (joined separator left right).IsCompilable ↔
      left.IsCompilable ∧ right.IsCompilable :=
  Iff.rfl

@[simp]
theorem isCompilable_led (keyword : String) (body : Fragment) :
    (led keyword body).IsCompilable ↔ body.IsCompilable :=
  Iff.rfl

@[simp]
theorem isCompilable_unlimited : unlimited.IsCompilable :=
  trivial

@[simp]
theorem not_isCompilable_refused (cause : Error) :
    ¬(refused cause).IsCompilable :=
  id

end Fragment

-- The lemmas above are all that is said of a fragment that is not known.
attribute [irreducible] Fragment.IsCompilable

namespace Fragment

/-- What each constructor needs for a run that starts at `count`. -/
theorem returns_compile_iff (dialect : Dialect) (fragment : Fragment) :
    ∀ count : Nat,
      (∃ compiled after,
        Returns (fragment.compile dialect) count compiled after) ↔
        fragment.IsCompilable := by
  induction fragment with
  | name path =>
      intro count
      rw [compile, Ident.quote, isCompilable_name]
      cases Ident.parse path with
      | ok ident => simp
      | error fault => simp
  | raw sql bindings =>
      intro count
      have taken :
          min (sql.toList.count '?') bindings.length = bindings.length ↔
            bindings.length ≤ sql.toList.count '?' :=
        ⟨fun all => all ▸ Nat.min_le_left _ _, Nat.min_eq_right⟩
      rw [compile, compileRaw, isCompilable_raw, ← taken]
      simp only [Returns.bind_iff, Returns.get_iff, Returns.set_iff]
      by_cases all :
          min (sql.toList.count '?') bindings.length = bindings.length
      · simp [all]
      · simp [all]
  | bound value =>
      intro count
      rw [compile]
      simp [Returns.bind_iff, Returns.map_iff, Compiler.placeholder]
  | group inner inductionHypothesis =>
      intro count
      rw [compile, isCompilable_group, ← inductionHypothesis count]
      simpa using Returns.exists_map_iff
  | joined separator left right leftHypothesis rightHypothesis =>
      intro count
      rw [compile, isCompilable_joined, ← leftHypothesis count]
      simp only [Returns.bind_iff, Returns.pure_iff]
      constructor
      · rintro ⟨_, _, done, between, leftRun, next, last, rightRun, _⟩
        exact ⟨⟨done, between, leftRun⟩,
          (rightHypothesis between).mp ⟨next, last, rightRun⟩⟩
      · rintro ⟨⟨done, between, leftRun⟩, rightCompilable⟩
        obtain ⟨next, last, rightRun⟩ :=
          (rightHypothesis between).mpr rightCompilable
        exact ⟨_, _, done, between, leftRun, next, last, rightRun, rfl, rfl⟩
  | led keyword body inductionHypothesis =>
      intro count
      rw [compile, isCompilable_led, ← inductionHypothesis count]
      simpa using Returns.exists_map_iff
  | unlimited =>
      intro count
      simp [compile]
  | refused cause =>
      intro count
      simp [compile]

theorem exists_toSql_iff (dialect : Dialect) (fragment : Fragment) :
    (∃ compiled, fragment.toSql dialect = .ok compiled) ↔
      fragment.IsCompilable := by
  rw [← returns_compile_iff dialect fragment 0]
  constructor
  · rintro ⟨compiled, outcome⟩
    exact ⟨compiled, _, Prod.ext outcome rfl⟩
  · rintro ⟨compiled, after, returned⟩
    exact ⟨compiled, congrArg Prod.fst returned⟩

theorem isCompilable_foldl_joined (separator : String)
    (parts : List Fragment) :
    ∀ start : Fragment,
      (parts.foldl (.joined separator) start).IsCompilable ↔
        start.IsCompilable ∧ ∀ part ∈ parts, part.IsCompilable := by
  induction parts with
  | nil => simp
  | cons part rest inductionHypothesis =>
      intro start
      rw [List.foldl_cons, inductionHypothesis, isCompilable_joined,
        List.forall_mem_cons, and_assoc]

@[simp]
theorem isCompilable_text (sql : String) : (text sql).IsCompilable := by
  simp [text]

@[simp]
theorem isCompilable_nothing : nothing.IsCompilable :=
  isCompilable_text ""

@[simp]
theorem isCompilable_join (separator : String) (parts : List Fragment) :
    (join separator parts).IsCompilable ↔
      ∀ part ∈ parts, part.IsCompilable := by
  rw [join, isCompilable_foldl_joined]
  simp

end Fragment

@[simp]
theorem Conditions.isCompilable_fragment (conditions : Conditions) :
    conditions.fragment.IsCompilable ↔
      ∀ predicate ∈ conditions, predicate.fragment.IsCompilable := by
  have started :
      ∀ start : Fragment,
        (conditions.foldl
          (fun done predicate =>
            .joined predicate.link.keyword done predicate.fragment)
          start).IsCompilable ↔
          start.IsCompilable ∧
            ∀ predicate ∈ conditions, predicate.fragment.IsCompilable := by
    induction conditions with
    | nil => simp
    | cons predicate rest inductionHypothesis =>
        intro start
        rw [List.foldl_cons, inductionHypothesis,
          Fragment.isCompilable_joined, List.forall_mem_cons, and_assoc]
  rw [fragment, started]
  simp

theorem Predicate.fragment_existence (link : Link) (query : Fragment) :
    (existence link false query).fragment =
      .joined " " (.text "EXISTS") (.group query) :=
  rfl

namespace Query

theorem fault?_eq_none_of_isCompilable {query : Query}
    (compilable : query.layout.IsCompilable) :
    query.fault? = none := by
  rw [layout] at compilable
  cases faulty : query.fault? with
  | none => rfl
  | some fault =>
      rw [faulty] at compilable
      exact (Fragment.not_isCompilable_refused fault compilable).elim

theorem isCompilable_layout_iff {query : Query}
    (faultless : query.fault? = none) :
    query.layout.IsCompilable ↔
      query.selectFragment.IsCompilable ∧
        ((query.source?.map Source.fragment).getD .nothing).IsCompilable ∧
        (∀ join ∈ query.joins, join.fragment.IsCompilable) ∧
        query.wheres.fragment.IsCompilable ∧
        (listed "GROUP BY" query.groupBy).IsCompilable ∧
        query.havings.fragment.IsCompilable ∧
        (listed "ORDER BY"
          (query.orderBy.map SortKey.fragment)).IsCompilable ∧
        query.limitFragment.IsCompilable := by
  rw [layout, faultless]
  simp

theorem isCompilable_where_of_toSql {query : Query} {dialect : Dialect}
    {compiled : Compiled}
    (compiles : query.toSql dialect = .ok compiled) :
    ∀ predicate ∈ query.applyScopes.wheres,
      predicate.fragment.IsCompilable := by
  have compilable : query.applyScopes.layout.IsCompilable :=
    (Fragment.exists_toSql_iff dialect _).mp ⟨compiled, compiles⟩
  have clauses :=
    (isCompilable_layout_iff
      (fault?_eq_none_of_isCompilable compilable)).mp compilable
  exact (Conditions.isCompilable_fragment _).mp clauses.2.2.2.1

end Query

end RecordQuery
