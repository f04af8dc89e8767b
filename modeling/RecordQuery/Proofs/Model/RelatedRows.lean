import RecordQuery.Proofs.Model.Correlation
import RecordQuery.Proofs.Model.Filters

/-!
# Which related rows keep a row

A filter by relationship keeps a row for which its sub-query finds a related
one.  The sub-query starts with the comparison of the join columns; what refines
it, and the scopes of the related model, are appended behind.  The first
alternative of the clause demands the comparison, and the clause makes sure of
it exactly when all that are opened later demand it too.
-/

namespace RecordQuery

/-- Alternatives stay in front when others are joined to the last of them by
AND, and the first demands no less. -/
theorem exists_cons_fuse {first : Prop} (demanded : first)
    (others right : List Prop) :
    ∃ first' others',
      fuse Or (first :: others) right = first' :: others' ∧ first' := by
  cases others with
  | nil =>
      cases right with
      | nil => exact ⟨first, [], rfl, demanded⟩
      | cons next later => exact ⟨_, later, rfl, Or.inl demanded⟩
  | cons next later => exact ⟨first, _, rfl, demanded⟩

theorem exists_fuse_singleton {first : Prop} (demanded : first)
    {right : List Prop} (single : right.length ≤ 1) :
    ∃ first', fuse Or [first] right = [first'] ∧ first' := by
  cases right with
  | nil => exact ⟨first, rfl, demanded⟩
  | cons next later =>
      obtain rfl : later = [] := by simpa using single
      exact ⟨_, rfl, Or.inl demanded⟩

namespace Conditions

variable {raw : RawReading} {atom : Fragment} {start : Predicate}

theorem demands_singleton (raw : RawReading) (atom : Fragment)
    (leading : start.link = .and) :
    (Conditions.fragment [start]).demands raw atom =
      start.fragment.demands raw atom := by
  have silent : Fragment.nothing.demands raw atom = [] := rfl
  have alone :
      Conditions.fragment [start] =
        .joined Link.and.keyword .nothing start.fragment := by
    rw [← leading]
    rfl
  rw [alone, Fragment.demands_and, silent, fuse]

/-- What the first condition demands, the first alternative does, whatever is
appended. -/
theorem exists_demands_cons (leading : start.link = .and)
    {first : Prop} (demanded : first)
    (starts : start.fragment.demands raw atom = [first])
    (appended : Conditions) :
    ∃ first' others,
      (Conditions.fragment (start :: appended)).demands raw atom =
        first' :: others ∧ first' := by
  induction appended using List.reverseRecOn with
  | nil =>
      rw [demands_singleton raw atom leading]
      exact ⟨first, [], starts, demanded⟩
  | append_singleton before last inductionHypothesis =>
      obtain ⟨first', others, before_, demanded'⟩ := inductionHypothesis
      rw [← List.cons_append, fragment_concat]
      cases last.link with
      | and =>
          rw [Fragment.demands_and, before_]
          exact exists_cons_fuse demanded' others _
      | or =>
          rw [Fragment.demands_or, before_]
          exact ⟨first', _, rfl, demanded'⟩

/-- Conditions that are appended by AND and read as one alternative at most
open no other. -/
theorem exists_demands_eq_singleton (leading : start.link = .and)
    {first : Prop} (demanded : first)
    (starts : start.fragment.demands raw atom = [first])
    {appended : Conditions}
    (conjoined : ∀ predicate ∈ appended,
      predicate.link = .and ∧
        (predicate.fragment.demands raw atom).length ≤ 1) :
    ∃ first',
      (Conditions.fragment (start :: appended)).demands raw atom =
        [first'] ∧ first' := by
  induction appended using List.reverseRecOn with
  | nil =>
      rw [demands_singleton raw atom leading]
      exact ⟨first, starts, demanded⟩
  | append_singleton before last inductionHypothesis =>
      obtain ⟨first', before_, demanded'⟩ := inductionHypothesis
        fun predicate member =>
          conjoined predicate (List.mem_append_left _ member)
      obtain ⟨linked, single⟩ :=
        conjoined last (List.mem_append_right _ (List.mem_singleton_self _))
      rw [← List.cons_append, fragment_concat, linked, Fragment.demands_and,
        before_]
      exact exists_fuse_singleton demanded' single

end Conditions

namespace RelationKeys

/-- The comparison of the join columns, as a sub-query makes it. -/
def correlation (keys : RelationKeys) : Predicate :=
  .columns .and keys.relatedKey "=" (keys.parentTable ++ "." ++ keys.parentKey)

/-- The comparison of the join columns is an atomic part. -/
theorem demands_correlation (raw : RawReading) (keys : RelationKeys) :
    keys.correlation.fragment.demands raw keys.correlation.fragment =
      [keys.correlation.fragment = keys.correlation.fragment] := by
  have spaced : (Fragment.text " =").isSilent = false :=
    Fragment.isSilent_text_of_ne (by decide)
  rw [correlation, Predicate.fragment_columns]
  exact Fragment.demands_self (by decide) (by decide) (by simp [spaced])

end RelationKeys

namespace ModelQuery

/-- The first alternative of a sub-query's conditions demands that the join
columns are equal.  The sub-query finds none but related rows exactly when all
others demand it as well, in particular when what was appended is linked by AND
and opens no alternative. -/
theorem ensures_correlation_iff (schema : Schema) (place : Nat)
    (before after : List ModelStep) (clause : Clause) (link : Link)
    (name : String) (refinement : List Step) (relation : Relation)
    (keys : RelationKeys)
    (declared : (schema.model place).relation? name = some relation)
    (resolved : relation.resolve schema (schema.model place) = .ok keys)
    (raw : RawReading) :
    let context := ((ofModel schema place).applyAll schema before).query.context
    let outer :=
      ((ofModel schema place).applyAll schema
        (before ++ .has clause link name refinement :: after)).query
    let atom := keys.correlation.fragment
    ∃ (sub : Query) (appended : Conditions) (first : Prop)
        (others : List Prop),
      (ModelStep.has clause link name refinement).subquery? schema
          (schema.model place) context = some sub ∧
        .existence link false sub.fragment ∈
          outer.applyScopes.conditions clause ∧
        sub.applyScopes.wheres = keys.correlation :: appended ∧
        sub.whereClause.demands raw atom = first :: others ∧
        first ∧
        (sub.whereClause.Ensures raw atom ↔ ∀ demand ∈ others, demand) ∧
        ((∀ predicate ∈ appended,
            predicate.link = .and ∧
              (predicate.fragment.demands raw atom).length ≤ 1) →
          sub.whereClause.Ensures raw atom) := by
  intro context outer atom
  have asked :=
    subquery?_of_resolve declared resolved clause link refinement context
  have member := mem_conditions_of_subquery? before after asked
  obtain ⟨appended, wheres⟩ :=
    exists_wheres_correlated keys (schema.model relation.related).scopes
      context refinement
  rw [← RelationKeys.correlation] at wheres
  have starts := keys.demands_correlation raw
  obtain ⟨first, others, demands, demanded⟩ :=
    Conditions.exists_demands_cons rfl rfl starts appended
  rw [← wheres, ← Query.whereClause] at demands
  refine ⟨_, appended, first, others, asked, member, wheres, demands,
    demanded, ?_, ?_⟩
  · rw [Fragment.ensures_iff, demands, List.forall_mem_cons]
    exact ⟨fun ensured => ensured.2.2,
      fun all => ⟨List.cons_ne_nil _ _, demanded, all⟩⟩
  · intro conjoined
    obtain ⟨only, single, onlyDemanded⟩ :=
      Conditions.exists_demands_eq_singleton rfl rfl starts conjoined
    rw [← wheres, ← Query.whereClause] at single
    rw [Fragment.ensures_iff, single, List.forall_mem_singleton]
    exact ⟨List.cons_ne_nil _ _, onlyDemanded⟩

/-! ## Foos with certain bars -/

def barKeys : RelationKeys :=
  ⟨"bar", .hasOne, "foos", "id", "bars", "foo_id"⟩

/-- Keeps the foos that have a bar under conditions. -/
def havingBar (conditions : Conditions) : ModelStep :=
  .has .where_ .and "bar" (conditions.map (.filter .where_))

set_option maxRecDepth 4000 in
/-- Between parentheses the two conditions are one alternative, and only bars
of the foo itself count. -/
theorem ensures_correlation_iff_grouped :
    (familyQuery [havingBar [.nested .and eitherOf]]).toSql .sqlite =
        .ok ⟨"SELECT \"foos\".* FROM \"foos\" " ++
          "WHERE EXISTS (SELECT \"bars\".* FROM \"bars\" " ++
          "WHERE \"foo_id\" = \"foos\".\"id\" " ++
          "AND (\"a\" = ? OR \"b\" = ?))", [.int 1, .int 2]⟩ ∧
      ∃ (relation : Relation) (sub : Query),
        (familySchema.model 0).relation? "bar" = some relation ∧
          relation.resolve familySchema (familySchema.model 0) =
            .ok barKeys ∧
          (havingBar [.nested .and eitherOf]).subquery? familySchema
            (familySchema.model 0) {} = some sub ∧
          sub.whereClause.Ensures oneRawPart
            barKeys.correlation.fragment := by
  refine ⟨rfl, ?_⟩
  obtain ⟨sub, appended, _, _, asked, _, wheres, _, _, _, ensured⟩ :=
    ensures_correlation_iff familySchema 0 [] [] .where_ .and "bar"
      [.filter .where_ (.nested .and eitherOf)] _ barKeys rfl rfl oneRawPart
  refine ⟨_, sub, rfl, rfl, asked, ensured ?_⟩
  cases asked
  cases wheres
  intro predicate member
  obtain rfl := List.mem_singleton.mp member
  exact ⟨rfl, Nat.le_refl 1⟩

/-- A comparison of columns is not one with a value. -/
theorem correlation_ne_compared {keys : RelationKeys} {column : Fragment}
    {value : Value} :
    keys.correlation.fragment ≠ .joined " " column (.bound value) := by
  rw [RelationKeys.correlation, Predicate.fragment_columns]
  intro same
  injection same with _ _ operand
  cases operand

set_option maxRecDepth 4000 in
/-- Without parentheses the second condition is an alternative of its own: a
bar of any foo keeps all of them. -/
theorem eitherOf_escapes_correlation :
    (familyQuery [havingBar eitherOf]).toSql .sqlite =
        .ok ⟨"SELECT \"foos\".* FROM \"foos\" " ++
          "WHERE EXISTS (SELECT \"bars\".* FROM \"bars\" " ++
          "WHERE \"foo_id\" = \"foos\".\"id\" " ++
          "AND \"a\" = ? OR \"b\" = ?)", [.int 1, .int 2]⟩ ∧
      ∃ (relation : Relation) (sub : Query),
        (familySchema.model 0).relation? "bar" = some relation ∧
          relation.resolve familySchema (familySchema.model 0) =
            .ok barKeys ∧
          (havingBar eitherOf).subquery? familySchema
            (familySchema.model 0) {} = some sub ∧
          ¬sub.whereClause.Ensures oneRawPart
            barKeys.correlation.fragment := by
  refine ⟨rfl, _, _, rfl, rfl, rfl, ?_⟩
  exact not_ensures_of_admits correlation_ne_compared
    (Or.inr ⟨_, List.mem_cons_of_mem _ List.mem_cons_self, rfl⟩)

end ModelQuery

end RecordQuery
