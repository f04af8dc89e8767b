import RecordQuery.Instance.Load
import RecordQuery.Proofs.Query.Restriction
import RecordQuery.Proofs.Query.Scopes

/-!
# How far scopes and the search for a key restrict a query

A global scope appends its comparison behind what the caller asked for, and so
does the search for a primary key.  Neither puts the caller's conditions
between parentheses, so that the comparison is made sure of exactly when every
alternative that the caller opened demands it.
-/

namespace RecordQuery

namespace Context

theorem mem_filters_of_mem {predicate : Predicate} :
    ∀ {steps : List Step} (context : Context),
      .filter .where_ predicate ∈ steps → predicate ∈ context.filters steps
  | step :: rest, context, member => by
      rw [filters, List.mem_append]
      rcases List.mem_cons.mp member with rfl | later
      · exact Or.inl (List.mem_singleton_self predicate)
      · exact Or.inr (mem_filters_of_mem _ later)

theorem mem_scopeFilters_of_mem {predicate : Predicate} {scope : Scope}
    (appended : .filter .where_ predicate ∈ scope.steps) :
    ∀ {scopes : List Scope} (context : Context),
      scope ∈ scopes → predicate ∈ context.scopeFilters scopes
  | first :: rest, context, member => by
      rw [scopeFilters, List.mem_append]
      rcases List.mem_cons.mp member with rfl | later
      · exact Or.inl (mem_filters_of_mem context appended)
      · exact Or.inr (mem_scopeFilters_of_mem appended _ later)

end Context

namespace Query

def whereClause (query : Query) : Fragment :=
  query.applyScopes.wheres.fragment

def firstRow (query : Query) : Query :=
  { query with limit? := some 1 }

/-- A global scope that the query does not opt out of appends the predicates
of its steps. -/
theorem mem_globalFilters_of_mem {query : Query} {scope : Scope}
    {predicate : Predicate}
    (attached : scope ∈ query.scopes.globals)
    (notAll : query.scopes.suppressAll = false)
    (notThis : scope.name ∉ query.scopes.suppressed)
    (appended : .filter .where_ predicate ∈ scope.steps) :
    predicate ∈ query.globalFilters := by
  refine Context.mem_scopeFilters_of_mem appended _ ?_
  rw [List.mem_filter]
  exact ⟨attached, by simp [notAll, notThis]⟩

/-- A comparison in the WHERE clause of a query that compiles is demanded by
the alternative that it belongs to, and the clause makes sure of it exactly
when all the other alternatives demand it too. -/
theorem ensures_compare_iff {query : Query} {dialect : Dialect}
    {compiled : Compiled} {link : Link} {column operator : String}
    {value : Value} (raw : RawReading)
    (compiles : query.toSql dialect = .ok compiled)
    (member :
      Predicate.compare link column operator value ∈
        query.applyScopes.wheres) :
    (∃ demand ∈ query.whereClause.demands raw
        (Predicate.compare link column operator value).fragment, demand) ∧
      (query.whereClause.Ensures raw
          (Predicate.compare link column operator value).fragment ↔
        ∀ demand ∈ query.whereClause.demands raw
          (Predicate.compare link column operator value).fragment,
          demand) := by
  have own :
      ∃ demand ∈ query.whereClause.demands raw
        (Predicate.compare link column operator value).fragment, demand :=
    Conditions.exists_demand_of_mem
      (Predicate.exists_demand_compare
        (isCompilable_where_of_toSql compiles _ member))
      query.applyScopes.wheres member
  have present :
      query.whereClause.demands raw
        (Predicate.compare link column operator value).fragment ≠ [] := by
    obtain ⟨demand, demandMember, _⟩ := own
    exact List.ne_nil_of_mem demandMember
  refine ⟨own, ?_⟩
  rw [Fragment.ensures_iff]
  exact ⟨And.right, fun demanded => ⟨present, demanded⟩⟩

end Query

namespace ModelQuery

theorem byKey_eq_ok {schema : Schema} {typed keyed : ModelQuery}
    {key : Value} {column : String}
    (single :
      (schema.model typed.place).primaryKeyFor "find" = .ok column)
    (found : typed.byKey schema key = .ok keyed) :
    keyed =
      { typed with
        query := typed.query.addPredicate .where_
          (.compare .and
            ((schema.model typed.place).table ++ "." ++ column)
            "=" key) } := by
  simp only [byKey, single, Except.ok.injEq] at found
  exact found.symm

/-- What a global scope of a model query compares, and the key that is searched
for, restrict the rows exactly when every alternative of the WHERE clause
demands the comparison; the alternative that it ends always does. -/
theorem ensures_filter_iff (schema : Schema) (typed : ModelQuery)
    (dialect : Dialect) (raw : RawReading) :
    (∀ (compiled : Compiled) (column operator : String) (value : Value),
      typed.query.toSql dialect = .ok compiled →
      .compare .and column operator value ∈ typed.query.globalFilters →
        let atom := (Predicate.compare .and column operator value).fragment
        let demands := typed.query.whereClause.demands raw atom
        (∃ demand ∈ demands, demand) ∧
          (typed.query.whereClause.Ensures raw atom ↔
            ∀ demand ∈ demands, demand)) ∧
    (∀ (compiled : Compiled) (column : String) (key : Value)
        (keyed : ModelQuery),
      (schema.model typed.place).primaryKeyFor "find" = .ok column →
      typed.byKey schema key = .ok keyed →
      keyed.query.firstRow.toSql dialect = .ok compiled →
        let atom :=
          (Predicate.compare .and
            ((schema.model typed.place).table ++ "." ++ column)
            "=" key).fragment
        let clause := keyed.query.firstRow.whereClause
        (∃ demand ∈ clause.demands raw atom, demand) ∧
          (clause.Ensures raw atom ↔
            ∀ demand ∈ clause.demands raw atom, demand)) := by
  constructor
  · intro compiled column operator value compiles filtered
    refine Query.ensures_compare_iff raw compiles ?_
    rw [Query.wheres_applyScopes]
    exact List.mem_append_right _ filtered
  · intro compiled column key keyed single found compiles
    refine Query.ensures_compare_iff raw compiles ?_
    obtain rfl := byKey_eq_ok single found
    rw [Query.wheres_applyScopes]
    refine List.mem_append_left _ (List.mem_append_left _ ?_)
    exact List.mem_append_right _ (List.mem_singleton_self _)

/-! ## A tenant's rows -/

/-- Models whose only one keeps its rows apart by tenant. -/
def tenantSchema : Schema where
  models :=
    [{ name := "Foo"
       table := "foos"
       fields :=
         [{ name := "id"
            column := "id"
            type := .integer ⟨true, 64⟩
            primary := true }]
       scopes :=
         [⟨"tenant",
           [.filter .where_ (.compare .and "tenant_id" "=" (.int 7))]⟩] }]

def tenantQuery (conditions : Conditions) : ModelQuery :=
  (ofModel tenantSchema 0).applyAll tenantSchema
    (conditions.map fun predicate => .plain (.filter .where_ predicate))

def tenantSearch (conditions : Conditions) : ModelQuery :=
  tenantQuery
    (conditions ++ [.compare .and "foos.id" "=" (.int 5)])

def eitherOf : Conditions :=
  [.compare .and "a" "=" (.int 1), .compare .or "b" "=" (.int 2)]

/-- Raw SQL read as one part. -/
def oneRawPart : RawReading :=
  fun sql bindings => [[.raw sql bindings]]

set_option maxRecDepth 4000 in
/-- Between parentheses the two conditions are one alternative, and both the
tenant and the key are made sure of. -/
theorem ensures_filter_iff_grouped :
    (tenantQuery [.nested .and eitherOf]).query.toSql .sqlite =
        .ok ⟨"SELECT \"foos\".* FROM \"foos\" " ++
          "WHERE (\"a\" = ? OR \"b\" = ?) AND \"tenant_id\" = ?",
          [.int 1, .int 2, .int 7]⟩ ∧
      .compare .and "tenant_id" "=" (.int 7) ∈
        (tenantQuery [.nested .and eitherOf]).query.globalFilters ∧
      (tenantSchema.model 0).primaryKeyFor "find" = .ok "id" ∧
      (tenantQuery [.nested .and eitherOf]).byKey tenantSchema (.int 5) =
        .ok (tenantSearch [.nested .and eitherOf]) ∧
      (tenantQuery [.nested .and eitherOf]).query.whereClause.Ensures
        oneRawPart
        (Predicate.compare .and "tenant_id" "=" (.int 7)).fragment ∧
      (tenantSearch [.nested .and eitherOf]).query.firstRow.whereClause.Ensures
        oneRawPart
        (Predicate.compare .and "foos.id" "=" (.int 5)).fragment := by
  have attached :
      .compare .and "tenant_id" "=" (.int 7) ∈
        (tenantQuery [.nested .and eitherOf]).query.globalFilters :=
    Query.mem_globalFilters_of_mem List.mem_cons_self rfl
      List.not_mem_nil List.mem_cons_self
  have restricted :=
    ensures_filter_iff tenantSchema (tenantQuery [.nested .and eitherOf])
      .sqlite oneRawPart
  refine ⟨rfl, attached, rfl, rfl, ?_, ?_⟩
  · refine (restricted.1 _ "tenant_id" "=" (.int 7) rfl attached).2.mpr ?_
    intro demand member
    obtain rfl := List.mem_singleton.mp member
    exact Or.inr rfl
  · refine (restricted.2 _ "id" (.int 5) _ rfl rfl rfl).2.mpr ?_
    intro demand member
    obtain rfl := List.mem_singleton.mp member
    exact Or.inl (Or.inr rfl)

theorem comparison_ne {column other word word' : String}
    {value value' : Value} (apart : column ≠ other) :
    Fragment.joined " " (.joined "" (.name column) (.text word))
        (.bound value) ≠
      .joined " " (.joined "" (.name other) (.text word')) (.bound value') := by
  intro same
  injection same with _ left _
  injection left with _ columns _
  injection columns with spelled
  exact apart spelled

/-- Other parts than the one in question are enough for the clause. -/
theorem not_ensures_of_admits {raw : RawReading}
    {clause atom other : Fragment}
    (apart : atom ≠ other) (admitted : clause.Admits raw (· = other)) :
    ¬clause.Ensures raw atom := fun ensured =>
  apart (ensured (· = other) admitted)

set_option maxRecDepth 4000 in
/-- Without parentheses the first condition is an alternative of its own: it
lets rows of other tenants pass, and rows with other keys. -/
theorem eitherOf_escapes_filters :
    (tenantQuery eitherOf).query.toSql .sqlite =
        .ok ⟨"SELECT \"foos\".* FROM \"foos\" " ++
          "WHERE \"a\" = ? OR \"b\" = ? AND \"tenant_id\" = ?",
          [.int 1, .int 2, .int 7]⟩ ∧
      .compare .and "tenant_id" "=" (.int 7) ∈
        (tenantQuery eitherOf).query.globalFilters ∧
      ¬(tenantQuery eitherOf).query.whereClause.Ensures oneRawPart
        (Predicate.compare .and "tenant_id" "=" (.int 7)).fragment ∧
      (tenantQuery eitherOf).byKey tenantSchema (.int 5) =
        .ok (tenantSearch eitherOf) ∧
      (tenantSearch eitherOf).query.firstRow.toSql .sqlite =
        .ok ⟨"SELECT \"foos\".* FROM \"foos\" " ++
          "WHERE \"a\" = ? OR \"b\" = ? AND \"foos\".\"id\" = ? " ++
          "AND \"tenant_id\" = ? LIMIT 1",
          [.int 1, .int 2, .int 5, .int 7]⟩ ∧
      ¬(tenantSearch eitherOf).query.firstRow.whereClause.Ensures oneRawPart
        (Predicate.compare .and "foos.id" "=" (.int 5)).fragment := by
  refine ⟨rfl, ?_, ?_, rfl, rfl, ?_⟩
  · exact Query.mem_globalFilters_of_mem List.mem_cons_self rfl
      List.not_mem_nil List.mem_cons_self
  · exact not_ensures_of_admits (comparison_ne (by decide))
      (Or.inr ⟨_, List.mem_cons_self, rfl⟩)
  · exact not_ensures_of_admits (comparison_ne (by decide))
      (Or.inr ⟨_, List.mem_cons_self, rfl⟩)

end ModelQuery

end RecordQuery
