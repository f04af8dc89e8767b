import RecordQuery.Proofs.Model.ContextOrder
import RecordQuery.Proofs.Query.Naming

/-!
# The row that a filter by relationship stands at

The sub-query of a filter by relationship compares a column of the related
table with one of the model's table, which it calls by the name that the model
declares.  What the outer query selects from may be called otherwise, and the
sub-query may have a source of that name itself.  The comparison is with the
row that the outer query stands at exactly when neither is so.
-/

namespace RecordQuery

namespace Query

theorem mem_conditions_addPredicate {query : Query} {clause : Clause}
    {predicate : Predicate} (added : Clause) (other : Predicate)
    (member : predicate ∈ query.conditions clause) :
    predicate ∈ (query.addPredicate added other).conditions clause := by
  cases clause <;> cases added
  · exact List.mem_append_left _ member
  · exact member
  · exact member
  · exact List.mem_append_left _ member

/-- Building takes no condition away. -/
theorem mem_conditions_apply {query : Query} {clause : Clause}
    {predicate : Predicate} (step : Step)
    (member : predicate ∈ query.conditions clause) :
    predicate ∈ (step.apply query).conditions clause := by
  cases clause with
  | where_ =>
      rw [conditions, step.wheres_apply]
      exact List.mem_append_left _ member
  | having =>
      rw [conditions, step.havings_apply]
      exact List.mem_append_left _ member

theorem mem_conditions_applyAll {clause : Clause} {predicate : Predicate}
    (steps : List Step) :
    ∀ {query : Query}, predicate ∈ query.conditions clause →
      predicate ∈ (query.applyAll steps).conditions clause := by
  induction steps with
  | nil => exact id
  | cons step rest inductionHypothesis =>
      intro query member
      exact inductionHypothesis (mem_conditions_apply step member)

theorem mem_conditions_applyScopes {query : Query} {clause : Clause}
    {predicate : Predicate} (member : predicate ∈ query.conditions clause) :
    predicate ∈ query.applyScopes.conditions clause := by
  have unscoped :
      predicate ∈ { query with scopes := {} }.conditions clause := by
    cases clause <;> exact member
  rw [applyScopes_eq_applyAll]
  exact mem_conditions_applyAll _ unscoped

theorem isCompilable_of_mem_conditions {query : Query} (clause : Clause)
    {predicate : Predicate} (compilable : query.fragment.IsCompilable)
    (member : predicate ∈ query.applyScopes.conditions clause) :
    predicate.fragment.IsCompilable := by
  obtain ⟨_, _, _, wheres, _, havings, _⟩ :=
    (isCompilable_layout_iff
      (fault?_eq_none_of_isCompilable compilable)).mp compilable
  cases clause with
  | where_ => exact (Conditions.isCompilable_fragment _).mp wheres _ member
  | having => exact (Conditions.isCompilable_fragment _).mp havings _ member

end Query

theorem Predicate.fragment_columns (link : Link) (column other : String) :
    (columns link column "=" other).fragment =
      .joined " " (.joined "" (.name column) (.text " =")) (.name other) :=
  rfl

namespace ModelQuery

variable {schema : Schema}

theorem mem_conditions_apply {typed : ModelQuery} {clause : Clause}
    {predicate : Predicate} (step : ModelStep)
    (member : predicate ∈ typed.query.conditions clause) :
    predicate ∈ (typed.apply schema step).query.conditions clause := by
  have faulted :
      ∀ fault : Error,
        predicate ∈ (typed.query.withFault fault).conditions clause := by
    intro fault
    cases clause <;> exact member
  cases step with
  | plain step => exact Query.mem_conditions_apply step member
  | unknownRelation policy => exact member
  | load path => exact member
  | has added link name refinement =>
      simp only [apply, has]
      split
      · split
        · exact member
        · exact faulted _
      · split
        · exact faulted _
        · exact Query.mem_conditions_addPredicate _ _ member

theorem mem_conditions_applyAll {clause : Clause} {predicate : Predicate}
    (steps : List ModelStep) :
    ∀ {typed : ModelQuery}, predicate ∈ typed.query.conditions clause →
      predicate ∈ (typed.applyAll schema steps).query.conditions clause := by
  induction steps with
  | nil => exact id
  | cons step rest inductionHypothesis =>
      intro typed member
      exact inductionHypothesis (mem_conditions_apply step member)

theorem place_applyAll (steps : List ModelStep) :
    ∀ typed : ModelQuery,
      (typed.applyAll schema steps).place = typed.place := by
  induction steps with
  | nil =>
      intro typed
      rfl
  | cons step rest inductionHypothesis =>
      intro typed
      have later := inductionHypothesis (typed.apply schema step)
      rw [place_apply] at later
      exact later

/-! ## The sub-query of a filter by relationship -/

section Filter

variable {place : Nat} {name : String} {relation : Relation}
variable {keys : RelationKeys}

theorem subquery?_of_resolve
    (declared : (schema.model place).relation? name = some relation)
    (resolved : relation.resolve schema (schema.model place) = .ok keys)
    (clause : Clause) (link : Link) (refinement : List Step)
    (context : Context) :
    (ModelStep.has clause link name refinement).subquery? schema
        (schema.model place) context =
      some
        ({ keys.correlated (schema.model relation.related).scopes with
          context }.applyAll refinement) := by
  simp [ModelStep.subquery?, declared, Relation.subquery, resolved, Except.map]

/-- The sub-query of a filter by relationship stays among the conditions of the
outer query, whatever is built before and after. -/
theorem mem_conditions_of_subquery? {clause : Clause} {link : Link}
    {refinement : List Step} (before after : List ModelStep) {sub : Query}
    (asked :
      (ModelStep.has clause link name refinement).subquery? schema
        (schema.model place)
        ((ofModel schema place).applyAll schema before).query.context =
          some sub) :
    .existence link false sub.fragment ∈
      (((ofModel schema place).applyAll schema
        (before ++ .has clause link name refinement :: after)).query
          ).applyScopes.conditions clause := by
  have samePlace :
      ((ofModel schema place).applyAll schema before).place = place :=
    place_applyAll before (ofModel schema place)
  have divided :
      (ofModel schema place).applyAll schema
          (before ++ .has clause link name refinement :: after) =
        (((ofModel schema place).applyAll schema before).apply schema
          (.has clause link name refinement)).applyAll schema after := by
    rw [applyAll, List.foldl_append]
    rfl
  generalize (ofModel schema place).applyAll schema before = built at *
  subst samePlace
  rw [divided, apply_has_of_some asked]
  refine Query.mem_conditions_applyScopes
    (mem_conditions_applyAll after ?_)
  cases clause <;> exact List.mem_append_right _ (List.mem_singleton_self _)

/-- The first condition of the sub-query is the one on the join columns. -/
theorem exists_wheres_correlated (keys : RelationKeys)
    (scopes : List Scope) (context : Context) (refinement : List Step) :
    ∃ rest : Conditions,
      ({ keys.correlated scopes with
          context }.applyAll refinement).applyScopes.wheres =
        .columns .and keys.relatedKey "="
            (keys.parentTable ++ "." ++ keys.parentKey) :: rest := by
  rw [Query.wheres_applyScopes, Query.wheres_applyAll]
  exact ⟨_, rfl⟩

/-- The column that the sub-query is compared with, as the sub-query writes
it. -/
theorem exists_parse_of_subquery? {clause : Clause} {link : Link}
    {refinement : List Step} {before after : List ModelStep} {sub : Query}
    (asked :
      (ModelStep.has clause link name refinement).subquery? schema
        (schema.model place)
        ((ofModel schema place).applyAll schema before).query.context =
          some sub)
    (compilable :
      ((ofModel schema place).applyAll schema
        (before ++ .has clause link name refinement ::
          after)).query.fragment.IsCompilable) :
    sub.fragment.IsCompilable ∧
      ∀ (column other : String),
        .columns .and column "=" other ∈ sub.applyScopes.wheres →
          ∃ written, Ident.parse other = .ok written := by
  have filtered :=
    Query.isCompilable_of_mem_conditions clause compilable
      (mem_conditions_of_subquery? before after asked)
  rw [Predicate.fragment_existence] at filtered
  have inner : sub.fragment.IsCompilable := by simpa using filtered
  refine ⟨inner, fun column other member => ?_⟩
  have compared :=
    Query.isCompilable_of_mem_conditions .where_ inner member
  rw [Predicate.fragment_columns] at compared
  simp only [Fragment.isCompilable_joined, Fragment.isCompilable_name] at compared
  exact compared.2

/-- The related rows of a filter by relationship are compared with a column
whose qualifier stands for what the outer query selects from exactly when no
source of the sub-query is addressed by the table name of the model and, of the
outer sources, that one alone is. -/
theorem resolve?_correlated_iff (schema : Schema) (place : Nat)
    (before after : List ModelStep) (clause : Clause) (link : Link)
    (name : String) (refinement : List Step) (relation : Relation)
    (keys : RelationKeys)
    (declared : (schema.model place).relation? name = some relation)
    (resolved : relation.resolve schema (schema.model place) = .ok keys)
    (dialect : Dialect) (compiled : Compiled)
    (compiles :
      ((ofModel schema place).applyAll schema
        (before ++ .has clause link name refinement ::
          after)).query.toSql dialect = .ok compiled)
    (fold : String → String) :
    let outer :=
      ((ofModel schema place).applyAll schema
        (before ++ .has clause link name refinement :: after)).query.applyScopes
    let context := ((ofModel schema place).applyAll schema before).query.context
    let column := keys.parentTable ++ "." ++ keys.parentKey
    ∃ (sub : Query) (rest : Conditions) (written : Ident),
      (ModelStep.has clause link name refinement).subquery? schema
          (schema.model place) context = some sub ∧
        .existence link false sub.fragment ∈ outer.conditions clause ∧
        sub.applyScopes.wheres =
          .columns .and keys.relatedKey "=" column :: rest ∧
        Ident.parse column = .ok written ∧
        (resolve? fold written.parts.dropLast
              [sub.applyScopes.sources, outer.sources] = some (1, 0) ↔
          (∀ source ∈ sub.applyScopes.sources,
            source.isNamed fold written.parts.dropLast = false) ∧
          (Source.clause outer.source?).isNamed fold
            written.parts.dropLast = true ∧
          ∀ join ∈ outer.joins,
            (tableFragment join.table).isNamed fold
              written.parts.dropLast = false) := by
  intro outer context column
  have compilable :=
    (Fragment.exists_toSql_iff dialect _).mp ⟨compiled, compiles⟩
  have asked := subquery?_of_resolve declared resolved clause link refinement context
  have member := mem_conditions_of_subquery? before after asked
  obtain ⟨rest, first⟩ :=
    exists_wheres_correlated keys
      (schema.model relation.related).scopes context refinement
  obtain ⟨written, parsed⟩ :=
    (exists_parse_of_subquery? asked compilable).2 keys.relatedKey column
      (first ▸ List.mem_cons_self)
  refine ⟨_, rest, written, asked, member, first, parsed, ?_⟩
  rw [Query.sources, Query.sources, resolve?_outer_iff, List.forall_mem_map]

/-- In a model that is related to itself the comparison never reaches the outer
query: what the sub-query selects from has the name first. -/
theorem resolve?_selfRelation {fold : String → String} {sub : Query}
    {outer : List Fragment} {column : Ident.Part} {written : Ident}
    (compilable : sub.fragment.IsCompilable)
    (kept : sub.applyScopes.source? = some (.table keys.parentTable))
    (plain : tableFragment keys.parentTable = .name keys.parentTable)
    (single : Ident.parse keys.parentKey = .ok ⟨[column]⟩)
    (parsed :
      Ident.parse (keys.parentTable ++ "." ++ keys.parentKey) = .ok written) :
    ∀ found ∈ resolve? fold written.parts.dropLast
        [sub.applyScopes.sources, outer],
      found.1 = 0 := by
  have faultless := Query.fault?_eq_none_of_isCompilable compilable
  have source :
      (Source.clause sub.applyScopes.source?).IsCompilable :=
    ((Query.isCompilable_layout_iff faultless).mp compilable).2.1
  obtain ⟨path, table⟩ : ∃ path, Ident.parse keys.parentTable = .ok path := by
    rw [kept] at source
    have laidOut :
        Source.clause (some (.table keys.parentTable)) =
          .joined "" (.text "FROM ") (.name keys.parentTable) :=
      congrArg (Fragment.joined "" (.text "FROM ")) plain
    rw [laidOut] at source
    simpa using source
  have qualifier : written.parts.dropLast = path.parts :=
    Ident.dropLast_parse_append_dot table single parsed
  have named :
      (Source.clause sub.applyScopes.source?).isNamed fold
        written.parts.dropLast = true := by
    rw [kept, Fragment.isNamed, Source.address_clause plain table, qualifier]
    exact Ident.isEndOf_self fold (Ident.parts_ne_nil_of_parse table)
  exact resolve?_inside [outer] List.mem_cons_self named

end Filter

/-! ## Parents and children -/

/-- Foos that have bars and, as their children, foos. -/
def familySchema : Schema where
  models :=
    [{ name := "Foo"
       table := "foos"
       fields :=
         [{ name := "id"
            column := "id"
            type := .integer ⟨true, 64⟩
            primary := true },
           { name := "parent_id"
             column := "parent_id"
             type := .integer ⟨true, 64⟩ }]
       relations :=
         [{ name := "bar", kind := .hasOne, related := 1 },
           { name := "children"
             kind := .hasMany
             related := 0
             foreignKey? := some "parent_id" }] },
     { name := "Bar"
       table := "bars"
       fields :=
         [{ name := "foo_id"
            column := "foo_id"
            type := .integer ⟨true, 64⟩ }] }]

def familyQuery (steps : List ModelStep) : Query :=
  ((ofModel familySchema 0).applyAll familySchema steps).query

/-- Selects foos, under whatever name, and joins bars as another name. -/
def joinedBars (reference : String) : List ModelStep :=
  [.plain (.fromSource (.table reference)),
    .plain (.join
      ⟨.inner, "bars AS b", [.columns .and "b.id" "=" "bar_id"]⟩)]

/-- The sub-query of a filter without refinement. -/
def relatedRows (clause : Clause) (name : String) : Option Query :=
  (ModelStep.has clause .and name []).subquery? familySchema
    (familySchema.model 0) {}

set_option maxRecDepth 4000 in
/-- A schema in front of the table leaves it its name, and the bars that are
joined are called otherwise. -/
theorem resolve?_correlated_iff_shopFoos :
    (familyQuery
        (joinedBars "shop.foos" ++ [.has .where_ .and "bar" []])).toSql
      .sqlite =
        .ok ⟨"SELECT \"shop\".\"foos\".* FROM \"shop\".\"foos\" " ++
          "INNER JOIN \"bars\" AS \"b\" ON \"b\".\"id\" = \"bar_id\" " ++
          "WHERE EXISTS (SELECT \"bars\".* FROM \"bars\" " ++
          "WHERE \"foo_id\" = \"foos\".\"id\")", []⟩ ∧
      ∃ (sub : Query) (written : Ident),
        relatedRows .where_ "bar" = some sub ∧
          Ident.parse "foos.id" = .ok written ∧
          resolve? id written.parts.dropLast
            [sub.applyScopes.sources,
              (familyQuery (joinedBars "shop.foos" ++
                [.has .where_ .and "bar" []])).applyScopes.sources] =
            some (1, 0) := by
  refine ⟨rfl, ?_⟩
  obtain ⟨sub, _, written, asked, _, _, parsed, resolve_iff⟩ :=
    resolve?_correlated_iff familySchema 0 (joinedBars "shop.foos") []
      .where_ .and "bar" [] _ _ rfl rfl .sqlite _ rfl id
  refine ⟨sub, written, asked, parsed, resolve_iff.mpr ?_⟩
  cases asked
  cases parsed
  exact ⟨by decide, by decide, by decide⟩

set_option maxRecDepth 4000 in
/-- Under an alias the outer query has no source of the model's name, so that
the qualifier stands for nothing; among children it stands for the child. -/
theorem aliasedFoos_and_children_unreached :
    (familyQuery
        [.plain (.fromSource (.table "foos AS f")),
          .has .where_ .and "bar" []]).toSql .sqlite =
        .ok ⟨"SELECT \"f\".* FROM \"foos\" AS \"f\" " ++
          "WHERE EXISTS (SELECT \"bars\".* FROM \"bars\" " ++
          "WHERE \"foo_id\" = \"foos\".\"id\")", []⟩ ∧
      (familyQuery [.has .where_ .and "children" []]).toSql .sqlite =
        .ok ⟨"SELECT \"foos\".* FROM \"foos\" " ++
          "WHERE EXISTS (SELECT \"foos\".* FROM \"foos\" " ++
          "WHERE \"parent_id\" = \"foos\".\"id\")", []⟩ ∧
      Ident.parse "foos.id" = .ok ⟨[.plain "foos", .plain "id"]⟩ ∧
      ((relatedRows .where_ "bar").map fun sub =>
        resolve? id [.plain "foos"]
          [sub.applyScopes.sources,
            (familyQuery
              [.plain (.fromSource (.table "foos AS f")),
                .has .where_ .and "bar" []]).applyScopes.sources]) =
        some none ∧
      ((relatedRows .where_ "children").map fun sub =>
        resolve? id [.plain "foos"]
          [sub.applyScopes.sources,
            (familyQuery
              [.has .where_ .and "children" []]).applyScopes.sources]) =
        some (some (0, 0)) := by
  refine ⟨rfl, rfl, rfl, ?_, ?_⟩
  · decide
  · decide

end ModelQuery

end RecordQuery
