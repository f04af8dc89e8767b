import RecordQuery.Model.Query
import RecordQuery.Proofs.Query.Congruence

/-!
# Programs made by the same calls

Two programs are twins when they make the same calls in the same order and hand
in values that are related: to comparisons, lists, ranges, comparisons of
sub-queries, raw SQL and the context.  All else is the same in both: names,
operators, raw text, and the shape of nested conditions, sub-queries and scopes.
A congruence that holds of the raw texts then holds of the statements.  A program
is the twin of itself, by equality, when its raw texts are of a kind.
-/

namespace RecordQuery

/-! ## Models and steps over them -/

section Related

variable (values : Value → Value → Prop)
variable (fragments : Fragment → Fragment → Prop)
variable (predicates : Predicate → Predicate → Prop)

/-- The same model but for what its scopes hold. -/
inductive Model.Related : Model → Model → Prop
  | mk (name table : String) (fields : List Field) (relations : List Relation)
      {scopes scopes' : List Scope}
      (same : List.Forall₂ (Scope.Related values fragments predicates)
        scopes scopes') :
      Model.Related ⟨name, table, fields, relations, scopes⟩
        ⟨name, table, fields, relations, scopes'⟩

inductive ModelStep.Related : ModelStep → ModelStep → Prop
  | plain {step step' : Step}
      (same : Step.Related values fragments predicates step step') :
      ModelStep.Related (.plain step) (.plain step')
  | unknownRelation (policy : UnknownRelation) :
      ModelStep.Related (.unknownRelation policy) (.unknownRelation policy)
  | load (path : String) : ModelStep.Related (.load path) (.load path)
  | has (clause : Clause) (link : Link) (relation : String)
      {refinement refinement' : List Step}
      (same : List.Forall₂ (Step.Related values fragments predicates)
        refinement refinement') :
      ModelStep.Related (.has clause link relation refinement)
        (.has clause link relation refinement')

end Related

/-! ## Twins -/

mutual

/-- The same piece of SQL with related values, made by the same calls: a part
that a caller hands in, a list of conditions, or the query of a program over a
table or over a model. -/
inductive Fragment.Twins (related : Value → Value → Prop)
    (raws : String → List Value → Prop) : Fragment → Fragment → Prop
  | name (path : String) : Fragment.Twins related raws (.name path) (.name path)
  | raw (sql : String) {bindings bindings' : List Value}
      (allowed : raws sql bindings)
      (corresponding : List.Forall₂ related bindings bindings') :
      Fragment.Twins related raws (.raw sql bindings) (.raw sql bindings')
  | bound {value value' : Value} (corresponding : related value value') :
      Fragment.Twins related raws (.bound value) (.bound value')
  | group {inner inner' : Fragment}
      (twins : Fragment.Twins related raws inner inner') :
      Fragment.Twins related raws (.group inner) (.group inner')
  | join (separator : String) (allowed : raws separator [])
      {parts parts' : List Fragment}
      (twins : List.Forall₂ (Fragment.Twins related raws) parts parts') :
      Fragment.Twins related raws (.join separator parts)
        (.join separator parts')
  | conditions {conditions conditions' : Conditions}
      (twins : List.Forall₂ (Predicate.Twins related raws)
        conditions conditions') :
      Fragment.Twins related raws conditions.fragment conditions'.fragment
  | query (table? : Option String) {steps steps' : List Step}
      (twins : List.Forall₂
        (Step.Related related (Fragment.Twins related raws)
          (Predicate.Twins related raws))
        steps steps') :
      Fragment.Twins related raws
        (Query.applyAll { source? := table?.map .table } steps).fragment
        (Query.applyAll { source? := table?.map .table } steps').fragment
  | model {schema schema' : Schema}
      (schemas : List.Forall₂
        (Model.Related related (Fragment.Twins related raws)
          (Predicate.Twins related raws))
        schema.models schema'.models)
      (place : Nat) {steps steps' : List ModelStep}
      (twins : List.Forall₂
        (ModelStep.Related related (Fragment.Twins related raws)
          (Predicate.Twins related raws))
        steps steps') :
      Fragment.Twins related raws
        ((ModelQuery.ofModel schema place).applyAll schema
          steps).query.fragment
        ((ModelQuery.ofModel schema' place).applyAll schema'
          steps').query.fragment

/-- The same condition with related values, made by the same call. -/
inductive Predicate.Twins (related : Value → Value → Prop)
    (raws : String → List Value → Prop) : Predicate → Predicate → Prop
  | compare (link : Link) (column operator : String) {value value' : Value}
      (corresponding : related value value') :
      Predicate.Twins related raws (.compare link column operator value)
        (.compare link column operator value')
  | between (column : String) {low low' high high' : Value}
      (lows : related low low') (highs : related high high') :
      Predicate.Twins related raws (.between column low high)
        (.between column low' high')
  | columns (link : Link) (column operator other : String) :
      Predicate.Twins related raws (.columns link column operator other)
        (.columns link column operator other)
  | inList (link : Link) (negated : Bool) (column : String)
      {values values' : List Value}
      (corresponding : List.Forall₂ related values values') :
      Predicate.Twins related raws (.inList link negated column values)
        (.inList link negated column values')
  | inQuery (negated : Bool) (column : String) {query query' : Fragment}
      (twins : Fragment.Twins related raws query query') :
      Predicate.Twins related raws (.inQuery negated column query)
        (.inQuery negated column query')
  | existence (link : Link) (negated : Bool) {query query' : Fragment}
      (twins : Fragment.Twins related raws query query') :
      Predicate.Twins related raws (.existence link negated query)
        (.existence link negated query')
  | compareQuery (link : Link) {query query' : Fragment}
      (twins : Fragment.Twins related raws query query') (operator : String)
      {value value' : Value} (corresponding : related value value') :
      Predicate.Twins related raws (.compareQuery link query operator value)
        (.compareQuery link query' operator value')
  | raw (link : Link) (sql : String) {bindings bindings' : List Value}
      (allowed : raws sql bindings)
      (corresponding : List.Forall₂ related bindings bindings') :
      Predicate.Twins related raws (.raw link sql bindings)
        (.raw link sql bindings')
  | nested (link : Link) {conditions conditions' : Conditions}
      (twins : List.Forall₂ (Predicate.Twins related raws)
        conditions conditions') :
      Predicate.Twins related raws (.nested link conditions)
        (.nested link conditions')
  | make (link : Link) {column? column?' operand? operand?' : Option Fragment}
      (columns : Option.Rel (Fragment.Twins related raws) column? column?')
      (operator? : Option String)
      (operands : Option.Rel (Fragment.Twins related raws) operand? operand?') :
      Predicate.Twins related raws (.make link column? operator? operand?)
        (.make link column?' operator? operand?')

end

/-! ## Models and sub-queries of related parts -/

section Related

variable {values : Value → Value → Prop}
variable {fragments : Fragment → Fragment → Prop}
variable {predicates : Predicate → Predicate → Prop}

theorem Schema.related_model {schema schema' : Schema}
    (schemas : List.Forall₂ (Model.Related values fragments predicates)
      schema.models schema'.models) (place : Nat) :
    Model.Related values fragments predicates (schema.model place)
      (schema'.model place) := by
  have absent : Model.Related values fragments predicates {} {} :=
    .mk "" "" [] [] .nil
  unfold Schema.model
  rcases schema with ⟨models⟩
  rcases schema' with ⟨models'⟩
  simp only at schemas ⊢
  induction schemas generalizing place with
  | nil => exact absent
  | cons head _ inductionHypothesis =>
      cases place with
      | zero => exact head
      | succ place => exact inductionHypothesis place

theorem Model.Related.eq_scopes {model model' : Model}
    (same : Model.Related values fragments predicates model model') :
    model' = { model with scopes := model'.scopes } := by
  cases same
  rfl

theorem Model.Related.scopes {model model' : Model}
    (same : Model.Related values fragments predicates model model') :
    List.Forall₂ (Scope.Related values fragments predicates)
      model.scopes model'.scopes := by
  cases same with
  | mk name table fields relations same => exact same

/-- The join columns of a relationship do not depend on scopes. -/
theorem Relation.resolve_eq_of_related {schema schema' : Schema}
    (schemas : List.Forall₂ (Model.Related values fragments predicates)
      schema.models schema'.models)
    {parent parent' : Model}
    (parents : Model.Related values fragments predicates parent parent')
    (relation : Relation) :
    relation.resolve schema' parent' = relation.resolve schema parent := by
  have referenced := Schema.related_model schemas relation.related
  unfold resolve
  rw [referenced.eq_scopes, parents.eq_scopes]
  rfl

end Related

abbrev Model.Alike (values : Value → Value → Prop)
    (same : Fragment → Fragment → Prop) : Model → Model → Prop :=
  Model.Related values same (Predicate.Related same)

abbrev ModelStep.Alike (values : Value → Value → Prop)
    (same : Fragment → Fragment → Prop) : ModelStep → ModelStep → Prop :=
  ModelStep.Related values same (Predicate.Related same)

section Congruence

variable {values : Value → Value → Prop}
variable {same : Fragment → Fragment → Prop}

namespace Query

variable {left right : Query}

theorem related_ofTable? (table? : Option String) :
    Query.Related values same { source? := table?.map .table }
      { source? := table?.map .table } where
  source := by
    cases table? with
    | none => exact .none
    | some table => exact .some (.table table)
  distinct := rfl
  columns := .nil
  joins := .nil
  wheres := .nil
  groupBy := .nil
  havings := .nil
  orderBy := .nil
  limit := rfl
  offset := rfl
  scopes := ⟨.nil, .nil, rfl, rfl⟩
  context := .nil
  fault := rfl

theorem Related.withGlobalScopes
    (related : Query.Related values same left right)
    {scopes scopes' : List Scope}
    (alike : List.Forall₂ (Scope.Alike values same) scopes scopes') :
    Query.Related values same (left.withGlobalScopes scopes)
      (right.withGlobalScopes scopes') :=
  { related with
    scopes := { related.scopes with
      globals := List.rel_append related.scopes.globals alike } }

end Query

/-- The sub-query of a relationship fails alike or has related parts. -/
theorem Relation.related_subquery
    (congruence : Fragment.Congruence values same) {schema schema' : Schema}
    (schemas : List.Forall₂ (Model.Alike values same)
      schema.models schema'.models)
    {parent parent' : Model} (parents : Model.Alike values same parent parent')
    (relation : Relation) :
    (∃ error, relation.subquery schema parent = .error error ∧
        relation.subquery schema' parent' = .error error) ∨
      ∃ query query', relation.subquery schema parent = .ok query ∧
        relation.subquery schema' parent' = .ok query' ∧
          Query.Related values same query query' := by
  unfold subquery
  rw [resolve_eq_of_related schemas parents relation]
  cases relation.resolve schema parent with
  | error error => exact Or.inl ⟨error, rfl, rfl⟩
  | ok keys =>
      have scopes := (Schema.related_model schemas relation.related).scopes
      refine Or.inr ⟨_, _, rfl, rfl, ?_⟩
      have started : Query.Related values same _ _ :=
        (Query.related_ofTable? (some keys.relatedTable)).withGlobalScopes
          scopes
      exact started.addPredicate .where_
        ⟨rfl, .some (congruence.name _), rfl, .some (congruence.name _)⟩

namespace ModelQuery

/-- Queries of related parts over the same model. -/
structure Related (values : Value → Value → Prop)
    (same : Fragment → Fragment → Prop) (left right : ModelQuery) : Prop where
  place : left.place = right.place
  query : Query.Related values same left.query right.query
  unknownRelation : left.unknownRelation = right.unknownRelation

variable {schema schema' : Schema} {left right : ModelQuery}

theorem related_ofModel
    (schemas : List.Forall₂ (Model.Alike values same)
      schema.models schema'.models)
    (place : Nat) :
    Related values same (ofModel schema place) (ofModel schema' place) := by
  have models := Schema.related_model schemas place
  have sameTable :
      (schema'.model place).table = (schema.model place).table := by
    rw [models.eq_scopes]
  refine ⟨rfl, ?_, rfl⟩
  simp only [ofModel]
  rw [sameTable]
  exact (Query.related_ofTable? (some _)).withGlobalScopes models.scopes

section Steps

variable (congruence : Fragment.Congruence values same)
variable (sameNull : ∀ value value',
  values value value' → value.isNull = value'.isNull)

include congruence sameNull

theorem Related.has
    (schemas : List.Forall₂ (Model.Alike values same)
      schema.models schema'.models)
    (clause : Clause) (link : Link) (name : String)
    {refinement refinement' : List Step}
    (alike : List.Forall₂ (Step.Alike values same) refinement refinement')
    (related : Related values same left right) :
    Related values same (left.has schema clause link name refinement)
      (right.has schema' clause link name refinement') := by
  have models := Schema.related_model schemas left.place
  have sameRelation :
      (schema'.model left.place).relation? name =
        (schema.model left.place).relation? name := by
    rw [models.eq_scopes]
    rfl
  have sameName :
      (schema'.model left.place).name = (schema.model left.place).name := by
    rw [models.eq_scopes]
  simp only [ModelQuery.has]
  rw [← related.place, sameRelation, sameName, ← related.unknownRelation]
  cases (schema.model left.place).relation? name with
  | none =>
      cases left.unknownRelation with
      | skip => exact related
      | error => exact ⟨rfl, related.query.withFault _, rfl⟩
  | some relation =>
      simp only
      rcases Relation.related_subquery congruence schemas models relation with
        ⟨error, failed, failed'⟩ | ⟨sub, sub', found, found', subs⟩
      · rw [failed, failed']
        exact ⟨rfl, related.query.withFault _, rfl⟩
      · rw [found, found']
        have handed :
            Query.Related values same
              { sub with context := left.query.context }
              { sub' with context := right.query.context } :=
          { subs with context := related.query.context }
        have refined :=
          (handed.applyAll congruence sameNull alike).fragment congruence
            sameNull
        exact ⟨rfl, related.query.addPredicate clause
          ⟨rfl, .none, rfl, .some (congruence.group refined)⟩, rfl⟩

theorem Related.apply
    (schemas : List.Forall₂ (Model.Alike values same)
      schema.models schema'.models)
    (related : Related values same left right) {step step' : ModelStep}
    (alike : ModelStep.Alike values same step step') :
    Related values same (left.apply schema step)
      (right.apply schema' step') := by
  cases alike with
  | plain alike =>
      exact ⟨related.place, related.query.apply congruence sameNull alike,
        related.unknownRelation⟩
  | unknownRelation policy => exact ⟨related.place, related.query, rfl⟩
  | load path => exact ⟨related.place, related.query, related.unknownRelation⟩
  | has clause link relation alike =>
      exact related.has congruence sameNull schemas clause link relation alike

theorem Related.applyAll
    (schemas : List.Forall₂ (Model.Alike values same)
      schema.models schema'.models)
    {steps steps' : List ModelStep}
    (alike : List.Forall₂ (ModelStep.Alike values same) steps steps') :
    ∀ {left right : ModelQuery}, Related values same left right →
      Related values same (left.applyAll schema steps)
        (right.applyAll schema' steps') := by
  induction alike with
  | nil => exact id
  | cons head _ inductionHypothesis =>
      intro left right related
      exact inductionHypothesis
        (related.apply congruence sameNull schemas head)

end Steps

end ModelQuery

/-! ## From what is written to what it makes -/

/-- What holds of the parts of twins, and of the raw texts in them, holds of the
twins, as long as values are NULL in the same places. -/
theorem Fragment.Twins.related {raws : String → List Value → Prop}
    (congruence : Fragment.RawCongruence values same raws)
    (sameNull : ∀ value value',
      values value value' → value.isNull = value'.isNull)
    {left right : Fragment} (twins : Fragment.Twins values raws left right) :
    same left right := by
  -- the induction is over the calls; what they hand over is related by the same
  -- induction
  apply @Fragment.Twins.rec values raws
    (fun left right _ => same left right)
    (fun left right _ => Predicate.Related same left right)
    (fun left right _ => List.Forall₂ (same) left right)
    (fun left right _ => List.Forall₂ (Predicate.Related same) left right)
    (fun left right _ => List.Forall₂ (Step.Alike values same) left right)
    (fun left right _ => List.Forall₂ (Model.Alike values same) left right)
    (fun left right _ => List.Forall₂ (ModelStep.Alike values same) left right)
    (fun left right _ => Option.Rel (same) left right)
    (fun left right _ => Step.Alike values same left right)
    (fun left right _ => Scope.Alike values same left right)
    (fun left right _ => Model.Alike values same left right)
    (fun left right _ => ModelStep.Alike values same left right)
    (fun left right _ => Source.Related (same) left right)
    (fun left right _ => Join.Related (Predicate.Related same) left right)
    (fun left right _ => SortKey.Related (same) left right)
    (fun left right _ => List.Forall₂ (Scope.Alike values same) left right)
  case t => exact twins
  case raw => exact fun sql _ _ => congruence.raw sql
  case name => exact fun path => congruence.name path
  case bound => exact fun corresponding => congruence.bound corresponding
  case group => exact fun _ inners => congruence.group inners
  case join =>
    intro separator allowed _ _ _ parts
    exact Fragment.related_join separator
      (fun lefts rights => congruence.separated separator allowed lefts rights)
      congruence.nothing parts
  case conditions =>
    exact fun _ related =>
      Conditions.related_fragment congruence.toCongruence related
  case query =>
    intro table? _ _ _ alike
    exact ((Query.related_ofTable? table?).applyAll congruence.toCongruence
      sameNull alike).fragment congruence.toCongruence sameNull
  case model =>
    intro _ _ _ place _ _ _ schemas alike
    have ended :=
      (ModelQuery.related_ofModel schemas place).applyAll
        congruence.toCongruence sameNull schemas alike
    exact ended.query.fragment congruence.toCongruence sameNull
  case compare =>
    intro link column operator _ _ corresponding
    exact Predicate.related_compare congruence.toCongruence link column
      operator corresponding (sameNull _ _ corresponding)
  case between =>
    intro column _ _ _ _ lows highs
    exact ⟨rfl, .some (congruence.name column), rfl,
      .some (congruence.joined " AND " (by decide) (congruence.bound lows)
        (congruence.bound highs))⟩
  case columns =>
    intro link column operator other
    exact ⟨rfl, .some (congruence.name column), rfl,
      .some (congruence.name other)⟩
  case inList =>
    intro link negated column _ _ corresponding
    exact Predicate.related_inList congruence.toCongruence link negated column
      corresponding
  case inQuery =>
    intro negated column _ _ _ related
    exact ⟨rfl, .some (congruence.name column), rfl,
      .some (congruence.group related)⟩
  case existence =>
    intro link negated _ _ _ related
    exact ⟨rfl, .none, rfl, .some (congruence.group related)⟩
  case compareQuery =>
    intro link _ _ _ operator _ _ corresponding related
    exact ⟨rfl, .some (congruence.group related), rfl,
      Predicate.related_comparand? congruence.toCongruence corresponding
        (sameNull _ _ corresponding)⟩
  case raw =>
    intro link sql _ _ allowed corresponding
    exact ⟨rfl, .none, rfl, .some (congruence.raw sql allowed corresponding)⟩
  case nested =>
    intro link _ _ _ related
    exact ⟨rfl, .none, rfl, .some (congruence.group
      (Conditions.related_fragment congruence.toCongruence related))⟩
  case make =>
    intro link _ _ _ _ _ operator? _ columns operands
    exact ⟨rfl, columns, rfl, operands⟩
  -- every other call keeps what it is called with
  all_goals
    intros
    constructor <;> assumption

end Congruence

end RecordQuery
