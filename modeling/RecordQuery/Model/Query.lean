import RecordQuery.Model

/-!
# Queries over a model

To the steps of a plain query they add filters by relationship and paths of relationships that are
loaded after fetching.
-/

namespace RecordQuery

/-- What becomes of a filter by a relationship that the model does not declare. -/
inductive UnknownRelation where
  | error
  | skip
deriving DecidableEq, Repr

/-- A query whose rows are instances of the model at a place of the schema. -/
structure ModelQuery where
  place : Nat
  query : Query
  eager : List String := []
  unknownRelation : UnknownRelation := .error

/-- One step of building a query over a model. The steps of `has` refine the sub-query. -/
inductive ModelStep where
  | plain (step : Step)
  | unknownRelation (policy : UnknownRelation)
  | load (path : String)
  | has (clause : Clause) (link : Link) (relation : String) (refinement : List Step)

namespace ModelQuery

/-- The query over a model's table with the model's global scopes. -/
def ofModel (schema : Schema) (place : Nat) : ModelQuery :=
  let model := schema.model place
  { place, query := (Query.table model.table).withGlobalScopes model.scopes }

/-- Keeps the rows for which the relationship has a related row. The sub-query starts with the query's
context and is then refined. -/
def has (schema : Schema) (clause : Clause) (link : Link) (name : String) (refinement : List Step)
    (typed : ModelQuery) : ModelQuery :=
  let model := schema.model typed.place
  match model.relation? name with
  | none =>
    match typed.unknownRelation with
    | .skip => typed
    | .error =>
      { typed with query := typed.query.withFault (.missingRelationship model.name name) }
  | some relation =>
    match relation.subquery schema model with
    | .error error => { typed with query := typed.query.withFault error.deferred }
    | .ok sub =>
      let refined := { sub with context := typed.query.context }.applyAll refinement
      { typed with
        query := typed.query.addPredicate clause (.existence link false refined.fragment) }

def apply (schema : Schema) (typed : ModelQuery) : ModelStep → ModelQuery
  | .plain step => { typed with query := step.apply typed.query }
  | .unknownRelation policy => { typed with unknownRelation := policy }
  | .load path => { typed with eager := typed.eager ++ [path] }
  | .has clause link relation refinement => typed.has schema clause link relation refinement

def applyAll (schema : Schema) (typed : ModelQuery) (steps : List ModelStep) : ModelQuery :=
  steps.foldl (apply schema) typed

end ModelQuery

end RecordQuery
