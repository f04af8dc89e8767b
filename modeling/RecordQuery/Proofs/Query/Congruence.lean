import RecordQuery.Proofs.Fragment.Congruence
import RecordQuery.Proofs.Pairs

/-!
# Queries of related parts

Related steps take queries of related parts to such queries again, through
scopes of any depth, so that a congruence of fragments also relates what is
made of the queries.  What the steps hold of predicates and fragments is
related by relations of its own, so that the same description serves for what a
caller writes.
-/

namespace RecordQuery

/-! ## The same data but for its parts -/

section Related

variable (values : Value → Value → Prop)
variable (fragments : Fragment → Fragment → Prop)
variable (predicates : Predicate → Predicate → Prop)

def Context.Related (left right : Context) : Prop :=
  List.Forall₂ (fun entry entry' =>
      entry.1 = entry'.1 ∧ values entry.2 entry'.2)
    left.entries right.entries

inductive Source.Related : Source → Source → Prop
  | table (reference : String) :
      Source.Related (.table reference) (.table reference)
  | derived {query query' : Fragment} (label : String)
      (same : fragments query query') :
      Source.Related (.derived query label) (.derived query' label)

inductive SortKey.Related : SortKey → SortKey → Prop
  | mk {expression expression' : Fragment} (descending : Bool)
      (same : fragments expression expression') :
      SortKey.Related ⟨expression, descending⟩ ⟨expression', descending⟩

inductive Join.Related : Join → Join → Prop
  | mk (kind : JoinKind) (table : String) {on on' : Conditions}
      (same : List.Forall₂ predicates on on') :
      Join.Related ⟨kind, table, on⟩ ⟨kind, table, on'⟩

mutual

/-- The same step but for what it holds. -/
inductive Step.Related : Step → Step → Prop
  | filter (clause : Clause) {predicate predicate' : Predicate}
      (same : predicates predicate predicate') :
      Step.Related (.filter clause predicate) (.filter clause predicate')
  | filterByContext (kind column operator : String) :
      Step.Related (.filterByContext kind column operator)
        (.filterByContext kind column operator)
  | fromSource {source source' : Source}
      (same : Source.Related fragments source source') :
      Step.Related (.fromSource source) (.fromSource source')
  | select (columns : List String) :
      Step.Related (.select columns) (.select columns)
  | addSelect {expression expression' : Fragment}
      (same : fragments expression expression') :
      Step.Related (.addSelect expression) (.addSelect expression')
  | selectQuery {query query' : Fragment} (label : String)
      (same : fragments query query') :
      Step.Related (.selectQuery query label) (.selectQuery query' label)
  | distinct : Step.Related .distinct .distinct
  | join {joined joined' : Join}
      (same : Join.Related predicates joined joined') :
      Step.Related (.join joined) (.join joined')
  | groupBy (columns : List String) :
      Step.Related (.groupBy columns) (.groupBy columns)
  | orderBy {key key' : SortKey} (same : SortKey.Related fragments key key') :
      Step.Related (.orderBy key) (.orderBy key')
  | unordered : Step.Related .unordered .unordered
  | limit (count : Nat) : Step.Related (.limit count) (.limit count)
  | offset (count : Nat) : Step.Related (.offset count) (.offset count)
  | attach {scope scope' : Scope} (same : Scope.Related scope scope') :
      Step.Related (.attach scope) (.attach scope')
  | detach (name : String) : Step.Related (.detach name) (.detach name)
  | attachGlobal {scope scope' : Scope} (same : Scope.Related scope scope') :
      Step.Related (.attachGlobal scope) (.attachGlobal scope')
  | suppress (name : String) : Step.Related (.suppress name) (.suppress name)
  | suppressAll : Step.Related .suppressAll .suppressAll
  | withContext {context context' : Context}
      (same : Context.Related values context context') :
      Step.Related (.withContext context) (.withContext context')

/-- Scopes of one name, with related steps. -/
inductive Scope.Related : Scope → Scope → Prop
  | mk (name : String) {steps steps' : List Step}
      (same : List.Forall₂ Step.Related steps steps') :
      Scope.Related ⟨name, steps⟩ ⟨name, steps'⟩

end

end Related

/-! ## The same data but for fragments and values -/

section Congruence

variable (values : Value → Value → Prop)
variable (same : Fragment → Fragment → Prop)

/-- The same predicate but for its fragments. -/
structure Predicate.Related (left right : Predicate) : Prop where
  link : left.link = right.link
  column : Option.Rel same left.column? right.column?
  operator : left.operator? = right.operator?
  operand : Option.Rel same left.operand? right.operand?

abbrev Step.Alike : Step → Step → Prop :=
  Step.Related values same (Predicate.Related same)

abbrev Scope.Alike : Scope → Scope → Prop :=
  Scope.Related values same (Predicate.Related same)

structure ScopeSet.Related (left right : ScopeSet) : Prop where
  locals : List.Forall₂ (Scope.Alike values same) left.locals right.locals
  globals : List.Forall₂ (Scope.Alike values same) left.globals right.globals
  suppressed : left.suppressed = right.suppressed
  suppressAll : left.suppressAll = right.suppressAll

/-- The same query but for its fragments and the values of its context. -/
structure Query.Related (left right : Query) : Prop where
  source : Option.Rel (Source.Related same) left.source? right.source?
  distinct : left.distinct = right.distinct
  columns : List.Forall₂ same left.columns right.columns
  joins : List.Forall₂ (Join.Related (Predicate.Related same))
    left.joins right.joins
  wheres : List.Forall₂ (Predicate.Related same) left.wheres right.wheres
  groupBy : List.Forall₂ same left.groupBy right.groupBy
  havings : List.Forall₂ (Predicate.Related same) left.havings right.havings
  orderBy : List.Forall₂ (SortKey.Related same) left.orderBy right.orderBy
  limit : left.limit? = right.limit?
  offset : left.offset? = right.offset?
  scopes : ScopeSet.Related values same left.scopes right.scopes
  context : Context.Related values left.context right.context
  fault : left.fault? = right.fault?

end Congruence

/-! ## Predicates -/

section Congruence

variable {values : Value → Value → Prop}
variable {same : Fragment → Fragment → Prop}
variable (congruence : Fragment.Congruence values same)

namespace Predicate

theorem isPlain_of_checkedOperator {predicate : Predicate} {operator : String}
    (checked : predicate.checkedOperator = .ok (some operator)) :
    Text.isPlain operator = true := by
  have allPlain : ∀ operator ∈ operators, Text.isPlain operator = true := by
    decide
  unfold checkedOperator at checked
  split at checked
  · cases checked
  · split at checked
    · cases checked
    · split at checked
      · next supported =>
          cases checked
          exact allPlain operator (List.contains_iff_mem.mp supported)
      · cases checked

theorem isPlain_of_nullTest? {operator test : String}
    (tested : nullTest? operator = some test) : Text.isPlain test = true := by
  unfold nullTest? at tested
  split at tested
  all_goals cases tested
  all_goals decide

include congruence

/-- Whether a comparison has an operand depends on whether its value is
NULL. -/
theorem related_comparand? {value value' : Value}
    (corresponding : values value value')
    (sameNull : value.isNull = value'.isNull) :
    Option.Rel same (comparand? value) (comparand? value') := by
  unfold comparand?
  rw [← sameNull]
  split
  · exact .none
  · exact .some (congruence.bound corresponding)

theorem related_compare (link : Link) (column operator : String)
    {value value' : Value} (corresponding : values value value')
    (sameNull : value.isNull = value'.isNull) :
    Predicate.Related same (compare link column operator value)
      (compare link column operator value') where
  link := rfl
  column := .some (congruence.name column)
  operator := rfl
  operand := related_comparand? congruence corresponding sameNull

/-- How long a list of values is decides the text, not what is in it. -/
theorem related_inList (link : Link) (negated : Bool) (column : String)
    {members members' : List Value}
    (corresponding : List.Forall₂ values members members') :
    Predicate.Related same (inList link negated column members)
      (inList link negated column members') := by
  cases corresponding with
  | nil =>
      refine ⟨rfl, .none, rfl, .some (congruence.text _ ?_)⟩
      cases negated <;> decide
  | cons head tail =>
      have bound :
          List.Forall₂ same (List.map .bound _) (List.map .bound _) :=
        List.rel_map (fun _ _ related => congruence.bound related)
          (.cons head tail)
      exact ⟨rfl, .some (congruence.name column), rfl,
        .some (congruence.group (congruence.join ", " (by decide) bound))⟩

theorem Related.fragment {left right : Predicate}
    (related : Predicate.Related same left right) :
    same left.fragment right.fragment := by
  rcases left with ⟨link, column?, operator?, operand?⟩
  rcases right with ⟨link', column?', operator?', operand?'⟩
  obtain ⟨_, columns, rfl, operands⟩ := related
  have sameOperator :
      checkedOperator ⟨link', column?', operator?, operand?'⟩ =
        checkedOperator ⟨link, column?, operator?, operand?⟩ :=
    rfl
  unfold Predicate.fragment
  rw [sameOperator]
  cases checked : checkedOperator ⟨link, column?, operator?, operand?⟩ with
  | error cause => exact congruence.refused cause
  | ok checked? =>
      cases columns with
      | none =>
          cases operands with
          | none => cases checked? <;> exact congruence.refused _
          | some operand =>
              cases checked? with
              | none => exact operand
              | some operator =>
                  exact congruence.joined " " (by decide)
                    (congruence.text operator
                      (isPlain_of_checkedOperator checked))
                    operand
      | some column =>
          cases checked? with
          | none => exact congruence.refused _
          | some operator =>
              have spaced (word : String) (plain : Text.isPlain word = true) :
                  Text.isPlain (" " ++ word) = true := by
                rw [Text.isPlain_append, plain]
                decide
              cases operands with
              | none =>
                  simp only
                  cases tested : nullTest? operator with
                  | none => exact congruence.refused _
                  | some test =>
                      exact congruence.joined "" (by decide) column
                        (congruence.text _
                          (spaced test (isPlain_of_nullTest? tested)))
              | some operand =>
                  exact congruence.joined " " (by decide)
                    (congruence.joined "" (by decide) column
                      (congruence.text _
                        (spaced operator (isPlain_of_checkedOperator checked))))
                    operand

end Predicate

include congruence

theorem Conditions.related_fragment {left right : Conditions}
    (related : List.Forall₂ (Predicate.Related same) left right) :
    same left.fragment right.fragment := by
  have plain (link : Link) : Text.isPlain link.keyword = true := by
    cases link <;> decide
  have started :
      ∀ {start start' : Fragment}, same start start' →
        same
          (left.foldl (fun done predicate =>
            .joined predicate.link.keyword done predicate.fragment) start)
          (right.foldl (fun done predicate =>
            .joined predicate.link.keyword done predicate.fragment)
            start') := by
    induction related with
    | nil => exact id
    | cons head _ inductionHypothesis =>
        intro start start' started
        rw [List.foldl_cons, List.foldl_cons, ← head.link]
        exact inductionHypothesis
          (congruence.joined _ (plain _) started (head.fragment congruence))
  exact started congruence.nothing

/-! ## The layout of a query -/

namespace Query

theorem related_listed (keyword : String) (plain : Text.isPlain keyword = true)
    {items items' : List Fragment}
    (related : List.Forall₂ same items items') :
    same (listed keyword items) (listed keyword items') := by
  cases related with
  | nil => exact congruence.nothing
  | cons head tail =>
      exact congruence.joined " " (by decide) (congruence.text keyword plain)
        (congruence.join ", " (by decide) (.cons head tail))

namespace Related

variable {left right : Query}

theorem selectFragment (related : Query.Related values same left right) :
    same left.selectFragment right.selectFragment := by
  have named : left.tableName? = right.tableName? := by
    unfold tableName?
    match left.source?, right.source?, related.source with
    | _, _, .none => rfl
    | _, _, .some (.table reference) => rfl
    | _, _, .some (.derived label same) => rfl
  unfold Query.selectFragment
  rw [← related.distinct, ← named]
  refine congruence.joined " " (by decide) (congruence.text _ ?_) ?_
  · cases left.distinct <;> decide
  · match left.columns, right.columns, related.columns with
    | _, _, .nil =>
        cases left.tableName? with
        | none => exact congruence.name _
        | some reference => exact congruence.name _
    | _, _, .cons head tail =>
        exact congruence.join ", " (by decide) (.cons head tail)

theorem limitFragment (related : Query.Related values same left right) :
    same left.limitFragment right.limitFragment := by
  have counted (word : String) (plain : Text.isPlain word = true)
      (count : Nat) : Text.isPlain (word ++ toString count) = true := by
    rw [Text.isPlain_append, plain, Text.isPlain_toString]
    rfl
  unfold Query.limitFragment
  rw [← related.limit, ← related.offset]
  split
  · exact congruence.nothing
  · exact congruence.text _ (counted "LIMIT " (by decide) _)
  · refine congruence.text _ ?_
    rw [Text.isPlain_append, Text.isPlain_append,
      counted "LIMIT " (by decide), Text.isPlain_toString]
    decide
  · exact congruence.joined "" (by decide)
      (congruence.joined "" (by decide)
        (congruence.text "LIMIT " (by decide)) congruence.unlimited)
      (congruence.text _ (counted " OFFSET " (by decide) _))

theorem sourceFragment (related : Query.Related values same left right) :
    same ((left.source?.map Source.fragment).getD .nothing)
      ((right.source?.map Source.fragment).getD .nothing) := by
  match left.source?, right.source?, related.source with
  | _, _, .none => exact congruence.nothing
  | _, _, .some (.table reference) =>
      exact congruence.joined "" (by decide)
        (congruence.text "FROM " (by decide))
        (congruence.tableFragment reference)
  | _, _, .some (.derived label same) =>
      exact congruence.joined " " (by decide)
        (congruence.joined " " (by decide) (congruence.text "FROM" (by decide))
          (congruence.group same))
        (congruence.joined "" (by decide) (congruence.text "AS " (by decide))
          (congruence.name label))

theorem joinFragment {join join' : Join}
    (related : Join.Related (Predicate.Related same) join join') :
    same join.fragment join'.fragment := by
  cases related with
  | mk kind table related =>
      have plain : Text.isPlain (kind.keyword ++ " ") = true := by
        cases kind <;> decide
      exact congruence.joined " " (by decide)
        (congruence.joined "" (by decide) (congruence.text _ plain)
          (congruence.tableFragment table))
        (congruence.led "ON" (by decide)
          (Conditions.related_fragment congruence related))

theorem keyFragment {key key' : SortKey}
    (related : SortKey.Related same key key') :
    same key.fragment key'.fragment := by
  cases related with
  | mk descending related =>
      cases descending with
      | false => exact related
      | true =>
          exact congruence.joined "" (by decide) related
            (congruence.text " DESC" (by decide))

theorem layout (related : Query.Related values same left right) :
    same left.layout right.layout := by
  unfold Query.layout
  rw [← related.fault]
  cases left.fault? with
  | some fault => exact congruence.refused fault
  | none =>
      have joins :
          List.Forall₂ same (left.joins.map Join.fragment)
            (right.joins.map Join.fragment) :=
        List.rel_map (fun _ _ related => joinFragment congruence related)
          related.joins
      have keys :
          List.Forall₂ same (left.orderBy.map SortKey.fragment)
            (right.orderBy.map SortKey.fragment) :=
        List.rel_map (fun _ _ related => keyFragment congruence related)
          related.orderBy
      have wheres :=
        congruence.led "WHERE" (by decide)
          (Conditions.related_fragment congruence related.wheres)
      have havings :=
        congruence.led "HAVING" (by decide)
          (Conditions.related_fragment congruence related.havings)
      exact congruence.join " " (by decide)
        (.cons (related.selectFragment congruence)
          (.cons (related.sourceFragment congruence)
            (.cons (congruence.join " " (by decide) joins)
              (.cons wheres
                (.cons
                  (related_listed congruence "GROUP BY" (by decide)
                    related.groupBy)
                  (.cons havings
                    (.cons
                      (related_listed congruence "ORDER BY" (by decide) keys)
                      (.cons (related.limitFragment congruence) .nil))))))))

end Related

end Query

/-! ## Steps -/

omit congruence in
theorem Context.Related.get? {left right : Context}
    (related : Context.Related values left right) (kind : String) :
    Option.Rel values (left.get? kind) (right.get? kind) := by
  rcases left with ⟨entries⟩
  rcases right with ⟨entries'⟩
  have entriesRelated :
      List.Forall₂ (fun entry entry' : String × Value =>
        entry.1 = entry'.1 ∧ values entry.2 entry'.2) entries entries' :=
    related
  show Option.Rel values (entries.lookup kind) (entries'.lookup kind)
  induction entriesRelated with
  | nil => exact .none
  | @cons entry entry' rest rest' head tail inductionHypothesis =>
      obtain ⟨sameKind, corresponding⟩ := head
      rw [List.lookup_cons, List.lookup_cons, ← sameKind]
      split
      · exact .some corresponding
      · exact inductionHypothesis tail

namespace Query

variable {left right : Query}

omit congruence in
theorem Related.addPredicate (related : Query.Related values same left right)
    (clause : Clause) {predicate predicate' : Predicate}
    (added : Predicate.Related same predicate predicate') :
    Query.Related values same (left.addPredicate clause predicate)
      (right.addPredicate clause predicate') := by
  cases clause with
  | where_ =>
      exact { related with
        wheres := List.rel_append related.wheres (.cons added .nil) }
  | having =>
      exact { related with
        havings := List.rel_append related.havings (.cons added .nil) }

omit congruence in
theorem Related.withFault (related : Query.Related values same left right)
    (fault : Error) :
    Query.Related values same (left.withFault fault)
      (right.withFault fault) :=
  { related with
    fault := congrArg (fun fault? => fault?.or (some fault)) related.fault }

/-- A step takes queries of related parts to such queries.  Values may be NULL
in the same places only, for a comparison with NULL is another predicate. -/
theorem Related.apply (sameNull : ∀ value value',
      values value value' → value.isNull = value'.isNull)
    (related : Query.Related values same left right) {step step' : Step}
    (alike : Step.Alike values same step step') :
    Query.Related values same (step.apply left) (step'.apply right) := by
  cases alike with
  | filter clause added => exact related.addPredicate clause added
  | filterByContext kind column operator =>
      have found? := related.context.get? kind
      simp only [Step.apply]
      generalize left.context.get? kind = found at found?
      generalize right.context.get? kind = found' at found?
      cases found? with
      | none => exact related
      | some corresponding =>
          exact related.addPredicate .where_
            (Predicate.related_compare congruence .and column operator
              corresponding (sameNull _ _ corresponding))
  | fromSource added => exact { related with source := .some added }
  | select columns =>
      exact { related with columns := congruence.names columns }
  | addSelect added =>
      exact { related with
        columns := List.rel_append related.columns (.cons added .nil) }
  | selectQuery label added =>
      have written : same _ _ :=
        congruence.join " " (by decide)
          (.cons (congruence.group added)
            (.cons (congruence.text "AS" (by decide))
              (.cons (congruence.name label) .nil)))
      exact { related with
        columns := List.rel_append related.columns (.cons written .nil) }
  | distinct => exact { related with distinct := rfl }
  | join added =>
      exact { related with
        joins := List.rel_append related.joins (.cons added .nil) }
  | groupBy columns =>
      exact { related with
        groupBy := List.rel_append related.groupBy (congruence.names columns) }
  | orderBy added =>
      exact { related with
        orderBy := List.rel_append related.orderBy (.cons added .nil) }
  | unordered => exact { related with orderBy := .nil }
  | limit count => exact { related with limit := rfl }
  | offset count => exact { related with offset := rfl }
  | attach added =>
      exact { related with
        scopes := { related.scopes with
          locals := List.rel_append related.scopes.locals
            (.cons added .nil) } }
  | detach name =>
      have kept :
          List.Forall₂ (Scope.Alike values same)
            (left.scopes.locals.filter fun scope => scope.name != name)
            (right.scopes.locals.filter fun scope => scope.name != name) := by
        refine forall₂_filter (related.scopes.locals.imp ?_)
        rintro _ _ ⟨own, alike⟩
        exact ⟨.mk own alike, rfl⟩
      exact { related with
        scopes := { related.scopes with locals := kept } }
  | attachGlobal added =>
      exact { related with
        scopes := { related.scopes with
          globals := List.rel_append related.scopes.globals
            (.cons added .nil) } }
  | suppress name =>
      exact { related with
        scopes := { related.scopes with
          suppressed := congrArg (· ++ [name]) related.scopes.suppressed } }
  | suppressAll =>
      exact { related with
        scopes := { related.scopes with suppressAll := rfl } }
  | withContext added => exact { related with context := added }

theorem Related.applyAll (sameNull : ∀ value value',
      values value value' → value.isNull = value'.isNull)
    {steps steps' : List Step}
    (alike : List.Forall₂ (Step.Alike values same) steps steps') :
    ∀ {left right : Query}, Query.Related values same left right →
      Query.Related values same (left.applyAll steps)
        (right.applyAll steps') := by
  induction alike with
  | nil => exact id
  | cons head _ inductionHypothesis =>
      intro left right related
      exact inductionHypothesis (related.apply congruence sameNull head)

/-! ## Scopes -/

omit congruence in
theorem related_active {scopes scopes' : ScopeSet}
    (related : ScopeSet.Related values same scopes scopes') :
    List.Forall₂ (Scope.Alike values same) scopes.active scopes'.active := by
  unfold ScopeSet.active
  refine List.rel_append related.locals (forall₂_filter ?_)
  refine related.globals.imp ?_
  rintro _ _ ⟨name, alike⟩
  rw [← related.suppressed, ← related.suppressAll]
  exact ⟨.mk name alike, rfl⟩

theorem Related.applyScopes (sameNull : ∀ value value',
      values value value' → value.isNull = value'.isNull)
    (related : Query.Related values same left right) :
    Query.Related values same left.applyScopes right.applyScopes := by
  have emptied :
      Query.Related values same { left with scopes := {} }
        { right with scopes := {} } :=
    { related with scopes := ⟨.nil, .nil, rfl, rfl⟩ }
  have applied :
      ∀ {scopes scopes' : List Scope},
        List.Forall₂ (Scope.Alike values same) scopes scopes' →
        ∀ {left right : Query}, Query.Related values same left right →
          Query.Related values same (scopes.foldl Scope.apply left)
            (scopes'.foldl Scope.apply right) := by
    intro scopes scopes' alike
    induction alike with
    | nil => exact id
    | cons head _ inductionHypothesis =>
        intro left right related
        obtain ⟨name, steps⟩ := head
        exact inductionHypothesis (related.applyAll congruence sameNull steps)
  exact applied (related_active related.scopes) emptied

/-- Queries of related parts make related statements. -/
theorem Related.fragment (sameNull : ∀ value value',
      values value value' → value.isNull = value'.isNull)
    (related : Query.Related values same left right) :
    same left.fragment right.fragment :=
  (related.applyScopes congruence sameNull).layout congruence

end Query

end Congruence

end RecordQuery
