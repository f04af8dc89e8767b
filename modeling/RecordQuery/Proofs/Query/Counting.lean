import RecordQuery.Executor
import RecordQuery.Proofs.Fragment.Places
import RecordQuery.Proofs.Query.Scopes

/-!
# What a count counts

Counting rewrites a query whose scopes have been applied, and what it makes of
it is compiled, its scopes applied, like every other query.  A scope that
attaches further scopes leaves them behind for that second time, while the
query itself is compiled without them.  The rows that are counted are thus
chosen by the same clauses exactly when such scopes change none of them.
-/

namespace RecordQuery

/-! ## The length of what is shown -/

namespace Fragment

/-- The number of letters that a fragment shows at the start of a statement. -/
def width (dialect : Dialect) (fragment : Fragment) : Nat :=
  (Item.print dialect 0 fragment.items).length

theorem width_pos (dialect : Dialect) {fragment : Fragment}
    (seen : fragment.isSilent = false) :
    0 < fragment.width dialect := by
  rw [width, Nat.pos_iff_ne_zero, ne_eq, String.length_eq_zero_iff,
    Item.print_eq_empty_iff]
  simpa [isSilent] using seen

theorem items_joined_of_silent (separator : String) (left : Fragment)
    {right : Fragment} (silent : right.isSilent = true) :
    (joined separator left right).items = left.items := by
  have blank : right.items.all Item.isBlank = true := silent
  show Item.joined separator left.items right.items = left.items
  rw [Item.joined, if_pos blank]

theorem width_lt_joined (dialect : Dialect) (separator : String)
    (left : Fragment) {right : Fragment} (seen : right.isSilent = false) :
    left.width dialect < (joined separator left right).width dialect := by
  have rightSeen : right.items.all Item.isBlank = false := seen
  show (Item.print dialect 0 left.items).length <
    (Item.print dialect 0
      (Item.joined separator left.items right.items)).length
  by_cases leftBlank : left.items.all Item.isBlank = true
  · have leftEmpty : Item.print dialect 0 left.items = "" :=
      (Item.print_eq_empty_iff dialect _ 0).mpr leftBlank
    have shown : 0 < (Item.print dialect 0 right.items).length :=
      width_pos dialect seen
    simpa [Item.joined, rightSeen, leftBlank, leftEmpty] using shown
  · have written :
        ∀ count, 0 < (Item.print dialect count right.items).length := by
      intro count
      rw [Nat.pos_iff_ne_zero, ne_eq, String.length_eq_zero_iff,
        Item.print_eq_empty_iff, rightSeen]
      exact Bool.false_ne_true
    have later := written (0 + (Item.values left.items).length)
    simp only [Item.joined, rightSeen, leftBlank, Item.print_append,
      Item.print, String.length_append, Bool.false_eq_true, if_false]
    omega

/-! ## Parts that are added -/

/-- The fragment with further parts behind it, each after its separator. -/
def extend (start : Fragment) (later : List (String × Fragment)) : Fragment :=
  later.foldl (fun done next => .joined next.1 done next.2) start

theorem items_extend_of_silent {later : List (String × Fragment)}
    (silent : ∀ next ∈ later, next.2.isSilent = true) :
    ∀ start : Fragment, (start.extend later).items = start.items := by
  induction later with
  | nil =>
      intro start
      rfl
  | cons next rest inductionHypothesis =>
      intro start
      have first := silent next List.mem_cons_self
      have others :=
        inductionHypothesis
          (fun part member => silent part (List.mem_cons_of_mem _ member))
          (.joined next.1 start next.2)
      rw [extend, List.foldl_cons, ← extend, others,
        items_joined_of_silent next.1 start first]

theorem width_le_extend (dialect : Dialect)
    (later : List (String × Fragment)) :
    ∀ start : Fragment,
      start.width dialect ≤ (start.extend later).width dialect := by
  induction later with
  | nil =>
      intro start
      exact Nat.le_refl _
  | cons next rest inductionHypothesis =>
      intro start
      have others := inductionHypothesis (.joined next.1 start next.2)
      rw [extend, List.foldl_cons, ← extend]
      cases silent : next.2.isSilent with
      | true =>
          have same := items_joined_of_silent next.1 start silent
          rw [width, same] at others
          exact others
      | false =>
          have grown := width_lt_joined dialect next.1 start silent
          omega

/-- Parts that are not all silent make a fragment longer. -/
theorem width_lt_extend (dialect : Dialect) {next : String × Fragment}
    (seen : next.2.isSilent = false) :
    ∀ {later : List (String × Fragment)} (start : Fragment),
      next ∈ later →
        start.width dialect < (start.extend later).width dialect
  | first :: rest, start, member => by
      rw [extend, List.foldl_cons, ← extend]
      rcases List.mem_cons.mp member with rfl | within
      · have grown := width_lt_joined dialect next.1 start seen
        have others := width_le_extend dialect rest (.joined next.1 start next.2)
        omega
      · have grown := width_lt_extend dialect seen
          (.joined first.1 start first.2) within
        have atLeast := width_le_extend dialect [first] start
        rw [extend, List.foldl_cons, List.foldl_nil] at atLeast
        omega

/-! ## Fragments that compile to the same text -/

/-- What compiles gives, after any number of placeholders, its printed items
and its values. -/
theorem compile_run_eq {fragment : Fragment}
    (compilable : fragment.IsCompilable) (dialect : Dialect) (count : Nat) :
    ((fragment.compile dialect).run.run count) =
      (.ok ⟨Item.print dialect count fragment.items, fragment.values⟩,
        count + fragment.values.length) := by
  obtain ⟨compiled, after, returned⟩ :=
    (returns_compile_iff dialect fragment count).mpr compilable
  have printed := compile_isPrinted dialect fragment returned
  have parts :
      compiled =
        ⟨Item.print dialect count fragment.items, fragment.values⟩ := by
    rw [values, ← printed.sql, ← printed.bindings]
  rw [← parts, values, ← printed.count]
  exact returned

/-- Fragments compile alike exactly when they show the same text after every
number of placeholders and bind the same values. -/
theorem compile_eq_iff {left right : Fragment} {dialect : Dialect}
    (leftCompilable : left.IsCompilable)
    (rightCompilable : right.IsCompilable) :
    left.compile dialect = right.compile dialect ↔
      (∀ count, Item.print dialect count left.items =
        Item.print dialect count right.items) ∧
      left.values = right.values := by
  have leftRun := compile_run_eq leftCompilable dialect
  have rightRun := compile_run_eq rightCompilable dialect
  constructor
  · intro same
    have compiled :
        ∀ count,
          (⟨Item.print dialect count left.items, left.values⟩ : Compiled) =
            ⟨Item.print dialect count right.items, right.values⟩ := by
      intro count
      have outcomes := (leftRun count).symm.trans (same ▸ rightRun count)
      injection outcomes with results
      injection results
    exact ⟨fun count => congrArg Compiled.sql (compiled count),
      congrArg Compiled.bindings (compiled 0)⟩
  · rintro ⟨texts, bindings⟩
    funext count
    have leftRun := leftRun count
    rw [texts, bindings] at leftRun
    exact leftRun.trans (rightRun count).symm

/-- A keyword in front hides no difference. -/
theorem compile_led_inj {left right : Fragment} {dialect : Dialect}
    (keyword : String) (leftCompilable : left.IsCompilable)
    (rightCompilable : right.IsCompilable) :
    (led keyword left).compile dialect = (led keyword right).compile dialect ↔
      left.compile dialect = right.compile dialect := by
  have ledLeft : (led keyword left).IsCompilable :=
    (isCompilable_led keyword left).mpr leftCompilable
  have ledRight : (led keyword right).IsCompilable :=
    (isCompilable_led keyword right).mpr rightCompilable
  have shown :
      ∀ (part : Fragment) (count : Nat),
        Item.print dialect count (led keyword part).items =
          if Item.print dialect count part.items = "" then ""
          else keyword ++ " " ++ Item.print dialect count part.items := by
    intro part count
    show Item.print dialect count (Item.led keyword part.items) = _
    simp only [Item.print_eq_empty_iff, Item.led]
    split
    · next blank => exact (Item.print_eq_empty_iff dialect _ count).mpr blank
    · rfl
  have written : ∀ text : String, keyword ++ " " ++ text ≠ "" := by
    intro text
    simp
  rw [compile_eq_iff ledLeft ledRight,
    compile_eq_iff leftCompilable rightCompilable, values_led, values_led]
  refine and_congr_left fun _ => forall_congr' fun count => ?_
  rw [shown, shown]
  constructor
  · intro same
    split at same
    · next leftEmpty =>
        split at same
        · next rightEmpty => rw [leftEmpty, rightEmpty]
        · exact (written _ same.symm).elim
    · split at same
      · exact (written _ same).elim
      · exact (String.append_right_inj _).mp same
  · intro same
    rw [same]

/-- Parts may be added without changing the text exactly when all of them are
silent. -/
theorem compile_extend_iff {start : Fragment}
    {later : List (String × Fragment)} {dialect : Dialect}
    (startCompilable : start.IsCompilable)
    (laterCompilable : (start.extend later).IsCompilable) :
    (start.extend later).compile dialect = start.compile dialect ↔
      ∀ next ∈ later, next.2.isSilent = true := by
  rw [compile_eq_iff laterCompilable startCompilable]
  constructor
  · rintro ⟨texts, _⟩ next member
    by_contra seen
    have less :=
      width_lt_extend dialect (Bool.eq_false_iff.mpr seen) start member
    rw [width, width, texts 0] at less
    exact Nat.lt_irrefl _ less
  · intro silent
    have same := items_extend_of_silent silent start
    rw [values, same]
    exact ⟨fun _ => rfl, rfl⟩

end Fragment

/-! ## The clauses that choose the rows -/

structure RowClauses where
  source : Fragment
  joins : Fragment
  wheres : Fragment
  havings : Fragment

/-- What each clause compiles to, after any number of placeholders. -/
def RowClauses.compile (dialect : Dialect) (rows : RowClauses) :
    List (Compiler Compiled) :=
  [rows.source, rows.joins, rows.wheres, rows.havings].map
    (Fragment.compile dialect)

namespace Query

def rowClauses (query : Query) : RowClauses where
  source := Source.clause query.source?
  joins := .join " " (query.joins.map Join.fragment)
  wheres := .led "WHERE" query.wheres.fragment
  havings := .led "HAVING" query.havings.fragment

/-- The clauses that choose the rows, between those that do not. -/
def statement (query : Query) (rows : RowClauses) : Fragment :=
  .join " "
    [query.selectFragment, rows.source, rows.joins, rows.wheres,
      listed "GROUP BY" query.groupBy, rows.havings,
      listed "ORDER BY" (query.orderBy.map SortKey.fragment),
      query.limitFragment]

theorem isCompilable_of_toSql {query : Query} {dialect : Dialect}
    {compiled : Compiled} (compiles : query.toSql dialect = .ok compiled) :
    query.applyScopes.layout.IsCompilable :=
  (Fragment.exists_toSql_iff dialect _).mp ⟨compiled, compiles⟩

theorem layout_eq_statement {query : Query} (faultless : query.fault? = none) :
    query.layout = query.statement query.rowClauses := by
  rw [layout, faultless]
  rfl

/-- What a query compiles to is the statement around its clauses. -/
theorem toSql_statement {query : Query} {dialect : Dialect}
    {compiled : Compiled} (compiles : query.toSql dialect = .ok compiled) :
    (query.applyScopes.statement query.applyScopes.rowClauses).toSql dialect =
      .ok compiled := by
  have faultless :=
    fault?_eq_none_of_isCompilable (isCompilable_of_toSql compiles)
  rw [← layout_eq_statement faultless]
  exact compiles

/-- Every clause of a query that compiles is compilable. -/
structure HasCompilableRows (query : Query) : Prop where
  joins : (Fragment.join " " (query.joins.map Join.fragment)).IsCompilable
  wheres : query.wheres.fragment.IsCompilable
  havings : query.havings.fragment.IsCompilable

theorem hasCompilableRows_of_toSql {query : Query} {dialect : Dialect}
    {compiled : Compiled} (compiles : query.toSql dialect = .ok compiled) :
    query.applyScopes.HasCompilableRows := by
  have compilable := isCompilable_of_toSql compiles
  have faultless := fault?_eq_none_of_isCompilable compilable
  obtain ⟨_, _, joins, wheres, _, havings, _⟩ :=
    (isCompilable_layout_iff faultless).mp compilable
  have joined :
      (Fragment.join " "
        (query.applyScopes.joins.map Join.fragment)).IsCompilable := by
    simpa using joins
  exact ⟨joined, wheres, havings⟩

/-! ## The clauses of a count -/

/-- Conditions that are appended behind a keyword change nothing exactly when
all of them are silent. -/
theorem compile_conditions_append_iff {before after : Conditions}
    {dialect : Dialect} (keyword : String)
    (compilable : before.fragment.IsCompilable)
    (extended : (Conditions.fragment (before ++ after)).IsCompilable) :
    (Fragment.led keyword
          (Conditions.fragment (before ++ after))).compile dialect =
        (Fragment.led keyword before.fragment).compile dialect ↔
      ∀ predicate ∈ after, predicate.fragment.isSilent = true := by
  have divided :
      Conditions.fragment (before ++ after) =
        before.fragment.extend
          (after.map fun predicate =>
            (predicate.link.keyword, predicate.fragment)) := by
    simp only [Conditions.fragment, Fragment.extend, List.foldl_append,
      List.foldl_map]
  rw [Fragment.compile_led_inj keyword extended compilable]
  rw [divided] at extended ⊢
  rw [Fragment.compile_extend_iff compilable extended, List.forall_mem_map]

theorem isSilent_joinFragment (join : Join) :
    join.fragment.isSilent = false := by
  have written :
      (Fragment.text (join.kind.keyword ++ " ")).isSilent = false :=
    Fragment.isSilent_text_of_ne (by cases join.kind <;> decide)
  rw [Join.fragment, Fragment.isSilent_joined, Fragment.isSilent_joined,
    written]
  rfl

/-- Every join shows, so that none can be appended without a change. -/
theorem compile_joins_append_iff {before after : List Join}
    {dialect : Dialect}
    (compilable :
      (Fragment.join " " (before.map Join.fragment)).IsCompilable)
    (extended :
      (Fragment.join " "
        ((before ++ after).map Join.fragment)).IsCompilable) :
    (Fragment.join " " ((before ++ after).map Join.fragment)).compile dialect =
        (Fragment.join " " (before.map Join.fragment)).compile dialect ↔
      after = [] := by
  have divided :
      Fragment.join " " ((before ++ after).map Join.fragment) =
        (Fragment.join " " (before.map Join.fragment)).extend
          (after.map fun join => (" ", join.fragment)) := by
    simp only [Fragment.join, Fragment.extend, List.map_append,
      List.foldl_append, List.foldl_map]
  rw [divided] at extended ⊢
  rw [Fragment.compile_extend_iff compilable extended, List.forall_mem_map]
  simp [isSilent_joinFragment, List.eq_nil_iff_forall_not_mem]

/-- The query that a count makes of one without DISTINCT and groups. -/
theorem countQuery_of_plain {query : Query}
    (undistinct : query.applyScopes.distinct = false)
    (ungrouped : query.applyScopes.groupBy = []) :
    query.countQuery =
      { query.applyScopes with
        distinct := false
        columns := [.text "COUNT(*) AS count"]
        orderBy := []
        limit? := none
        offset? := none } := by
  simp [countQuery, undistinct, ungrouped]

end Query

/-- Whether a step leaves a scope for later. -/
def Step.attaches : Step → Bool
  | .attach _ | .attachGlobal _ => true
  | _ => false

namespace Query

theorem scopeless_apply {query : Query} {step : Step}
    (scopeless : query.scopes.locals = [] ∧ query.scopes.globals = [])
    (unattached : step.attaches = false) :
    (step.apply query).scopes.locals = [] ∧
      (step.apply query).scopes.globals = [] := by
  cases step with
  | filter clause predicate => cases clause <;> exact scopeless
  | filterByContext kind column operator =>
      simp only [Step.apply]
      split <;> exact scopeless
  | attach scope => cases unattached
  | attachGlobal scope => cases unattached
  | detach name =>
      refine ⟨?_, scopeless.2⟩
      simp [Step.apply, scopeless.1]
  | _ => exact scopeless

theorem scopeless_applyAll {steps : List Step}
    (unattached : ∀ step ∈ steps, step.attaches = false) :
    ∀ {query : Query},
      query.scopes.locals = [] ∧ query.scopes.globals = [] →
        (query.applyAll steps).scopes.locals = [] ∧
          (query.applyAll steps).scopes.globals = [] := by
  induction steps with
  | nil => exact id
  | cons step rest inductionHypothesis =>
      intro query scopeless
      exact inductionHypothesis
        (fun later member => unattached later (List.mem_cons_of_mem _ member))
        (scopeless_apply scopeless (unattached step List.mem_cons_self))

/-- Scopes that attach none leave none behind. -/
theorem scopeSteps_applyScopes_eq_nil {query : Query}
    (unattached : ∀ step ∈ query.scopeSteps, step.attaches = false) :
    query.applyScopes.scopeSteps = [] := by
  have scopeless : query.applyScopes.scopes.locals = [] ∧
      query.applyScopes.scopes.globals = [] := by
    rw [applyScopes_eq_applyAll]
    exact scopeless_applyAll unattached ⟨rfl, rfl⟩
  simp [scopeSteps, ScopeSet.active, scopeless.1, scopeless.2]

/-- What counting makes of the clauses: the steps of the scopes that scopes
attached are taken after the scopes themselves. -/
theorem rows_countQuery {query : Query}
    (undistinct : query.applyScopes.distinct = false)
    (ungrouped : query.applyScopes.groupBy = []) :
    let once := query.applyScopes
    let twice := query.countQuery.applyScopes
    let late := once.scopeSteps
    twice.source? = late.foldl Step.sourceAfter once.source? ∧
      twice.joins = once.joins ++ late.flatMap Step.addedJoins ∧
      twice.wheres = once.wheres ++ once.context.filters late ∧
      twice.havings = once.havings ++ late.flatMap Step.addedHavings := by
  intro once twice late
  have rewritten := countQuery_of_plain undistinct ungrouped
  have sameSteps : query.countQuery.scopeSteps = late := by
    rw [rewritten]
    rfl
  have built :
      twice = { query.countQuery with scopes := {} }.applyAll late := by
    rw [← sameSteps]
    exact applyScopes_eq_applyAll query.countQuery
  rw [built, source?_applyAll, joins_applyAll, wheres_applyAll,
    havings_applyAll, rewritten]
  exact ⟨rfl, rfl, rfl, rfl⟩

/-- A count without DISTINCT and groups is compiled with the same FROM, JOIN,
WHERE and HAVING clauses as the query itself exactly when the scopes that its
scopes attach change no such clause: they select from what comes out the same,
join nothing, and append no condition that shows.  In particular it is when no
scope attaches one. -/
theorem countQuery_rowClauses_iff (query : Query) (dialect : Dialect)
    (asked counted : Compiled)
    (undistinct : query.applyScopes.distinct = false)
    (ungrouped : query.applyScopes.groupBy = [])
    (compiles : query.toSql dialect = .ok asked)
    (counts : query.countQuery.toSql dialect = .ok counted) :
    let once := query.applyScopes
    let twice := query.countQuery.applyScopes
    let late := once.scopeSteps
    (once.statement once.rowClauses).toSql dialect = .ok asked ∧
      (twice.statement twice.rowClauses).toSql dialect = .ok counted ∧
      (twice.rowClauses.compile dialect = once.rowClauses.compile dialect ↔
        (Source.clause
            (late.foldl Step.sourceAfter once.source?)).compile dialect =
          once.rowClauses.source.compile dialect ∧
        late.flatMap Step.addedJoins = [] ∧
        (∀ predicate ∈ once.context.filters late,
          predicate.fragment.isSilent = true) ∧
        ∀ predicate ∈ late.flatMap Step.addedHavings,
          predicate.fragment.isSilent = true) ∧
      ((∀ step ∈ query.scopeSteps, step.attaches = false) →
        twice.rowClauses.compile dialect =
          once.rowClauses.compile dialect) := by
  intro once twice late
  have onceRows : once.HasCompilableRows := hasCompilableRows_of_toSql compiles
  have twiceRows : twice.HasCompilableRows := hasCompilableRows_of_toSql counts
  obtain ⟨source, joins, wheres, havings⟩ :
      twice.source? = late.foldl Step.sourceAfter once.source? ∧
        twice.joins = once.joins ++ late.flatMap Step.addedJoins ∧
        twice.wheres = once.wheres ++ once.context.filters late ∧
        twice.havings = once.havings ++ late.flatMap Step.addedHavings :=
    rows_countQuery undistinct ungrouped
  have same_iff :
      twice.rowClauses.compile dialect = once.rowClauses.compile dialect ↔
        (Source.clause
            (late.foldl Step.sourceAfter once.source?)).compile dialect =
          once.rowClauses.source.compile dialect ∧
        late.flatMap Step.addedJoins = [] ∧
        (∀ predicate ∈ once.context.filters late,
          predicate.fragment.isSilent = true) ∧
        ∀ predicate ∈ late.flatMap Step.addedHavings,
          predicate.fragment.isSilent = true := by
    have joined := twiceRows.joins
    have filtered := twiceRows.wheres
    have kept := twiceRows.havings
    rw [joins] at joined
    rw [wheres] at filtered
    rw [havings] at kept
    simp only [RowClauses.compile, rowClauses, List.map_cons, List.map_nil,
      List.cons.injEq, and_true]
    rw [source, joins, wheres, havings,
      compile_joins_append_iff onceRows.joins joined,
      compile_conditions_append_iff "WHERE" onceRows.wheres filtered,
      compile_conditions_append_iff "HAVING" onceRows.havings kept]
  refine ⟨toSql_statement compiles, toSql_statement counts, same_iff, ?_⟩
  intro unattached
  have none_ : late = [] := scopeSteps_applyScopes_eq_nil unattached
  rw [same_iff, none_]
  exact ⟨rfl, rfl, by simp [Context.filters], by simp⟩

/-! ## A scope that attaches another -/

/-- Live foos, under a scope that attaches one with these steps. -/
def liveFoos (inner : List Step) : Query :=
  ((Query.table "foos").withGlobalScopes
    [⟨"live",
      [.filter .where_ (.compare .and "live" "=" (.int 1)),
        .attach ⟨"inner", inner⟩]⟩]).addPredicate .where_
    (.compare .and "a" "=" (.int 5))

def ordering : List Step :=
  [.orderBy ⟨.name "a", true⟩]

def tenancy : List Step :=
  [.filter .where_ (.compare .and "tenant_id" "=" (.int 7))]

set_option maxRecDepth 4000 in
/-- An order that comes late is no condition. -/
theorem countQuery_rowClauses_iff_ordering :
    (liveFoos ordering).toSql .sqlite =
        .ok ⟨"SELECT \"foos\".* FROM \"foos\" " ++
          "WHERE \"a\" = ? AND \"live\" = ?", [.int 5, .int 1]⟩ ∧
      (liveFoos ordering).countQuery.toSql .sqlite =
        .ok ⟨"SELECT COUNT(*) AS count FROM \"foos\" " ++
          "WHERE \"a\" = ? AND \"live\" = ? ORDER BY \"a\" DESC",
          [.int 5, .int 1]⟩ ∧
      (liveFoos ordering).countQuery.applyScopes.rowClauses.compile .sqlite =
        (liveFoos ordering).applyScopes.rowClauses.compile .sqlite := by
  have same_iff :=
    (countQuery_rowClauses_iff (liveFoos ordering) .sqlite _ _ rfl rfl rfl
      rfl).2.2.1
  refine ⟨rfl, rfl, same_iff.mpr ⟨rfl, rfl, ?_, ?_⟩⟩
  · exact fun _ member => (List.not_mem_nil member).elim
  · exact fun _ member => (List.not_mem_nil member).elim

set_option maxRecDepth 4000 in
/-- A tenant's condition that comes late restricts the count alone: it is lower
than the number of rows that the query itself gives. -/
theorem lateTenancy_counted_alone :
    (liveFoos tenancy).toSql .sqlite =
        .ok ⟨"SELECT \"foos\".* FROM \"foos\" " ++
          "WHERE \"a\" = ? AND \"live\" = ?", [.int 5, .int 1]⟩ ∧
      (liveFoos tenancy).countQuery.toSql .sqlite =
        .ok ⟨"SELECT COUNT(*) AS count FROM \"foos\" " ++
          "WHERE \"a\" = ? AND \"live\" = ? AND \"tenant_id\" = ?",
          [.int 5, .int 1, .int 7]⟩ ∧
      (liveFoos tenancy).countQuery.applyScopes.rowClauses.compile .sqlite ≠
        (liveFoos tenancy).applyScopes.rowClauses.compile .sqlite := by
  refine ⟨rfl, rfl, fun same => ?_⟩
  simp only [RowClauses.compile, List.map_cons, List.cons.injEq] at same
  have bindings :=
    congrArg (fun run => (run 0).1.map fun done => done.bindings.length)
      same.2.2.1
  exact absurd bindings (by decide)

end Query

end RecordQuery
