import RecordQuery.Proofs.Fragment.Letters

/-!
# The phrases of a statement

A statement is a row of phrases, each a keyword and the body behind it.  Those
that hold conditions are left out with their body; the others are headed, which
are written with their keyword even if the body shows nothing.
-/

namespace RecordQuery

/-- A keyword and the body behind it. -/
structure Phrase where
  keyword : String
  headed : Bool
  body : Fragment
  named : keyword ≠ ""

namespace Phrase

/-- A phrase that is written with its keyword in any case. -/
def head (keyword : String) (body : Fragment)
    (named : keyword ≠ "" := by decide) : Phrase :=
  ⟨keyword, true, body, named⟩

/-- A phrase that is left out when its body is. -/
def led (keyword : String) (body : Fragment)
    (named : keyword ≠ "" := by decide) : Phrase :=
  ⟨keyword, false, body, named⟩

def fragment (phrase : Phrase) : Fragment :=
  if phrase.headed then .joined " " (.text phrase.keyword) phrase.body
  else .led phrase.keyword phrase.body

/-- The phrase as it is written, by the text of its body. -/
def written (phrase : Phrase) (body : String) : String :=
  if body = "" then (if phrase.headed then phrase.keyword else "")
  else phrase.keyword ++ " " ++ body

/-- The phrase with its keyword exactly where its body has a text. -/
def due (phrase : Phrase) (body : String) : String :=
  if body = "" then "" else phrase.keyword ++ " " ++ body

/-- A clause that lists its items, if there are any. -/
def listed (keyword : String) (items : List Fragment)
    (named : keyword ≠ "" := by decide) : List Phrase :=
  if items.isEmpty then [] else [.head keyword (.join ", " items) named]

end Phrase

/-! ## The phrases of each clause -/

def Source.phrases : Source → List Phrase
  | .table reference => [.head "FROM" (tableFragment reference)]
  | .derived query label =>
      [.head "FROM" (.group query), .head "AS" (.name label)]

theorem JoinKind.keyword_ne_empty (kind : JoinKind) : kind.keyword ≠ "" := by
  cases kind <;> decide

def Join.phrases (join : Join) : List Phrase :=
  [.head join.kind.keyword (tableFragment join.table)
      join.kind.keyword_ne_empty,
    .led "ON" join.on.fragment]

namespace Query

/-- What is selected: the columns, or all where there are none. -/
def columnList (query : Query) : Fragment :=
  if query.columns.isEmpty then
    match query.tableName? with
    | some reference => .name (tableName reference ++ ".*")
    | none => .name "*"
  else .join ", " query.columns

def selectPhrase (query : Query) : Phrase :=
  if query.distinct then .head "SELECT DISTINCT" query.columnList
  else .head "SELECT" query.columnList

def limitPhrases (query : Query) : List Phrase :=
  match query.limit?, query.offset? with
  | none, none => []
  | some count, none => [.head "LIMIT" (.text (toString count))]
  | some count, some start =>
      [.head "LIMIT" (.text (toString count)),
        .head "OFFSET" (.text (toString start))]
  | none, some start =>
      [.head "LIMIT" .unlimited, .head "OFFSET" (.text (toString start))]

/-- The phrases of a query in the order in which they are written. -/
def phrases (query : Query) : List Phrase :=
  [[query.selectPhrase],
    (query.source?.map Source.phrases).getD [],
    query.joins.flatMap Join.phrases,
    [.led "WHERE" query.wheres.fragment],
    Phrase.listed "GROUP BY" query.groupBy,
    [.led "HAVING" query.havings.fragment],
    Phrase.listed "ORDER BY" (query.orderBy.map SortKey.fragment),
    query.limitPhrases].flatten

end Query

/-! ## Fragments that show phrases -/

namespace Phrase

theorem print_fragment (dialect : Dialect) (count : Nat) (phrase : Phrase) :
    Item.print dialect count phrase.fragment.items =
      phrase.written (Item.print dialect count phrase.body.items) := by
  unfold fragment written
  split
  · simp [Fragment.print_joined, Fragment.texts, Text.spaced_pair,
      phrase.named]
  · simp only [Fragment.print_led, Fragment.print_eq_empty_iff]
    split_ifs with silent
    · exact (Fragment.print_eq_empty_iff dialect count phrase.body).mpr silent
    · rfl

@[simp]
theorem values_fragment (phrase : Phrase) :
    phrase.fragment.values = phrase.body.values := by
  unfold fragment
  split <;> simp

end Phrase

namespace Fragment

/-- Whether a fragment compiles with the phrases and shows them with single
spaces between them. -/
structure ShowsAs (fragment : Fragment) (phrases : List Phrase) : Prop where
  compilable : ∀ phrase ∈ phrases, phrase.body.IsCompilable
  values : fragment.values = (phrases.map Phrase.fragment).flatMap values
  print : ∀ (dialect : Dialect) (count : Nat),
    Item.print dialect count fragment.items =
      Text.spaced " " (texts dialect count (phrases.map Phrase.fragment))

namespace ShowsAs

theorem nothing : Fragment.nothing.ShowsAs [] :=
  ⟨nofun, by simp, fun dialect count => print_nothing dialect count⟩

theorem phrase {phrase : Phrase} (compilable : phrase.body.IsCompilable) :
    phrase.fragment.ShowsAs [phrase] :=
  ⟨by simpa using compilable, by simp, fun dialect count => by simp [texts]⟩

theorem head {keyword : String} {body : Fragment} (named : keyword ≠ "")
    (compilable : body.IsCompilable) :
    (Fragment.joined " " (text keyword) body).ShowsAs
      [.head keyword body named] := by
  show (Phrase.head keyword body named).fragment.ShowsAs _
  exact phrase compilable

theorem led {keyword : String} {body : Fragment} (named : keyword ≠ "")
    (compilable : body.IsCompilable) :
    (Fragment.led keyword body).ShowsAs [.led keyword body named] := by
  show (Phrase.led keyword body named).fragment.ShowsAs _
  exact phrase compilable

theorem joined {left right : Fragment} {before after : List Phrase}
    (lefts : left.ShowsAs before) (rights : right.ShowsAs after) :
    (joined " " left right).ShowsAs (before ++ after) where
  compilable phrase member :=
    (List.mem_append.mp member).elim (lefts.compilable phrase)
      (rights.compilable phrase)
  values := by
    rw [values_joined, lefts.values, rights.values, List.map_append,
      List.flatMap_append]
  print dialect count := by
    rw [print_joined, List.map_append, texts_append, Text.spaced_append,
      texts, texts, texts, lefts.print, rights.print, lefts.values]

theorem foldl_joined {parts : List Fragment} {lists : List (List Phrase)}
    (each : List.Forall₂ ShowsAs parts lists) :
    ∀ {start : Fragment} {before : List Phrase}, start.ShowsAs before →
      (parts.foldl (.joined " ") start).ShowsAs
        (before ++ lists.flatten) := by
  induction each with
  | nil =>
      intro start before shown
      rw [List.flatten_nil, List.append_nil]
      exact shown
  | cons first _ inductionHypothesis =>
      intro start before shown
      rw [List.flatten_cons, ← List.append_assoc]
      exact inductionHypothesis (shown.joined first)

theorem join {parts : List Fragment} {lists : List (List Phrase)}
    (each : List.Forall₂ ShowsAs parts lists) :
    (join " " parts).ShowsAs lists.flatten :=
  foldl_joined each nothing

/-- What is printed alike and binds the same values shows the same. -/
theorem congr {fragment other : Fragment} {phrases : List Phrase}
    (shown : other.ShowsAs phrases) (values : fragment.values = other.values)
    (alike : ∀ (dialect : Dialect) (count : Nat),
      Item.print dialect count fragment.items =
        Item.print dialect count other.items) :
    fragment.ShowsAs phrases :=
  ⟨shown.compilable, values.trans shown.values,
    fun dialect count => (alike dialect count).trans
      (shown.print dialect count)⟩

/-- A keyword with a space behind it may stand before a body that shows. -/
theorem mark {keyword marked : String} {body : Fragment}
    (named : keyword ≠ "") (spells : marked = keyword ++ " ")
    (compilable : body.IsCompilable) (seen : body.isSilent = false) :
    (Fragment.joined "" (text marked) body).ShowsAs
      [.head keyword body named] := by
  refine congr (head named compilable) (by simp) ?_
  intro dialect count
  have shows := (print_eq_empty_iff dialect count body).not.mpr (by simp [seen])
  simp [print_joined, texts, Text.spaced_pair, shows, spells, named]

/-- A keyword and a word may stand in one text. -/
theorem words {keyword word sql : String} (named : keyword ≠ "")
    (spells : sql = keyword ++ " " ++ word) (seen : word ≠ "") :
    (text sql).ShowsAs [.head keyword (text word) named] := by
  refine congr (head named (isCompilable_text word)) (by simp) ?_
  intro dialect count
  simp [print_joined, texts, Text.spaced_pair, seen, spells, named]

end ShowsAs

end Fragment

/-! ## What each clause shows -/

theorem isSilent_tableFragment {reference : String}
    (compilable : (tableFragment reference).IsCompilable) :
    (tableFragment reference).isSilent = false := by
  revert compilable
  refine tableFragment_cases
    (motive := fun fragment =>
      fragment.IsCompilable → fragment.isSilent = false) ?_ ?_ reference
  · exact fun path => Fragment.isSilent_name
  · intro path label _
    have mark : (Fragment.text " AS ").isSilent = false := by decide
    simp [mark]

theorem Source.showsAs {source : Source}
    (compilable : source.fragment.IsCompilable) :
    source.fragment.ShowsAs source.phrases := by
  cases source with
  | table reference =>
      have table := ((Fragment.isCompilable_joined _ _ _).mp compilable).2
      exact .mark (by decide) (by decide) table (isSilent_tableFragment table)
  | derived query label =>
      have parts :
          (Fragment.group query).IsCompilable ∧
            (Fragment.name label).IsCompilable := by
        simpa [Source.fragment] using compilable
      exact .joined (.head (by decide) parts.1)
        (.mark (by decide) (by decide) parts.2
          (Fragment.isSilent_name parts.2))

theorem Join.showsAs {join : Join}
    (compilable : join.fragment.IsCompilable) :
    join.fragment.ShowsAs join.phrases := by
  have parts :
      (tableFragment join.table).IsCompilable ∧
        join.on.fragment.IsCompilable := by
    simpa [Join.fragment] using compilable
  exact .joined
    (.mark join.kind.keyword_ne_empty rfl parts.1
      (isSilent_tableFragment parts.1))
    (.led (by decide) parts.2)

theorem Phrase.listed_showsAs {keyword : String} {items : List Fragment}
    (named : keyword ≠ "")
    (compilable : (Query.listed keyword items).IsCompilable) :
    (Query.listed keyword items).ShowsAs (listed keyword items named) := by
  unfold Query.listed at compilable ⊢
  unfold listed
  split
  · exact .nothing
  · rename_i some
    rw [if_neg some] at compilable
    exact .head named ((Fragment.isCompilable_joined _ _ _).mp compilable).2

namespace Query

theorem selectFragment_showsAs {query : Query}
    (compilable : query.selectFragment.IsCompilable) :
    query.selectFragment.ShowsAs [query.selectPhrase] := by
  have columns : query.columnList.IsCompilable :=
    ((Fragment.isCompilable_joined _ _ _).mp compilable).2
  unfold selectFragment selectPhrase
  cases query.distinct with
  | true => exact .head (by decide) columns
  | false => exact .head (by decide) columns

theorem limitFragment_showsAs (query : Query) :
    query.limitFragment.ShowsAs query.limitPhrases := by
  unfold limitFragment limitPhrases
  cases query.limit? with
  | none =>
      cases query.offset? with
      | none => exact .nothing
      | some start =>
          have unlimited := Fragment.isCompilable_unlimited
          refine .congr (.joined (.head (by decide) unlimited)
            (.words (by decide) rfl (by simp))) (by simp) ?_
          intro dialect count
          have shows := dialect.limitAll_ne_empty
          apply String.toList_injective
          simp [Fragment.print_joined, Fragment.texts, Text.spaced_pair, shows]
  | some count =>
      cases query.offset? with
      | none => exact .words (by decide) rfl (by simp)
      | some start =>
          refine .congr (.joined (.words (by decide) rfl (by simp))
            (.words (by decide) rfl (by simp))) (by simp) ?_
          intro dialect count
          apply String.toList_injective
          simp [Fragment.print_joined, Fragment.texts, Text.spaced_pair]

theorem layout_showsAs {query : Query}
    (compilable : query.layout.IsCompilable) :
    query.layout.ShowsAs query.phrases := by
  have faultless := fault?_eq_none_of_isCompilable compilable
  obtain ⟨select, source, joins, wheres, groupBy, havings, orderBy, -⟩ :=
    (isCompilable_layout_iff faultless).mp compilable
  rw [layout, faultless]
  refine .join (.cons (selectFragment_showsAs select) <| .cons ?_ <|
    .cons ?_ <| .cons (.led (by decide) wheres) <|
    .cons (Phrase.listed_showsAs _ groupBy) <|
    .cons (.led (by decide) havings) <|
    .cons (Phrase.listed_showsAs _ orderBy) <|
    .cons query.limitFragment_showsAs .nil)
  · cases held : query.source? with
    | none => exact .nothing
    | some from_ =>
        rw [held] at source
        exact Source.showsAs source
  · rw [List.flatMap_def]
    refine .join ?_
    rw [List.forall₂_map_left_iff, List.forall₂_map_right_iff,
      List.forall₂_same]
    exact fun join member => Join.showsAs (joins join member)

end Query

/-! ## Keywords and bodies -/

namespace Text

variable (separator : String)

/-- The letters that a text takes up among others, with a separator behind it if
it has any. -/
def weight (text : String) : Nat :=
  if text = "" then 0 else text.length + separator.length

theorem weight_spaced_pair (first second : String) :
    weight separator (spaced separator [first, second]) =
      weight separator first + weight separator second := by
  rw [spaced_pair]
  split_ifs with secondEmpty firstEmpty
  · simp [weight, secondEmpty]
  · simp [weight, firstEmpty]
  · simp only [weight, String.append_eq_empty_iff, firstEmpty, secondEmpty,
      and_false, if_false, String.length_append]
    omega

theorem weight_spaced_cons (text : String) (rest : List String) :
    weight separator (spaced separator (text :: rest)) =
      weight separator text + weight separator (spaced separator rest) := by
  rw [← List.singleton_append, spaced_append, spaced_singleton,
    weight_spaced_pair]

end Text

namespace Phrase

section Texts

variable {phrases : List Phrase} {bodies : List String}

theorem written_eq_due {phrase : Phrase} {body : String}
    (filled : phrase.headed = true → body ≠ "") :
    phrase.written body = phrase.due body := by
  unfold written due
  split_ifs with empty headed
  · exact (filled headed empty).elim
  · rfl
  · rfl

theorem weight_due_le (phrase : Phrase) (body : String) :
    Text.weight " " (phrase.due body) ≤
      Text.weight " " (phrase.written body) := by
  unfold written due
  split_ifs
  · exact Nat.zero_le _
  · exact Nat.le_refl _
  · exact Nat.le_refl _

theorem weight_due_lt {phrase : Phrase} (headed : phrase.headed = true) :
    Text.weight " " (phrase.due "") < Text.weight " " (phrase.written "") := by
  have separated : 0 < (" " : String).length := by decide
  simp only [Text.weight, written, due, headed, phrase.named, if_true,
    if_false]
  omega

theorem weight_spaced_due_le :
    Text.weight " " (Text.spaced " " (List.zipWith due phrases bodies)) ≤
      Text.weight " "
        (Text.spaced " " (List.zipWith written phrases bodies)) := by
  induction phrases generalizing bodies with
  | nil => exact Nat.le_refl _
  | cons phrase phrases inductionHypothesis =>
      cases bodies with
      | nil => exact Nat.le_refl _
      | cons body bodies =>
          simp only [List.zipWith_cons_cons, Text.weight_spaced_cons]
          exact Nat.add_le_add (weight_due_le phrase body) inductionHypothesis

/-- A keyword without a body takes letters that no other phrase makes up for. -/
theorem filled_of_weight_le
    (enough :
      Text.weight " "
          (Text.spaced " " (List.zipWith written phrases bodies)) ≤
        Text.weight " " (Text.spaced " " (List.zipWith due phrases bodies))) :
    ∀ entry ∈ phrases.zip bodies, entry.1.headed = true → entry.2 ≠ "" := by
  induction phrases generalizing bodies with
  | nil => exact nofun
  | cons phrase phrases inductionHypothesis =>
      cases bodies with
      | nil => exact nofun
      | cons body bodies =>
          simp only [List.zipWith_cons_cons,
            Text.weight_spaced_cons] at enough
          have first := weight_due_le phrase body
          have others := @weight_spaced_due_le phrases bodies
          rw [List.zip_cons_cons, List.forall_mem_cons]
          refine ⟨?_, inductionHypothesis (by omega)⟩
          rintro headed rfl
          have less : Text.weight " " (phrase.due "") < _ :=
            weight_due_lt headed
          omega

theorem spaced_written_eq_iff :
    Text.spaced " " (List.zipWith written phrases bodies) =
        Text.spaced " " (List.zipWith due phrases bodies) ↔
      ∀ entry ∈ phrases.zip bodies, entry.1.headed = true → entry.2 ≠ "" := by
  constructor
  · intro same
    exact filled_of_weight_le (Nat.le_of_eq (congrArg _ same))
  · intro filled
    rw [← List.map_uncurry_zip_eq_zipWith, ← List.map_uncurry_zip_eq_zipWith]
    refine congrArg (Text.spaced " ") (List.map_congr_left ?_)
    exact fun entry member => written_eq_due (filled entry member)

end Texts

theorem returns_bodies (dialect : Dialect) {phrases : List Phrase} :
    (∀ phrase ∈ phrases, phrase.body.IsCompilable) → ∀ count : Nat,
      ∃ bodies after,
        Returns (phrases.mapM fun phrase => phrase.body.compile dialect) count
          bodies after ∧
        List.zipWith written phrases (bodies.map Compiled.sql) =
          Fragment.texts dialect count (phrases.map fragment) ∧
        bodies.flatMap Compiled.bindings =
          (phrases.map fragment).flatMap Fragment.values ∧
        List.Forall₂
          (fun phrase body => body.sql = "" ↔ phrase.body.isSilent = true)
          phrases bodies := by
  induction phrases with
  | nil =>
      intro _ count
      exact ⟨[], count, by simp, rfl, rfl, .nil⟩
  | cons phrase rest inductionHypothesis =>
      intro compilable count
      obtain ⟨first, later⟩ := List.forall_mem_cons.mp compilable
      obtain ⟨body, between, returned⟩ :=
        (Fragment.returns_compile_iff dialect phrase.body count).mpr first
      have printed := Fragment.compile_isPrinted dialect phrase.body returned
      obtain ⟨bodies, after, others, texts, bindings, shown⟩ :=
        inductionHypothesis later between
      refine ⟨body :: bodies, after, ?_, ?_, ?_, .cons ?_ shown⟩
      · rw [List.mapM_cons]
        simp only [Returns.bind_iff, Returns.pure_iff]
        exact ⟨body, between, returned, bodies, after, others, rfl, rfl⟩
      · rw [List.map_cons, List.zipWith_cons_cons, texts, List.map_cons,
          Fragment.texts, print_fragment, values_fragment, printed.sql,
          printed.count]
        rfl
      · rw [List.flatMap_cons, List.map_cons, List.flatMap_cons, bindings,
          values_fragment, printed.bindings]
        rfl
      · rw [printed.sql]
        exact Fragment.print_eq_empty_iff dialect count phrase.body

end Phrase

/-! ## Statements that keep to their keywords -/

/-- Whether a statement selects something and has the keyword of each phrase
exactly where the body of the phrase has a text. -/
structure KeepsKeywords (phrases : List Phrase) (bodies : List Compiled)
    (sql : String) : Prop where
  selects : ∃ columns others, bodies = columns :: others ∧ columns.sql ≠ ""
  keywords :
    sql =
      Text.spaced " " (List.zipWith Phrase.due phrases
        (bodies.map Compiled.sql))

theorem SortKey.isSilent_fragment (key : SortKey) :
    key.fragment.isSilent = (key.expression.isSilent && !key.descending) := by
  have mark : (Fragment.text " DESC").isSilent = false := by decide
  unfold fragment
  cases key.descending <;> simp [mark]

namespace Query

/-- Whether each list of a query that has entries has one that shows, and what
the query selects from shows. -/
structure HasBodies (query : Query) : Prop where
  columns : query.columns = [] ∨
    ∃ column ∈ query.columns, column.isSilent = false
  source : ∀ sub label, query.source? = some (.derived sub label) →
    sub.isSilent = false
  groupBy : query.groupBy = [] ∨
    ∃ item ∈ query.groupBy, item.isSilent = false
  orderBy : query.orderBy = [] ∨
    ∃ key ∈ query.orderBy, key.descending = true ∨
      key.expression.isSilent = false

end Query

/-- Whether no headed phrase lacks a body. -/
def Phrase.AreFilled (phrases : List Phrase) : Prop :=
  ∀ phrase ∈ phrases, phrase.headed = true → phrase.body.isSilent = false

namespace Phrase

theorem areFilled_append (before after : List Phrase) :
    AreFilled (before ++ after) ↔ AreFilled before ∧ AreFilled after :=
  List.forall_mem_append

theorem areFilled_nil : AreFilled [] :=
  nofun

theorem areFilled_led {keyword : String} (body : Fragment)
    (named : keyword ≠ "") : AreFilled [led keyword body named] := by
  simp [AreFilled, led]

theorem areFilled_head_cons {keyword : String} {body : Fragment}
    (named : keyword ≠ "") (others : List Phrase) :
    AreFilled (head keyword body named :: others) ↔
      body.isSilent = false ∧ AreFilled others := by
  simp [AreFilled, head]

theorem areFilled_iff_of_shown {phrases : List Phrase}
    {bodies : List Compiled}
    (shown : List.Forall₂
      (fun phrase body => body.sql = "" ↔ phrase.body.isSilent = true)
      phrases bodies) :
    AreFilled phrases ↔
      ∀ entry ∈ phrases.zip (bodies.map Compiled.sql),
        entry.1.headed = true → entry.2 ≠ "" := by
  unfold AreFilled
  induction shown with
  | nil => simp
  | cons same _ inductionHypothesis =>
      rw [List.map_cons, List.zip_cons_cons, List.forall_mem_cons,
        List.forall_mem_cons, inductionHypothesis, ne_eq, same,
        Bool.not_eq_true]

/-- A statement that begins with a headed phrase keeps to its keywords exactly
when no headed phrase lacks a body. -/
theorem keepsKeywords_iff {phrases others : List Phrase} {first : Phrase}
    {bodies : List Compiled} {sql : String}
    (leads : phrases = first :: others) (headed : first.headed = true)
    (shown : List.Forall₂
      (fun phrase body => body.sql = "" ↔ phrase.body.isSilent = true)
      phrases bodies)
    (laidOut :
      sql =
        Text.spaced " "
          (List.zipWith written phrases (bodies.map Compiled.sql))) :
    KeepsKeywords phrases bodies sql ↔ AreFilled phrases := by
  have keywords :
      AreFilled phrases ↔
        sql =
          Text.spaced " "
            (List.zipWith due phrases (bodies.map Compiled.sql)) := by
    rw [areFilled_iff_of_shown shown, ← spaced_written_eq_iff, ← laidOut]
  constructor
  · exact fun kept => keywords.mpr kept.keywords
  · intro filled
    refine ⟨?_, keywords.mp filled⟩
    subst leads
    have seen := filled first List.mem_cons_self headed
    cases shown with
    | @cons _ columns _ rest same _ =>
        refine ⟨columns, rest, rfl, ?_⟩
        rw [ne_eq, same, seen]
        exact Bool.false_ne_true

theorem isSilent_join_eq_false_iff {separator : String}
    {parts : List Fragment} :
    (Fragment.join separator parts).isSilent = false ↔
      ∃ part ∈ parts, part.isSilent = false := by
  simp [List.all_eq_false]

/-- The keyword of a list is right exactly when the list has no entries or one
that shows. -/
theorem areFilled_listed_iff {keyword : String} {items : List Fragment}
    (named : keyword ≠ "") :
    AreFilled (listed keyword items named) ↔
      items = [] ∨ ∃ item ∈ items, item.isSilent = false := by
  cases items with
  | nil => exact iff_of_true areFilled_nil (Or.inl rfl)
  | cons first rest =>
      have some : listed keyword (first :: rest) named =
          [head keyword (.join ", " (first :: rest)) named] :=
        rfl
      rw [some, areFilled_head_cons, isSilent_join_eq_false_iff,
        and_iff_left areFilled_nil, or_iff_right (List.cons_ne_nil _ _)]

end Phrase

namespace Query

variable {query : Query}

theorem isSilent_columnList_iff (compilable : query.columnList.IsCompilable) :
    query.columnList.isSilent = false ↔
      query.columns = [] ∨
        ∃ column ∈ query.columns, column.isSilent = false := by
  unfold columnList at compilable ⊢
  cases listed : query.columns with
  | nil =>
      rw [listed] at compilable
      refine iff_of_true ?_ (Or.inl rfl)
      cases from_ : query.tableName? with
      | none =>
          rw [from_] at compilable
          exact Fragment.isSilent_name compilable
      | some reference =>
          rw [from_] at compilable
          exact Fragment.isSilent_name compilable
  | cons first rest =>
      rw [or_iff_right (List.cons_ne_nil _ _)]
      exact Phrase.isSilent_join_eq_false_iff

theorem areFilled_source_iff
    (compilable :
      ((query.source?.map Source.fragment).getD .nothing).IsCompilable) :
    Phrase.AreFilled ((query.source?.map Source.phrases).getD []) ↔
      ∀ sub label, query.source? = some (.derived sub label) →
        sub.isSilent = false := by
  cases held : query.source? with
  | none => exact iff_of_true Phrase.areFilled_nil nofun
  | some source =>
      rw [held] at compilable
      have shown := Source.showsAs compilable
      show Phrase.AreFilled source.phrases ↔ _
      cases source with
      | table reference =>
          refine iff_of_true ?_ nofun
          have table := shown.compilable _ List.mem_cons_self
          exact (Phrase.areFilled_head_cons _ _).mpr
            ⟨isSilent_tableFragment table, Phrase.areFilled_nil⟩
      | derived sub label =>
          have named :=
            Fragment.isSilent_name <|
              shown.compilable _ (List.mem_cons_of_mem _ List.mem_cons_self)
          rw [Source.phrases, Phrase.areFilled_head_cons,
            Phrase.areFilled_head_cons, Fragment.isSilent_group]
          constructor
          · rintro ⟨seen, -⟩ _ _ same
            cases same
            exact seen
          · intro seen
            exact ⟨seen sub label rfl, named, Phrase.areFilled_nil⟩

theorem areFilled_joins
    (compilable : ∀ join ∈ query.joins, join.fragment.IsCompilable) :
    Phrase.AreFilled (query.joins.flatMap Join.phrases) := by
  intro phrase member
  obtain ⟨join, joined, within⟩ := List.mem_flatMap.mp member
  have shown := Join.showsAs (compilable join joined)
  have table := shown.compilable _ List.mem_cons_self
  have filled : Phrase.AreFilled join.phrases :=
    (Phrase.areFilled_head_cons _ _).mpr
      ⟨isSilent_tableFragment table, Phrase.areFilled_led _ _⟩
  exact filled phrase within

theorem areFilled_limit : Phrase.AreFilled query.limitPhrases := by
  have number (count : Nat) :
      (Fragment.text (toString count)).isSilent = false :=
    Fragment.isSilent_text_of_ne (by simp)
  have unlimited : Fragment.unlimited.isSilent = false := rfl
  unfold limitPhrases
  split
  · exact Phrase.areFilled_nil
  all_goals simp only [Phrase.areFilled_head_cons, number, unlimited,
    Phrase.areFilled_nil, and_self]

theorem areFilled_phrases_iff (compilable : query.layout.IsCompilable) :
    Phrase.AreFilled query.phrases ↔ query.HasBodies := by
  have faultless := fault?_eq_none_of_isCompilable compilable
  obtain ⟨select, source, joins, -, -, -, -, -⟩ :=
    (isCompilable_layout_iff faultless).mp compilable
  have columns :
      Phrase.AreFilled [query.selectPhrase] ↔
        query.columns = [] ∨
          ∃ column ∈ query.columns, column.isSilent = false := by
    have list := ((Fragment.isCompilable_joined _ _ _).mp select).2
    rw [← isSilent_columnList_iff list]
    unfold selectPhrase
    split <;> simp [Phrase.areFilled_head_cons, Phrase.areFilled_nil]
  have orderBy :
      Phrase.AreFilled
          (Phrase.listed "ORDER BY" (query.orderBy.map SortKey.fragment)) ↔
        query.orderBy = [] ∨
          ∃ key ∈ query.orderBy, key.descending = true ∨
            key.expression.isSilent = false := by
    rw [Phrase.areFilled_listed_iff, List.map_eq_nil_iff]
    refine or_congr_right ?_
    simp only [List.mem_map, exists_exists_and_eq_and,
      SortKey.isSilent_fragment, Bool.and_eq_false_iff, Bool.not_eq_false',
      or_comm]
  simp only [phrases, List.flatten_cons, List.flatten_nil,
    Phrase.areFilled_append, columns, areFilled_source_iff source,
    areFilled_joins joins, Phrase.areFilled_led, Phrase.areFilled_listed_iff,
    orderBy, areFilled_limit, Phrase.areFilled_nil, and_true, true_and]
  exact ⟨fun ⟨columns, source, groupBy, orderBy⟩ =>
      ⟨columns, source, groupBy, orderBy⟩,
    fun ⟨columns, source, groupBy, orderBy⟩ =>
      ⟨columns, source, groupBy, orderBy⟩⟩

/-- A statement is its phrases with single spaces between them, where the
keyword of a headed phrase stands even without a body, and it binds what the
bodies bind, in that order.  It keeps to its keywords exactly when the select
list, GROUP BY and ORDER BY, as far as they have entries, have one that shows,
and what the query selects from shows. -/
theorem toSql_keepsKeywords_iff {query : Query} {dialect : Dialect}
    {compiled : Compiled} (compiles : query.toSql dialect = .ok compiled) :
    ∃ bodies after,
      Returns
        (query.applyScopes.phrases.mapM fun phrase =>
          phrase.body.compile dialect)
        0 bodies after ∧
      compiled.bindings = bodies.flatMap Compiled.bindings ∧
      compiled.sql =
        Text.spaced " " (List.zipWith Phrase.written query.applyScopes.phrases
          (bodies.map Compiled.sql)) ∧
      (KeepsKeywords query.applyScopes.phrases bodies compiled.sql ↔
        query.applyScopes.HasBodies) := by
  have compilable : query.applyScopes.layout.IsCompilable :=
    (Fragment.exists_toSql_iff dialect _).mp ⟨compiled, compiles⟩
  have shown := layout_showsAs compilable
  have printed :=
    Fragment.toSql_of_isCompilable dialect compilable
  rw [← fragment] at printed
  have same := Except.ok.inj (compiles.symm.trans printed)
  subst same
  obtain ⟨bodies, after, returned, texts, bindings, silent⟩ :=
    Phrase.returns_bodies dialect shown.compilable 0
  have laidOut :
      Item.print dialect 0 query.fragment.items =
        Text.spaced " "
          (List.zipWith Phrase.written query.applyScopes.phrases
            (bodies.map Compiled.sql)) := by
    rw [texts]
    exact shown.print dialect 0
  refine ⟨bodies, after, returned, shown.values.trans bindings.symm, laidOut,
    ?_⟩
  · rw [← areFilled_phrases_iff compilable]
    refine Phrase.keepsKeywords_iff rfl ?_ silent laidOut
    unfold selectPhrase
    split <;> rfl

/-- Rows by an empty piece of SQL, then by a column from its end. -/
def latestFirst : Query :=
  (table "foos").applyAll
    [.filter .where_ (.compare .and "size" ">" (.int 3)),
      .orderBy ⟨.raw "" [], false⟩, .orderBy ⟨.name "id", true⟩, .limit 2]

/-- An empty sort key before another leaves no trace. -/
theorem toSql_keepsKeywords_iff_latestFirst :
    latestFirst.toSql .postgres =
        .ok ⟨"SELECT \"foos\".* FROM \"foos\" WHERE \"size\" > $1 " ++
          "ORDER BY \"id\" DESC LIMIT 2", [.int 3]⟩ ∧
      ∃ bodies, KeepsKeywords latestFirst.applyScopes.phrases bodies
        ("SELECT \"foos\".* FROM \"foos\" WHERE \"size\" > $1 " ++
          "ORDER BY \"id\" DESC LIMIT 2") := by
  have compiles :
      latestFirst.toSql .postgres =
        .ok ⟨"SELECT \"foos\".* FROM \"foos\" WHERE \"size\" > $1 " ++
          "ORDER BY \"id\" DESC LIMIT 2", [.int 3]⟩ := by
    rfl
  obtain ⟨bodies, _, -, -, -, kept⟩ := toSql_keepsKeywords_iff compiles
  refine ⟨compiles, bodies, kept.mpr ⟨Or.inl rfl, nofun, Or.inl rfl, ?_⟩⟩
  exact Or.inr ⟨⟨.name "id", true⟩,
    List.mem_cons_of_mem _ List.mem_cons_self, Or.inl rfl⟩

/-- Rows by an empty piece of SQL alone. -/
def unsorted : Query :=
  (table "foos").applyAll [.orderBy ⟨.raw "" [], false⟩]

/-- A sort key that shows nothing leaves its keyword at the end. -/
theorem keyword_without_body :
    let compiled : Compiled :=
      ⟨"SELECT \"foos\".* FROM \"foos\" ORDER BY", []⟩
    let bodies : List Compiled :=
      [⟨"\"foos\".*", []⟩, ⟨"\"foos\"", []⟩, {}, {}, {}]
    unsorted.toSql .sqlite = .ok compiled ∧
      Returns
        (unsorted.applyScopes.phrases.mapM fun phrase =>
          phrase.body.compile .sqlite) 0 bodies 0 ∧
      ¬KeepsKeywords unsorted.applyScopes.phrases bodies compiled.sql := by
  refine ⟨by rfl, by rfl, fun kept => absurd kept.keywords ?_⟩
  decide +kernel

end Query

end RecordQuery
