import RecordQuery.Proofs.Fragment.Letters
import RecordQuery.Proofs.Ident.Grammar
import RecordQuery.Proofs.Model.Failures
import RecordQuery.Proofs.Text.Pieces

/-!
# Tables without an alias

A table reference is divided at white space before its names are read, quotes or
not.  A path without white space is the table and qualifies the star; one with
white space in a quoted name is cut inside the quotes, so that what is left
behind the cut has an odd number of quotes and is no identifier.
-/

namespace RecordQuery

open Text

/-! ## Words -/

namespace Text

theorem words_of_visible {letters : List Char} (some : letters ≠ [])
    (visible : ∀ letter ∈ letters, isBlank letter = false) :
    words letters = [letters] := by
  have kept : letters.isEmpty = false := by simpa using some
  rw [words, pieces_of_none visible, List.filter_cons, kept]
  rfl

theorem getLast?_words {blank : Char} {before word : List Char}
    (cut : isBlank blank = true) (some : word ≠ [])
    (visible : ∀ letter ∈ word, isBlank letter = false) :
    (words (before ++ blank :: word)).getLast? = .some word := by
  have last := words_of_visible some visible
  rw [words] at last
  rw [words, pieces_append cut, List.filter_append, last,
    List.getLast?_concat]

/-- Letters with white space in them are cut at the last. -/
theorem exists_last_blank {letters : List Char}
    (cut : ∃ letter ∈ letters, isBlank letter = true) :
    ∃ before blank word, letters = before ++ blank :: word ∧
      isBlank blank = true ∧ ∀ letter ∈ word, isBlank letter = false := by
  induction letters with
  | nil =>
      obtain ⟨letter, member, -⟩ := cut
      exact (List.not_mem_nil member).elim
  | cons first rest inductionHypothesis =>
      by_cases later : ∃ letter ∈ rest, isBlank letter = true
      · obtain ⟨before, blank, word, rfl, isBlank, visible⟩ :=
          inductionHypothesis later
        exact ⟨first :: before, blank, word, rfl, isBlank, visible⟩
      · push Not at later
        simp only [Bool.not_eq_true] at later
        obtain ⟨letter, member, blank⟩ := cut
        rcases List.mem_cons.mp member with rfl | member
        · exact ⟨[], letter, rest, rfl, blank, later⟩
        · rw [later letter member] at blank
          cases blank

end Text

/-! ## Quotes that are open -/

namespace Ident

/-- Where the reader stands after one more letter of a path. -/
inductive Stage.Steps : Stage → Char → Stage → Prop
  | star : Steps .start '*' .star
  | opens : Steps .start '"' (.quoted [])
  | begins {letter : Char} (starts : startsName letter = true) :
      Steps .start letter (.plain [letter])
  | goesOn {name : List Char} {letter : Char}
      (continues : continuesName letter = true) :
      Steps (.plain name) letter (.plain (letter :: name))
  | leavesPlain {name : List Char} : Steps (.plain name) '.' .start
  | holds {name : List Char} {letter : Char} (other : letter ≠ '"') :
      Steps (.quoted name) letter (.quoted (letter :: name))
  | closes {name : List Char} : Steps (.quoted name) '"' (.closing name)
  | doubles {name : List Char} :
      Steps (.closing name) '"' (.quoted ('"' :: name))
  | leavesQuoted {name : List Char} : Steps (.closing name) '.' .start

theorem exists_steps_of_read {stage : Stage} {letter : Char}
    {rest : List Char} {parts : List Part}
    (found : read stage (letter :: rest) = .ok parts) :
    ∃ next later, stage.Steps letter next ∧ read next rest = .ok later := by
  cases stage with
  | start =>
      rw [read] at found
      split_ifs at found with star quote dot starts
      · exact ⟨_, _, star ▸ .star, found⟩
      · exact ⟨_, _, quote ▸ .opens, found⟩
      · exact ⟨_, _, .begins starts, found⟩
  | plain name =>
      rw [read] at found
      split_ifs at found with dot continues
      · obtain ⟨later, behind, -⟩ := (map_eq_ok_iff _ _ _).mp found
        exact ⟨_, _, dot ▸ .leavesPlain, behind⟩
      · exact ⟨_, _, .goesOn continues, found⟩
  | quoted name =>
      rw [read] at found
      split_ifs at found with quote
      · exact ⟨_, _, quote ▸ .closes, found⟩
      · exact ⟨_, _, .holds quote, found⟩
  | closing name =>
      rw [read.eq_9] at found
      split_ifs at found with quote empty dot
      · rw [quote]
        exact ⟨_, _, .doubles, found⟩
      · obtain ⟨later, behind, -⟩ := (map_eq_ok_iff _ _ _).mp found
        exact ⟨_, _, dot ▸ .leavesQuoted, behind⟩
  | star => cases found

/-- The quotes that a reader waits for. -/
def Stage.openQuotes : Stage → Nat
  | .quoted _ => 1
  | _ => 0

theorem Stage.Steps.openQuotes {stage next : Stage} {letter : Char}
    (steps : stage.Steps letter next) (rest : List Char)
    (later : rest.count '"' % 2 = next.openQuotes) :
    (letter :: rest).count '"' % 2 = stage.openQuotes := by
  cases steps with
  | begins starts =>
      have other : letter ≠ '"' := by
        rintro rfl
        cases starts
      rw [List.count_cons_of_ne other]
      exact later
  | goesOn continues =>
      have other : letter ≠ '"' := by
        rintro rfl
        cases continues
      rw [List.count_cons_of_ne other]
      exact later
  | holds other =>
      rw [List.count_cons_of_ne other]
      exact later
  | _ =>
      simp [Stage.openQuotes] at later ⊢
      omega

/-- The quotes of what is read come in pairs, but for one that is open. -/
theorem count_quotes_of_read {letters : List Char} :
    ∀ {stage : Stage} {parts : List Part}, read stage letters = .ok parts →
      letters.count '"' % 2 = stage.openQuotes := by
  induction letters with
  | nil =>
      intro stage parts found
      cases stage with
      | quoted name => cases found
      | _ => rfl
  | cons letter rest inductionHypothesis =>
      intro stage parts found
      obtain ⟨next, later, steps, behind⟩ := exists_steps_of_read found
      exact steps.openQuotes rest (inductionHypothesis behind)

theorem isBlank_eq_false_of_continuesName {letter : Char}
    (continues : continuesName letter = true) : isBlank letter = false := by
  have bounds : 36 ≤ letter.toNat ∧ letter.toNat ≤ 122 := by
    have isName := (continuesName_iff letter).mp continues
    simp only [IsNameLetter, IsNameStart, Char.le_def,
      UInt32.le_iff_toNat_le, Char.toNat_val, Char.reduceToNat] at isName
    rcases isName with (inRange | inRange | rfl) | inRange | rfl
    · omega
    · omega
    · decide
    · omega
    · decide
  simp only [isBlank, Bool.or_eq_false_iff, Bool.and_eq_false_iff,
    decide_eq_false_iff_not, beq_eq_false_iff_ne]
  omega

theorem continuesName_of_startsName {letter : Char}
    (starts : startsName letter = true) : continuesName letter = true := by
  rw [continuesName_iff]
  exact Or.inl ((startsName_iff letter).mp starts)

theorem Stage.Steps.quoted_of_blank {stage next : Stage} {letter : Char}
    (steps : stage.Steps letter next) (blank : isBlank letter = true) :
    next.openQuotes = 1 := by
  cases steps with
  | holds other => rfl
  | begins starts =>
      have visible := isBlank_eq_false_of_continuesName
        (continuesName_of_startsName starts)
      rw [visible] at blank
      cases blank
  | goesOn continues =>
      rw [isBlank_eq_false_of_continuesName continues] at blank
      cases blank
  | _ => cases blank

/-- White space is read inside quotes only. -/
theorem odd_quotes_behind_blank {blank : Char} {rest before : List Char}
    (cut : isBlank blank = true) :
    ∀ {stage : Stage} {parts : List Part},
      read stage (before ++ blank :: rest) = .ok parts →
        rest.count '"' % 2 = 1 := by
  induction before with
  | nil =>
      intro stage parts found
      obtain ⟨next, later, steps, behind⟩ := exists_steps_of_read found
      rw [count_quotes_of_read behind, steps.quoted_of_blank cut]
  | cons letter before inductionHypothesis =>
      intro stage parts found
      obtain ⟨next, later, -, behind⟩ := exists_steps_of_read found
      exact inductionHypothesis behind

/-- A path goes on with a star. -/
theorem IsPath.append_star {parts : List Part} {letters : List Char}
    (path : IsPath parts letters) (named : parts.getLast? ≠ some .star) :
    IsPath (parts ++ [.star]) (letters ++ ['.', '*']) := by
  have star : IsPath [Part.star] ['*'] := .last trivial
  induction path with
  | last writable =>
      exact .dot writable (by simpa using named) star
  | @dot part parts letters writable own later inductionHypothesis =>
      have some : parts ≠ [] := by
        rintro rfl
        cases later
      rw [List.getLast?_cons_of_ne_nil some] at named
      rw [List.append_assoc, List.cons_append]
      exact .dot writable own (inductionHypothesis named)

theorem render_append_star (dialect : Dialect) {parts : List Part}
    (some : parts ≠ []) :
    (Ident.mk (parts ++ [.star])).render dialect =
      (Ident.mk parts).render dialect ++ ".*" := by
  have mapped : parts.map (Part.render dialect) ≠ [] := by simpa using some
  rw [render, List.map_append, List.map_singleton,
    String.intercalate_append_of_ne_nil mapped (List.cons_ne_nil _ _),
    String.append_assoc]
  rfl

theorem parse_append_star {text : String} {ident : Ident}
    (parsed : parse text = .ok ident) (named : ident.isWildcard = false) :
    parse (text ++ ".*") = .ok ⟨ident.parts ++ [.star]⟩ := by
  obtain ⟨path, nulFree⟩ := (parse_eq_ok_iff text ident).mp parsed
  have letters : (text ++ ".*").toList = text.toList ++ ['.', '*'] := by
    simp
  refine (parse_eq_ok_iff _ _).mpr ⟨?_, ?_⟩
  · rw [letters]
    exact path.append_star (by simpa [isWildcard] using named)
  · rw [letters]
    simpa using nulFree

end Ident

/-! ## Queries of a table -/

/-- What is behind the last white space of a path is no identifier with a star
behind it. -/
theorem exists_fault_of_blank {text : String} {ident : Ident}
    (parsed : Ident.parse text = .ok ident)
    (cut : ∃ letter ∈ text.toList, isBlank letter = true) :
    ∃ fault, Ident.parse (tableName text ++ ".*") = .error fault := by
  obtain ⟨before, blank, word, shape, isBlank, visible⟩ :=
    exists_last_blank cut
  have path := ((Ident.parse_eq_ok_iff text ident).mp parsed).path
  rw [shape] at path
  have odd :=
    Ident.odd_quotes_behind_blank isBlank (Ident.read_of_isPath path)
  have some : word ≠ [] := by
    rintro rfl
    cases odd
  have named : tableName text = String.ofList word := by
    rw [tableName, shape, getLast?_words isBlank some visible]
  cases outcome : Ident.parse (tableName text ++ ".*") with
  | error fault => exact ⟨fault, rfl⟩
  | ok wildcard =>
      have starred := ((Ident.parse_eq_ok_iff _ _).mp outcome).path
      have even :=
        Ident.count_quotes_of_read (Ident.read_of_isPath starred)
      have letters :
          (tableName text ++ ".*").toList = word ++ ['.', '*'] := by
        simp [named]
      have same : (word ++ ['.', '*']).count '"' = word.count '"' := by
        rw [List.count_append]
        rfl
      rw [letters, same, odd] at even
      cases even

theorem tableFragment_of_visible {text : String} (some : text ≠ "")
    (visible : ∀ letter ∈ text.toList, isBlank letter = false) :
    tableFragment text = .name text := by
  have letters : text.toList ≠ [] := by simpa using some
  rw [tableFragment, words_of_visible letters visible]
  exact congrArg _ (trim_of_visibleEnds (visibleEnds_of_forall visible))

theorem tableName_of_visible {text : String} (some : text ≠ "")
    (visible : ∀ letter ∈ text.toList, isBlank letter = false) :
    tableName text = text := by
  have letters : text.toList ≠ [] := by simpa using some
  rw [tableName, words_of_visible letters visible]
  exact String.ofList_toList

theorem Fragment.fails_join_first {dialect : Dialect} {error : Error}
    {separator : String} {first : Fragment} (others : List Fragment)
    (fails : ∀ count, Fails (first.compile dialect) count error)
    (count : Nat) :
    Fails ((join separator (first :: others)).compile dialect) count error :=
  fails_join (fun _ member => (List.not_mem_nil member).elim) fails count

theorem Fragment.fails_name {dialect : Dialect} {path : String}
    {fault : Ident.Fault} (count : Nat)
    (unread : Ident.parse path = .error fault) :
    Fails ((name path).compile dialect) count
      (.invalidIdentifier (fault.message path)) := by
  rw [compile, Ident.quote, unread]
  exact Fails.throw_iff.mpr rfl

namespace Query

section Tables

variable {dialect : Dialect} {text : String} {ident : Ident}

/-- The clauses of a query of all columns of a table. -/
theorem fragment_table (text : String) :
    (table text).fragment =
      .join " "
        [.joined " " (.text "SELECT") (.name (tableName text ++ ".*")),
          .joined "" (.text "FROM ") (tableFragment text), .nothing,
          .led "WHERE" .nothing, .nothing, .led "HAVING" .nothing, .nothing,
          .nothing] :=
  rfl

theorem toSql_table_of_visible (parsed : Ident.parse text = .ok ident)
    (named : ident.isWildcard = false)
    (visible : ∀ letter ∈ text.toList, isBlank letter = false) :
    (table text).toSql dialect =
      .ok ⟨"SELECT " ++ ident.render dialect ++ ".* FROM " ++
        ident.render dialect, []⟩ := by
  have some : text ≠ "" := by
    rintro rfl
    cases parsed
  have starred := Ident.parse_append_star parsed named
  have layout := fragment_table text
  rw [tableFragment_of_visible some visible,
    tableName_of_visible some visible] at layout
  have compilable : (table text).fragment.IsCompilable := by
    simp [layout, Fragment.join, parsed, starred]
  have unbound : (table text).fragment.values = [] := by
    simp [layout]
  have parts := Ident.parts_ne_nil_of_parse parsed
  have wildcard := Ident.render_append_star dialect parts
  have shows := (Ident.render_eq_empty_iff dialect ident).not.mpr parts
  have columns :
      Item.print dialect 0
          (Fragment.joined " " (.text "SELECT") (.name (text ++ ".*"))).items =
        "SELECT " ++ (ident.render dialect ++ ".*") := by
    simp [Fragment.print_joined, Fragment.texts, Text.spaced_pair,
      Fragment.print_name dialect _ starred, wildcard]
  have source :
      Item.print dialect 0
          (Fragment.joined "" (.text "FROM ") (.name text)).items =
        "FROM " ++ ident.render dialect := by
    simp [Fragment.print_joined, Fragment.texts, Text.spaced_pair,
      Fragment.print_name dialect _ parsed, shows]
  have clauses :
      Item.print dialect 0 (table text).fragment.items =
        Text.spaced " "
          ["SELECT " ++ (ident.render dialect ++ ".*"),
            "FROM " ++ ident.render dialect] := by
    rw [layout, Fragment.print_join]
    simp [Fragment.texts, columns, source, Fragment.print_led, Text.spaced]
  rw [toSql, Fragment.toSql_of_isCompilable dialect compilable, unbound,
    clauses]
  have spelled :
      Text.spaced " "
          ["SELECT " ++ (ident.render dialect ++ ".*"),
            "FROM " ++ ident.render dialect] =
        "SELECT " ++ ident.render dialect ++ ".* FROM " ++
          ident.render dialect := by
    apply String.toList_injective
    simp [Text.spaced_pair]
  rw [spelled]

/-- The select list, which is compiled first, is refused. -/
theorem toSql_table_of_fault {fault : Ident.Fault}
    (unread : Ident.parse (tableName text ++ ".*") = .error fault) :
    (table text).toSql dialect =
      .error (.invalidIdentifier
        (fault.message (tableName text ++ ".*"))) := by
  refine Fragment.toSql_of_fails ?_
  rw [fragment_table]
  refine Fragment.fails_join_first _ (fun count => ?_) 0
  exact Fragment.fails_joined_right (Fragment.isCompilable_text "SELECT")
    (fun between => Fragment.fails_name between unread) count

end Tables

/-- A query of a path that is no star selects all columns of the table of that
path, in every dialect, exactly when the path has no white space in it.  A path
with white space in a quoted name is refused, for what a star behind the last
word of it is read as. -/
theorem toSql_table_iff (dialect : Dialect) {text : String} {ident : Ident}
    (parsed : Ident.parse text = .ok ident)
    (named : ident.isWildcard = false) :
    ((table text).toSql dialect =
          .ok ⟨"SELECT " ++ ident.render dialect ++ ".* FROM " ++
            ident.render dialect, []⟩ ↔
        ∀ letter ∈ text.toList, isBlank letter = false) ∧
      ((∃ letter ∈ text.toList, isBlank letter = true) →
        ∃ fault, Ident.parse (tableName text ++ ".*") = .error fault ∧
          (table text).toSql dialect =
            .error (.invalidIdentifier
              (fault.message (tableName text ++ ".*")))) := by
  have refused (cut : ∃ letter ∈ text.toList, isBlank letter = true) :
      ∃ fault, Ident.parse (tableName text ++ ".*") = .error fault ∧
        (table text).toSql dialect =
          .error (.invalidIdentifier
            (fault.message (tableName text ++ ".*"))) := by
    obtain ⟨fault, unread⟩ := exists_fault_of_blank parsed cut
    exact ⟨fault, unread, toSql_table_of_fault unread⟩
  refine ⟨⟨fun written => ?_, toSql_table_of_visible parsed named⟩, refused⟩
  by_contra hidden
  push Not at hidden
  simp only [Bool.ne_false_iff] at hidden
  obtain ⟨fault, -, failed⟩ := refused hidden
  rw [failed] at written
  cases written

/-- A quoted name with a hyphen is selected from, in a schema. -/
theorem toSql_table_iff_hyphen :
    Ident.parse "shop.\"line-items\"" =
        .ok ⟨[.plain "shop", .quoted "line-items"]⟩ ∧
      (table "shop.\"line-items\"").toSql .postgres =
        .ok ⟨"SELECT \"shop\".\"line-items\".* FROM \"shop\".\"line-items\"",
          []⟩ := by
  have parsed :
      Ident.parse "shop.\"line-items\"" =
        .ok ⟨[.plain "shop", .quoted "line-items"]⟩ := by
    rfl
  have visible :
      "shop.\"line-items\"".toList.all (fun letter => !isBlank letter) =
        true := by
    decide
  refine ⟨parsed, (toSql_table_iff .postgres parsed rfl).1.mpr ?_⟩
  intro letter member
  simpa using List.all_eq_true.mp visible letter member

/-- A quoted name with a space is an identifier, but no table can have it. -/
theorem spaced_name_is_refused :
    Ident.parse "\"order items\"" = .ok ⟨[.quoted "order items"]⟩ ∧
      Ident.isWildcard ⟨[.quoted "order items"]⟩ = false ∧
      (table "\"order items\"").toSql .sqlite =
        .error (.invalidIdentifier
          "Invalid character '\"' in identifier 'items\".*'") := by
  refine ⟨by rfl, by rfl, ?_⟩
  have unread :
      Ident.parse (tableName "\"order items\"" ++ ".*") =
        .error (.invalidLetter '"') := by
    rfl
  exact toSql_table_of_fault unread

end Query

end RecordQuery
