import RecordQuery.Proofs.Fragment.Items
import RecordQuery.Proofs.Query.Scopes

/-!
# Which source a qualified column names

The rows of a table in FROM or JOIN are addressed by its alias, or else by its
own path or an end of that path.  A qualifier is looked up level by level, in
the innermost query first, and stands for a source when no other one of the
same level is addressed by it.
-/

namespace RecordQuery

namespace Ident

/-- The name that a part stands for, read as the database compares names; a
star is no name. -/
def Part.key (fold : String → String) : Part → Option String
  | .plain name | .quoted name => some (fold name)
  | .star => none

/-- Whether a qualifier is an end of a path. -/
def isEndOf (fold : String → String) (qualifier path : List Part) : Bool :=
  !qualifier.isEmpty &&
    (qualifier.map (Part.key fold)).isSuffixOf (path.map (Part.key fold))

end Ident

def Item.path? : Item → Option (List Ident.Part)
  | .name ident => some ident.parts
  | _ => none

/-- The path by which the rows of a source are addressed: the last name in its
text, an alias if it has one. -/
def Fragment.address (source : Fragment) : List Ident.Part :=
  (source.items.filterMap Item.path?).getLastD []

/-- The sources of a query: what it selects from, then the joined tables. -/
def Query.sources (query : Query) : List Fragment :=
  Source.clause query.source? ::
    query.joins.map fun join => tableFragment join.table

/-! ## A path and a name behind it -/

namespace Ident

theorem map_eq_ok_iff {α β : Type} (change : α → β) (result : Except Fault α)
    (image : β) :
    result.map change = .ok image ↔ ∃ value, result = .ok value ∧
      change value = image := by
  cases result with
  | ok value => simp [Except.map]
  | error fault => simp [Except.map]

theorem ne_nil_of_read :
    ∀ {letters : List Char} {stage : Stage} {parts : List Part},
      Ident.read stage letters = .ok parts → parts ≠ [] := by
  intro letters
  induction letters with
  | nil =>
      intro stage parts read
      cases stage with
      | start => cases read
      | plain name => cases read; exact List.cons_ne_nil _ _
      | quoted name => cases read
      | closing name =>
          cases name with
          | nil => cases read
          | cons last before => cases read; exact List.cons_ne_nil _ _
      | star => cases read; exact List.cons_ne_nil _ _
  | cons letter letters inductionHypothesis =>
      intro stage parts read
      cases stage with
      | star => cases read
      | _ =>
          simp only [Ident.read] at read
          split_ifs at read
          all_goals first
            | exact inductionHypothesis read
            | obtain ⟨later, _, rfl⟩ := (map_eq_ok_iff _ _ _).mp read
              exact List.cons_ne_nil _ _

theorem parts_ne_nil_of_parse {text : String} {ident : Ident}
    (parsed : parse text = .ok ident) : ident.parts ≠ [] := by
  simp only [parse] at parsed
  split_ifs at parsed
  obtain ⟨parts, read, rfl⟩ := (map_eq_ok_iff _ _ _).mp parsed
  exact ne_nil_of_read read

/-- A path that is written before a dot keeps its parts, whatever stands behind
the dot. -/
theorem exists_read_of_append_dot {rest : List Char} :
    ∀ {letters : List Char} {stage : Stage} {parts all : List Part},
      Ident.read stage letters = .ok parts →
      Ident.read stage (letters ++ '.' :: rest) = .ok all →
        ∃ later, Ident.read .start rest = .ok later ∧ all = parts ++ later := by
  intro letters
  induction letters with
  | nil =>
      intro stage parts all alone whole
      -- the path ends here, in a stage that may end it
      cases stage with
      | start => cases alone
      | plain name =>
          cases alone
          simp only [List.nil_append, Ident.read, if_true] at whole
          obtain ⟨later, read, rfl⟩ := (map_eq_ok_iff _ _ _).mp whole
          exact ⟨later, read, rfl⟩
      | quoted name => cases alone
      | closing name =>
          cases name with
          | nil => cases alone
          | cons last before =>
              cases alone
              have written :
                  Ident.read (.closing (last :: before)) ('.' :: rest) =
                    (Ident.read .start rest).map
                      (.quoted (String.ofList (last :: before).reverse) :: ·) :=
                rfl
              rw [List.nil_append, written] at whole
              obtain ⟨later, read, rfl⟩ := (map_eq_ok_iff _ _ _).mp whole
              exact ⟨later, read, rfl⟩
      | star => cases whole
  | cons letter letters inductionHypothesis =>
      intro stage parts all alone whole
      rw [List.cons_append] at whole
      have further :
          ∀ (stage : Stage) (part : Part) {parts all : List Part},
            (Ident.read stage letters).map (part :: ·) = .ok parts →
            (Ident.read stage (letters ++ '.' :: rest)).map (part :: ·) =
              .ok all →
              ∃ later, Ident.read .start rest = .ok later ∧
                all = parts ++ later := by
        intro stage part parts all alone whole
        obtain ⟨fewer, first, rfl⟩ := (map_eq_ok_iff _ _ _).mp alone
        obtain ⟨more, second, rfl⟩ := (map_eq_ok_iff _ _ _).mp whole
        obtain ⟨later, read, rfl⟩ := inductionHypothesis first second
        exact ⟨later, read, rfl⟩
      cases stage with
      | start =>
          simp only [Ident.read] at alone whole
          split_ifs at alone whole with star quote dot starts
          · exact inductionHypothesis alone whole
          · exact inductionHypothesis alone whole
          · exact inductionHypothesis alone whole
      | plain name =>
          simp only [Ident.read] at alone whole
          split_ifs at alone whole with dot continues
          · exact further _ _ alone whole
          · exact inductionHypothesis alone whole
      | quoted name =>
          simp only [Ident.read] at alone whole
          split_ifs at alone whole with quote
          · exact inductionHypothesis alone whole
          · exact inductionHypothesis alone whole
      | closing name =>
          simp only [Ident.read] at alone whole
          split_ifs at alone whole with quote blank dot
          · exact inductionHypothesis alone whole
          · exact further _ _ alone whole
      | star => cases alone

/-- The qualifier of a name that is written behind a path is that path. -/
theorem dropLast_parse_append_dot {path name : String} {short long : Ident}
    {last : Part} (alone : parse path = .ok short)
    (named : parse name = .ok ⟨[last]⟩)
    (whole : parse (path ++ "." ++ name) = .ok long) :
    long.parts.dropLast = short.parts := by
  have letters :
      (path ++ "." ++ name).toList = path.toList ++ '.' :: name.toList := by
    simp
  simp only [parse, letters] at alone named whole
  split_ifs at alone named whole
  obtain ⟨parts, readPath, rfl⟩ := (map_eq_ok_iff _ _ _).mp alone
  obtain ⟨one, readName, same⟩ := (map_eq_ok_iff _ _ _).mp named
  obtain ⟨all, readWhole, rfl⟩ := (map_eq_ok_iff _ _ _).mp whole
  obtain ⟨later, readLater, divided⟩ :=
    exists_read_of_append_dot readPath readWhole
  rw [readName] at readLater
  cases readLater
  cases same
  rw [divided, List.dropLast_concat]

/-- A path is an end of itself. -/
theorem isEndOf_self (fold : String → String) {path : List Part}
    (present : path ≠ []) : isEndOf fold path path = true := by
  have notEmpty : path.isEmpty = false := by
    simpa [List.isEmpty_iff] using present
  simp [isEndOf, notEmpty]

end Ident

/-! ## The path of a plain table -/

theorem Fragment.paths_text (sql : String) :
    (text sql).items.filterMap Item.path? = [] := by
  have letters :
      ∀ letters : List Char,
        (Item.ofRaw [] letters).filterMap Item.path? = [] := by
    intro letters
    induction letters with
    | nil => rfl
    | cons letter rest inductionHypothesis =>
        exact inductionHypothesis
  exact letters sql.toList

/-- A table without an alias is addressed by its own path. -/
theorem Source.address_clause {table : String} {path : Ident}
    (plain : tableFragment table = .name table)
    (parsed : Ident.parse table = .ok path) :
    (Source.clause (some (.table table))).address = path.parts := by
  have named : (Fragment.name table).items = [.name path] := by
    rw [Fragment.items, parsed]
  have seen : ([Item.name path].all Item.isBlank) = false := by
    simpa [Item.isBlank] using Ident.parts_ne_nil_of_parse parsed
  have laidOut :
      (Source.clause (some (.table table))).items =
        Item.joined "" (Fragment.text "FROM ").items [.name path] := by
    rw [← named, ← plain]
    rfl
  have written :
      (Fragment.text "FROM ").items.all Item.isBlank = false := by decide
  have paths := Fragment.paths_text "FROM "
  rw [Fragment.address, laidOut, Item.joined, seen, written]
  simp only [Bool.false_eq_true, if_false, List.filterMap_append, paths,
    List.nil_append]
  rfl

/-! ## Innermost level first -/

def Fragment.isNamed (fold : String → String) (qualifier : List Ident.Part)
    (source : Fragment) : Bool :=
  Ident.isEndOf fold qualifier source.address

/-- The level and the place in it of the source that a qualifier stands for.
There is none when no level has a source of that name or the first one that
does has several. -/
def resolve? (fold : String → String) (qualifier : List Ident.Part) :
    List (List Fragment) → Option (Nat × Nat)
  | [] => none
  | sources :: outer =>
      match sources.countP (Fragment.isNamed fold qualifier) with
      | 0 => (resolve? fold qualifier outer).map fun found =>
          (found.1 + 1, found.2)
      | 1 => some (0, sources.findIdx (Fragment.isNamed fold qualifier))
      | _ => none

section Resolution

variable {fold : String → String} {qualifier : List Ident.Part}

theorem resolve?_of_unnamed {sources : List Fragment}
    (outer : List (List Fragment))
    (unnamed : ∀ source ∈ sources, source.isNamed fold qualifier = false) :
    resolve? fold qualifier (sources :: outer) =
      (resolve? fold qualifier outer).map fun found =>
        (found.1 + 1, found.2) := by
  have none_ : sources.countP (Fragment.isNamed fold qualifier) = 0 := by
    rw [List.countP_eq_zero]
    intro source member
    simp [unnamed source member]
  simp only [resolve?, none_]

/-- A level that has a source of the name hides all outer levels. -/
theorem resolve?_inside {sources : List Fragment}
    (outer : List (List Fragment)) {source : Fragment}
    (member : source ∈ sources)
    (named : source.isNamed fold qualifier = true) :
    ∀ found ∈ resolve? fold qualifier (sources :: outer), found.1 = 0 := by
  have some_ : 0 < sources.countP (Fragment.isNamed fold qualifier) :=
    List.countP_pos_iff.mpr ⟨source, member, named⟩
  intro found resolved
  rw [resolve?] at resolved
  split at resolved
  · next none_ => omega
  · cases resolved
    rfl
  · cases resolved

theorem resolve?_first_iff (first : Fragment) (others : List Fragment)
    (outer : List (List Fragment)) :
    resolve? fold qualifier ((first :: others) :: outer) = some (0, 0) ↔
      first.isNamed fold qualifier = true ∧
        ∀ other ∈ others, other.isNamed fold qualifier = false := by
  have others_iff :
      others.countP (Fragment.isNamed fold qualifier) = 0 ↔
        ∀ other ∈ others, other.isNamed fold qualifier = false := by
    simp [List.countP_eq_zero]
  rw [← others_iff, resolve?, List.countP_cons]
  cases named : first.isNamed fold qualifier with
  | true =>
      have atFront :
          (first :: others).findIdx (Fragment.isNamed fold qualifier) = 0 := by
        simp [List.findIdx_cons, named]
      rw [atFront]
      rcases others.countP (Fragment.isNamed fold qualifier) with
        _ | count <;> simp
  | false =>
      have behind :
          (first :: others).findIdx (Fragment.isNamed fold qualifier) ≠ 0 := by
        simp [List.findIdx_cons, named]
      simp only [Bool.false_eq_true, if_false, false_and, iff_false]
      split
      · intro resolved
        obtain ⟨found, _, same⟩ := Option.map_eq_some_iff.mp resolved
        injection same with level
        omega
      · intro resolved
        injection resolved with same
        injection same with _ position
        exact behind position
      · intro resolved
        cases resolved

/-- A qualifier in a sub-query stands for what the outer query selects from
exactly when no source of the sub-query has the name and, of the outer
sources, that one alone does. -/
theorem resolve?_outer_iff (inner : List Fragment) (first : Fragment)
    (others : List Fragment) :
    resolve? fold qualifier [inner, first :: others] = some (1, 0) ↔
      (∀ source ∈ inner, source.isNamed fold qualifier = false) ∧
        first.isNamed fold qualifier = true ∧
        ∀ other ∈ others, other.isNamed fold qualifier = false := by
  by_cases unnamed :
      ∀ source ∈ inner, source.isNamed fold qualifier = false
  · rw [resolve?_of_unnamed _ unnamed, ← resolve?_first_iff first others []]
    constructor
    · intro resolved
      obtain ⟨⟨level, position⟩, found, same⟩ :=
        Option.map_eq_some_iff.mp resolved
      simp only [Prod.mk.injEq, Nat.add_eq_right] at same
      rw [found, same.1, same.2]
      exact ⟨unnamed, rfl⟩
    · rintro ⟨_, found⟩
      rw [found]
      rfl
  · refine iff_of_false ?_ fun all => unnamed all.1
    intro resolved
    obtain ⟨source, member, named⟩ :
        ∃ source ∈ inner, source.isNamed fold qualifier = true := by
      simpa using unnamed
    have level := resolve?_inside [first :: others] member named _ resolved
    exact Nat.one_ne_zero level

end Resolution

end RecordQuery
