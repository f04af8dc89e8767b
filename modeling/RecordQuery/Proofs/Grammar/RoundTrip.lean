import RecordQuery.Proofs.Grammar.Findings

/-!
# Conditions read back

Conditions that compile are read back as the terms that their calls stand for,
with the same links, exactly when all calls are proper.  The operators of
ranges, lists and sub-queries are accepted beside a single operand as well, and
such a condition is not read back: BETWEEN takes the next condition for its
upper bound.
-/

namespace RecordQuery

namespace Grammar

namespace Passage

variable {passage : Passage}

theorem read_of_writes {seen : Nat} {pieces : List Piece}
    {alternatives : Alternatives}
    (written : passage.Writes 0 passage.compiled.sql.toList seen pieces)
    (reads : Piece.ReadsAs pieces alternatives) :
    passage.read = some alternatives := by
  have scanned := written {} rfl rfl rfl
  have whole := Piece.alternatives?_of_readsAs reads
  have begun : pieces ≠ [] := by
    rintro rfl
    cases whole
  let last := passage.scan {} passage.compiled.sql.toList
  have level :
      (passage.flush last.marks last.level).pieces = pieces.reverse := by
    have put := congrArg (fun scanner => scanner.level.pieces) scanned
    simpa [Scanner.put] using put
  have quoting : last.quoting = .outside :=
    congrArg Scanner.quoting scanned
  have outer : last.outer = [] := congrArg Scanner.outer scanned
  simp [Passage.read, last, level, quoting, outer, begun, whole]

theorem read_of_empty (empty : passage.compiled.sql = "") :
    passage.read = some [] := by
  simp [Passage.read, empty, scan, flush]

end Passage

end Grammar

namespace Call

open Grammar

/-- Conditions without raw SQL that compile after `count` placeholders are read
back, with each column, operator and operand and with the same links, exactly
when every call is handed an operator for its operands and no star for a
column. -/
theorem read_conditions_iff (dialect : Dialect) (count after : Nat)
    (calls : List Call) (made : ∀ query ∈ queriesOf calls, query.IsPlain)
    (compiled : Compiled)
    (returned :
      Returns ((conditions calls).fragment.compile dialect) count compiled
        after) :
    (Passage.mk dialect count compiled).read =
        some (alternation (termsOf dialect count calls)) ↔
      areProper calls = true := by
  have printed := Fragment.compile_isPrinted dialect _ returned
  have compilable :=
    (Fragment.returns_compile_iff dialect _ count).mp
      ⟨compiled, after, returned⟩
  let passage := Passage.mk dialect count compiled
  constructor
  · intro read
    -- Only terms that can be read come out, and improper calls ask for others.
    exact areProper_of_isFound dialect count calls
      (isFound_of_alternation (passage.areFound_read read))
  · intro proper
    have binds : passage.Binds 0
        ((conditions calls).flatMap fun predicate =>
          predicate.fragment.values) := by
      rw [← Conditions.values_fragment]
      exact ⟨[], by rw [List.append_nil]; exact printed.bindings.symm⟩
    have written := writesAlternatives calls 0 .nothing []
      (Or.inl ⟨rfl, rfl⟩) made
      ((Conditions.isCompilable_fragment _).mp compilable) proper binds
    have letters :
        compiled.sql.toList =
          (conditions calls).fragment.letters dialect count :=
      congrArg String.toList printed.sql
    rcases written with ⟨empty, silent⟩ | ⟨_, pieces, reads, spelled⟩
    · have blank : compiled.sql = "" := by
        rw [← String.toList_eq_nil_iff, letters]
        exact Fragment.letters_of_isSilent dialect count silent
      rw [Passage.read_of_empty blank]
      exact congrArg some empty.symm
    · have whole : passage.Writes 0 passage.compiled.sql.toList
          (conditions calls).fragment.values.length pieces := by
        show passage.Writes 0 compiled.sql.toList _ pieces
        rw [letters]
        exact spelled
      exact Passage.read_of_writes whole reads

/-- The posts of an author. -/
def authoredPosts : Query :=
  Query.applyAll { source? := (some "posts").map .table }
    [.filter .where_ (.compare .and "author" "=" (.int 7))]

/-- Conditions of all kinds: a range and a list in a group, a group that is left
out, sub-queries, a list without members and tests for NULL. -/
def mixedCalls : List Call :=
  [.compare .and "users.name" "like" (.text "a%"),
    .group .or
      [.between "age" (.int 18) (.int 30), .group .and [],
        .inList .or true "id" [.int 1, .null]],
    .existence .and true authoredPosts,
    .compareQuery .or authoredPosts ">=" (.int 2),
    .columns .and "home" "=" "work",
    .inList .or false "tag" [],
    .compare .and "gone" "!=" .null,
    .inQuery false "id" authoredPosts]

theorem isPlain_authoredPosts : authoredPosts.IsPlain := by
  have same : List.Forall₂
      (Step.Related Eq (Fragment.Twins Eq Fragment.IsPlainRaw)
        (Predicate.Twins Eq Fragment.IsPlainRaw))
      [.filter .where_ (.compare .and "author" "=" (.int 7))]
      [.filter .where_ (.compare .and "author" "=" (.int 7))] :=
    .cons (.filter _ (.compare _ _ _ rfl)) .nil
  exact .query (some "posts") same

set_option maxRecDepth 8000 in
/-- All of these are read back, after one placeholder that was taken before. -/
theorem read_conditions_iff_mixedCalls :
    let posts :=
      "(SELECT \"posts\".* FROM \"posts\" WHERE \"author\" = "
    let compiled : Compiled :=
      ⟨"\"users\".\"name\" LIKE $2 OR (\"age\" BETWEEN $3 AND $4 " ++
        "OR \"id\" NOT IN ($5, $6)) AND NOT EXISTS " ++ posts ++ "$7) OR " ++
        posts ++ "$8) >= $9 AND \"home\" = \"work\" OR 1 = 0 AND " ++
        "\"gone\" IS NOT NULL AND \"id\" IN " ++ posts ++ "$10)",
        [.text "a%", .int 18, .int 30, .int 1, .null, .int 7, .int 7, .int 2,
          .int 7]⟩
    Returns ((conditions mixedCalls).fragment.compile .postgres) 1 compiled 10 ∧
      (∀ query ∈ queriesOf mixedCalls, query.IsPlain) ∧
      areProper mixedCalls = true ∧
      (Passage.mk .postgres 1 compiled).read =
        some (alternation (termsOf .postgres 1 mixedCalls)) := by
  intro posts compiled
  have returned :
      Returns ((conditions mixedCalls).fragment.compile .postgres) 1 compiled
        10 := by
    rfl
  have made : ∀ query ∈ queriesOf mixedCalls, query.IsPlain := by
    intro query member
    have among : query = authoredPosts := by
      simpa [mixedCalls, queriesOf, queries] using member
    rw [among]
    exact isPlain_authoredPosts
  have proper : areProper mixedCalls = true := by rfl
  exact ⟨returned, made, proper,
    (read_conditions_iff .postgres 1 10 mixedCalls made compiled returned).mpr
      proper⟩

/-- A range with one bound takes the next condition for the other.  Both are
accepted, and neither is read back. -/
theorem halfRange_not_read :
    let calls : List Call :=
      [.compare .and "a" "BETWEEN" (.int 1), .compare .and "b" "=" (.int 2)]
    let compiled : Compiled :=
      ⟨"\"a\" BETWEEN ? AND \"b\" = ?", [.int 1, .int 2]⟩
    Returns ((conditions calls).fragment.compile .sqlite) 0 compiled 2 ∧
      queriesOf calls = [] ∧
      (Passage.mk .sqlite 0 compiled).read = none := by
  exact ⟨rfl, rfl, rfl⟩

end Call

end RecordQuery
