import RecordQuery.Proofs.Fragment.Places

/-!
# One statement in every dialect

A fragment that cannot be compiled is refused for the first part of it, from
left to right, that cannot.  Which part that is, and which parts leave no text,
does not depend on the dialect, so that the dialects refuse the same fragments
with the same failure and print one list of items for all others.
-/

namespace RecordQuery

namespace Fragment

/-- Why raw text is refused whose question marks are too few. -/
def shortage (sql : String) (bindings : List Value) : Error :=
  .invalidCondition
    ("raw SQL has " ++ toString (sql.toList.count '?') ++
      " placeholder(s) but " ++ toString bindings.length ++
      " binding(s): " ++ sql)

/-- The failure of the first part that cannot be compiled. -/
def fault? : Fragment → Option Error
  | .name path =>
      match Ident.parse path with
      | .ok _ => none
      | .error fault => some (.invalidIdentifier (fault.message path))
  | .raw sql bindings =>
      if bindings.length ≤ sql.toList.count '?' then none
      else some (shortage sql bindings)
  | .bound _ | .unlimited => none
  | .group inner => inner.fault?
  | .joined _ left right => left.fault?.or right.fault?
  | .led _ body => body.fault?
  | .refused cause => some cause

theorem fails_compileRaw_iff (dialect : Dialect) (sql : String)
    (bindings : List Value) (count : Nat) (error : Error) :
    Fails (compileRaw dialect sql bindings) count error ↔
      (raw sql bindings).fault? = some error := by
  have counted :
      Fails (compileRaw dialect sql bindings) count error ↔
        Fails (if min (sql.toList.count '?') bindings.length =
            bindings.length then
          pure ⟨String.ofList
            (fill dialect count bindings.length sql.toList), bindings⟩
        else
          throw (.invalidCondition
            ("raw SQL has " ++
              toString (min (sql.toList.count '?') bindings.length) ++
              " placeholder(s) but " ++ toString bindings.length ++
              " binding(s): " ++ sql)) : Compiler Compiled)
          (count + min (sql.toList.count '?') bindings.length) error :=
    Iff.rfl
  rw [counted, fault?]
  by_cases enough : bindings.length ≤ sql.toList.count '?'
  · simp [enough]
  · have short := Nat.le_of_not_le enough
    have fewer : sql.toList.count '?' ≠ bindings.length := by omega
    simp [Nat.min_eq_left short, enough, fewer, shortage]

/-- Compiling fails with the first fault, wherever the count of placeholders
stands. -/
theorem fails_compile_iff (dialect : Dialect) (fragment : Fragment) :
    ∀ (count : Nat) (error : Error),
      Fails (fragment.compile dialect) count error ↔
        fragment.fault? = some error := by
  induction fragment with
  | name path =>
      intro count error
      rw [compile, Ident.quote, fault?]
      cases Ident.parse path with
      | ok ident => simp
      | error fault => simp
  | raw sql bindings =>
      intro count error
      exact fails_compileRaw_iff dialect sql bindings count error
  | bound value =>
      intro count error
      simp [compile, Compiler.placeholder, Fails.bind_iff, fault?]
  | group inner inductionHypothesis =>
      intro count error
      rw [compile, fault?, ← inductionHypothesis count, Fails.bind_iff]
      simp
  | joined separator left right leftHypothesis rightHypothesis =>
      intro count error
      have after : ∀ (done : Compiled) (between : Nat),
          Fails (do
              let next ← right.compile dialect
              pure (done.push separator next)) between error ↔
            right.fault? = some error := by
        intro done between
        rw [← rightHypothesis between, Fails.bind_iff]
        simp
      rw [compile, fault?, Fails.bind_iff, leftHypothesis count]
      simp only [after]
      -- the right side is reached exactly when the left one has no fault
      rcases returns_or_fails (left.compile dialect) count with
        ⟨done, between, returned⟩ | ⟨cause, failed⟩
      · have faultless : left.fault? = none := by
          rw [Option.eq_none_iff_forall_ne_some]
          intro cause faulty
          exact ((leftHypothesis count cause).mpr faulty).not_returns returned
        rw [faultless, Option.none_or]
        constructor
        · rintro (impossible | ⟨_, _, _, faulty⟩)
          · cases impossible
          · exact faulty
        · intro faulty
          exact Or.inr ⟨done, between, returned, faulty⟩
      · have faulty := (leftHypothesis count cause).mp failed
        rw [faulty, Option.some_or]
        constructor
        · rintro (same | ⟨_, _, returned, _⟩)
          · exact same
          · exact (failed.not_returns returned).elim
        · exact Or.inl
  | led keyword body inductionHypothesis =>
      intro count error
      rw [compile, fault?, ← inductionHypothesis count, Fails.bind_iff]
      simp
  | unlimited =>
      intro count error
      simp [compile, fault?]
  | refused cause =>
      intro count error
      simp [compile, fault?]

theorem toSql_eq_error_iff (dialect : Dialect) (fragment : Fragment)
    (error : Error) :
    fragment.toSql dialect = .error error ↔ fragment.fault? = some error := by
  rw [← fails_compile_iff dialect fragment 0 error]
  constructor
  · intro outcome
    exact ⟨_, Prod.ext outcome rfl⟩
  · rintro ⟨after, failed⟩
    exact congrArg Prod.fst failed

theorem isCompilable_iff_fault? (fragment : Fragment) :
    fragment.IsCompilable ↔ fragment.fault? = none := by
  rw [← exists_toSql_iff .sqlite fragment, Option.eq_none_iff_forall_ne_some]
  simp only [ne_eq, ← toSql_eq_error_iff .sqlite fragment]
  cases fragment.toSql .sqlite with
  | ok compiled => simp
  | error error => simp

/-- Compiling a statement gives its first fault or else its items, printed in
the dialect. -/
theorem toSql_eq (dialect : Dialect) (fragment : Fragment) :
    fragment.toSql dialect =
      match fragment.fault? with
      | some error => .error error
      | none => .ok ⟨Item.print dialect 0 fragment.items, fragment.values⟩ := by
  cases faulty : fragment.fault? with
  | some error => exact (toSql_eq_error_iff dialect fragment error).mpr faulty
  | none =>
      exact toSql_eq_of_isCompilable
        ((isCompilable_iff_fault? fragment).mpr faulty) dialect

end Fragment

/-- A query is refused in every dialect with its first fault, or else comes out
in every dialect with the same values and as the same items, of which each
dialect quotes the names, spells the placeholders and says what sets no limit
in its own way. -/
theorem Query.toSql_common (query : Query) :
    (∃ error, query.fragment.fault? = some error ∧
        ∀ dialect, query.toSql dialect = .error error) ∨
      query.fragment.fault? = none ∧
        ∀ dialect,
          query.toSql dialect =
            .ok ⟨Item.print dialect 0 query.fragment.items,
              Item.values query.fragment.items⟩ := by
  have outcome : ∀ dialect, query.toSql dialect = _ :=
    fun dialect => Fragment.toSql_eq dialect query.fragment
  cases faulty : query.fragment.fault? with
  | some error =>
      refine Or.inl ⟨error, rfl, fun dialect => ?_⟩
      rw [outcome, faulty]
  | none =>
      refine Or.inr ⟨rfl, fun dialect => ?_⟩
      rw [outcome, faulty]
      rfl

end RecordQuery
