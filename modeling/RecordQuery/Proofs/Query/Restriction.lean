import Mathlib.Data.List.Induction
import RecordQuery.Proofs.Fragment.Compilable
import RecordQuery.Proofs.Pairs
import RecordQuery.Proofs.Query.Alternatives

/-!
# Which predicates a clause makes sure of

By the precedence of AND and OR a predicate that is appended to a clause with
AND restricts the alternative that it ends, not the clause.  Every alternative
either demands an atomic part or leaves it open, and a clause makes sure of the
part exactly when it has alternatives and all of them demand it.
-/

namespace RecordQuery

/-- How a database reads raw SQL between the links of a condition: as
alternatives of parts.  Nothing is assumed of it. -/
abbrev RawReading := String → List Value → List (List Fragment)

/-- Whether conditions hold, given which of their atomic parts do. -/
def Reading.truth (raw : RawReading) (holds : Fragment → Prop) :
    Reading Prop where
  both := And
  grouped := fun inner => ∃ alternative ∈ inner, alternative
  whole
    | .raw sql bindings =>
        (raw sql bindings).map fun parts => ∀ part ∈ parts, holds part
    | fragment => [holds fragment]

/-- Whether conditions demand an atomic part: an alternative does when one of
the parts that it joins does, parentheses do when all alternatives in them
do. -/
def Reading.demand (raw : RawReading) (atom : Fragment) : Reading Prop where
  both := Or
  grouped := fun inner => ∀ alternative ∈ inner, alternative
  whole
    | .raw sql bindings =>
        (raw sql bindings).map fun parts => atom ∈ parts
    | fragment => [fragment = atom]

namespace Fragment

/-- Whether a clause lets a row pass on which these atomic parts hold.  A
clause that says nothing lets every row pass. -/
def Admits (raw : RawReading) (holds : Fragment → Prop)
    (clause : Fragment) : Prop :=
  clause.alternatives (.truth raw holds) = [] ∨
    ∃ alternative ∈ clause.alternatives (.truth raw holds), alternative

/-- For each alternative of a clause, whether it demands an atomic part. -/
def demands (raw : RawReading) (clause atom : Fragment) : List Prop :=
  clause.alternatives (.demand raw atom)

/-- Whichever atomic parts hold on a row that the clause lets pass, this one is
among them. -/
def Ensures (raw : RawReading) (clause atom : Fragment) : Prop :=
  ∀ holds : Fragment → Prop, clause.Admits raw holds → holds atom

end Fragment

namespace Fragment

section Ensures

variable {raw : RawReading} {atom clause : Fragment}

/-- An alternative that is true and demands the atomic part contains it. -/
theorem forall₂_truth_demand (raw : RawReading) (atom clause : Fragment)
    (holds : Fragment → Prop) :
    List.Forall₂ (fun truth demand => truth → demand → holds atom)
      (clause.alternatives (.truth raw holds)) (clause.demands raw atom) := by
  refine forall₂_alternatives ?_ ?_ ?_ clause
  · rintro first first' second second' left right ⟨one, other⟩ demanded
    rcases demanded with demanded | demanded
    · exact left one demanded
    · exact right other demanded
  · rintro inner inner' related ⟨alternative, member, true_⟩ demanded
    obtain ⟨demand, demandMember, implied⟩ :=
      exists_right_of_forall₂ related member
    exact implied true_ (demanded demand demandMember)
  · intro fragment
    cases fragment with
    | raw sql bindings =>
        simp only [Reading.truth, Reading.demand,
          List.forall₂_map_left_iff, List.forall₂_map_right_iff,
          List.forall₂_same]
        intro parts _ all demanded
        exact all atom demanded
    | _ =>
        refine .cons ?_ .nil
        rintro held rfl
        exact held

/-- On a row where all atomic parts but one hold, the alternatives that are
true are those that do not demand that one. -/
theorem forall₂_truth_others (raw : RawReading) (atom clause : Fragment) :
    List.Forall₂ (fun truth demand => truth ↔ ¬demand)
      (clause.alternatives (.truth raw (· ≠ atom)))
      (clause.demands raw atom) := by
  refine forall₂_alternatives ?_ ?_ ?_ clause
  · intro first first' second second' left right
    simp only [Reading.truth, Reading.demand, left, right, not_or]
  · intro inner inner' related
    simp only [Reading.truth, Reading.demand]
    constructor
    · rintro ⟨alternative, member, true_⟩ demanded
      obtain ⟨demand, demandMember, opposite⟩ :=
        exists_right_of_forall₂ related member
      exact opposite.mp true_ (demanded demand demandMember)
    · intro open_
      push Not at open_
      obtain ⟨demand, member, undemanded⟩ := open_
      obtain ⟨alternative, alternativeMember, opposite⟩ :=
        exists_left_of_forall₂ related member
      exact ⟨alternative, alternativeMember, opposite.mpr undemanded⟩
  · intro fragment
    cases fragment with
    | raw sql bindings =>
        simp only [Reading.truth, Reading.demand,
          List.forall₂_map_left_iff, List.forall₂_map_right_iff,
          List.forall₂_same]
        intro parts _
        constructor
        · intro others demanded
          exact others atom demanded rfl
        · rintro undemanded part member rfl
          exact undemanded member
    | _ => exact .cons Iff.rfl .nil

/-- A clause makes sure of an atomic part exactly when it has alternatives and
each of them demands the part. -/
theorem ensures_iff :
    clause.Ensures raw atom ↔
      clause.demands raw atom ≠ [] ∧
        ∀ demand ∈ clause.demands raw atom, demand := by
  constructor
  · intro ensured
    have opposite := forall₂_truth_others raw atom clause
    have refuted : ¬clause.Admits raw (· ≠ atom) := fun admitted =>
      ensured (· ≠ atom) admitted rfl
    rw [Admits, not_or] at refuted
    obtain ⟨present, nowhere⟩ := refuted
    constructor
    · intro absent
      rw [absent, List.forall₂_nil_right_iff] at opposite
      exact present opposite
    · intro demand member
      by_contra undemanded
      obtain ⟨alternative, alternativeMember, related⟩ :=
        exists_left_of_forall₂ opposite member
      exact nowhere
        ⟨alternative, alternativeMember, related.mpr undemanded⟩
  · rintro ⟨present, demanded⟩ holds admitted
    have implied := forall₂_truth_demand raw atom clause holds
    rcases admitted with absent | ⟨alternative, member, true_⟩
    · rw [absent, List.forall₂_nil_left_iff] at implied
      exact (present implied).elim
    · obtain ⟨demand, demandMember, contained⟩ :=
        exists_right_of_forall₂ implied member
      exact contained true_ (demanded demand demandMember)

/-! ## The alternative that a predicate belongs to -/

@[simp]
theorem demands_and (left right : Fragment) :
    (joined Link.and.keyword left right).demands raw atom =
      fuse Or (left.demands raw atom) (right.demands raw atom) := by
  simp only [demands, alternatives, if_true]
  rfl

@[simp]
theorem demands_or (left right : Fragment) :
    (joined Link.or.keyword left right).demands raw atom =
      left.demands raw atom ++ right.demands raw atom := by
  have apart : Link.or.keyword ≠ Link.and.keyword := by decide
  simp only [demands, alternatives, if_neg apart, if_true]

theorem exists_demand_fuse_left {left : List Prop} (right : List Prop)
    (demanded : ∃ demand ∈ left, demand) :
    ∃ demand ∈ fuse Or left right, demand := by
  obtain ⟨demand, member, demanded⟩ := demanded
  induction left with
  | nil => cases member
  | cons head tail inductionHypothesis =>
      cases tail with
      | nil =>
          obtain rfl := List.mem_singleton.mp member
          cases right with
          | nil => exact ⟨_, member, demanded⟩
          | cons first rest =>
              exact ⟨_, List.mem_cons_self, Or.inl demanded⟩
      | cons next rest =>
          rw [fuse]
          rcases List.mem_cons.mp member with rfl | later
          · exact ⟨_, List.mem_cons_self, demanded⟩
          · obtain ⟨found, foundMember, foundDemanded⟩ :=
              inductionHypothesis later
            exact ⟨found, List.mem_cons_of_mem _ foundMember,
              foundDemanded⟩

theorem exists_demand_fuse_right (left : List Prop) {right : List Prop}
    (demanded : ∃ demand ∈ right, demand) :
    ∃ demand ∈ fuse Or left right, demand := by
  obtain ⟨demand, member, demanded⟩ := demanded
  induction left with
  | nil => exact ⟨demand, member, demanded⟩
  | cons head tail inductionHypothesis =>
      cases tail with
      | nil =>
          cases right with
          | nil => cases member
          | cons first rest =>
              rw [fuse]
              rcases List.mem_cons.mp member with rfl | later
              · exact ⟨_, List.mem_cons_self, Or.inr demanded⟩
              · exact ⟨demand, List.mem_cons_of_mem _ later, demanded⟩
      | cons next rest =>
          obtain ⟨found, foundMember, foundDemanded⟩ := inductionHypothesis
          exact ⟨found, List.mem_cons_of_mem _ foundMember, foundDemanded⟩

theorem exists_demand_joined_left (link : Link) {left : Fragment}
    (right : Fragment) (demanded : ∃ demand ∈ left.demands raw atom, demand) :
    ∃ demand ∈ (joined link.keyword left right).demands raw atom,
      demand := by
  cases link with
  | and =>
      rw [demands_and]
      exact exists_demand_fuse_left _ demanded
  | or =>
      obtain ⟨demand, member, demanded⟩ := demanded
      rw [demands_or]
      exact ⟨demand, List.mem_append_left _ member, demanded⟩

theorem exists_demand_joined_right (link : Link) (left : Fragment)
    {right : Fragment}
    (demanded : ∃ demand ∈ right.demands raw atom, demand) :
    ∃ demand ∈ (joined link.keyword left right).demands raw atom,
      demand := by
  cases link with
  | and =>
      rw [demands_and]
      exact exists_demand_fuse_right _ demanded
  | or =>
      obtain ⟨demand, member, demanded⟩ := demanded
      rw [demands_or]
      exact ⟨demand, List.mem_append_right _ member, demanded⟩

end Ensures

end Fragment

theorem Conditions.fragment_concat
    (conditions : Conditions) (predicate : Predicate) :
    Conditions.fragment (conditions ++ [predicate]) =
      .joined predicate.link.keyword conditions.fragment
        predicate.fragment := by
  simp [fragment, List.foldl_append]

/-- Whatever stands before and after a predicate, the alternative that it
belongs to demands what the predicate demands on its own. -/
theorem Conditions.exists_demand_of_mem {raw : RawReading} {atom : Fragment}
    {predicate : Predicate}
    (demanded : ∃ demand ∈ predicate.fragment.demands raw atom, demand)
    (conditions : Conditions) (member : predicate ∈ conditions) :
    ∃ demand ∈ conditions.fragment.demands raw atom, demand := by
  induction conditions using List.reverseRecOn with
  | nil => cases member
  | append_singleton before last inductionHypothesis =>
      rw [fragment_concat]
      rcases List.mem_append.mp member with earlier | final
      · exact Fragment.exists_demand_joined_left _ _
          (inductionHypothesis earlier)
      · obtain rfl := List.mem_singleton.mp final
        exact Fragment.exists_demand_joined_right _ _ demanded

/-! ## Comparisons are atomic parts -/

/-- What is joined by neither AND nor OR is one alternative of one part. -/
theorem Fragment.demands_self {raw : RawReading}
    {separator : String} {left right : Fragment}
    (notAnd : separator ≠ Link.and.keyword)
    (notOr : separator ≠ Link.or.keyword)
    (seen : (joined separator left right).isSilent = false) :
    (joined separator left right).demands raw (joined separator left right) =
      [joined separator left right = joined separator left right] := by
  simp only [demands, alternatives, if_neg notAnd, if_neg notOr,
    Reading.wholeParts, seen, Bool.false_eq_true, if_false, Reading.demand]

theorem Fragment.exists_demand_self {raw : RawReading}
    {separator : String} {left right : Fragment}
    (notAnd : separator ≠ Link.and.keyword)
    (notOr : separator ≠ Link.or.keyword)
    (seen : (joined separator left right).isSilent = false) :
    ∃ demand ∈ (joined separator left right).demands raw
        (joined separator left right), demand := by
  rw [demands_self notAnd notOr seen]
  exact ⟨_, List.mem_singleton_self _, rfl⟩

theorem Predicate.fragment_compare {link : Link}
    {column operator : String} {value : Value}
    (compilable : (compare link column operator value).fragment.IsCompilable) :
    ∃ word,
      (compare link column operator value).fragment =
          .joined "" (.name column) (.text (" " ++ word)) ∨
        (compare link column operator value).fragment =
          .joined " " (.joined "" (.name column) (.text (" " ++ word)))
            (.bound value) := by
  unfold fragment at compilable ⊢
  cases checked : (compare link column operator value).checkedOperator with
  | error cause =>
      rw [checked] at compilable
      exact (Fragment.not_isCompilable_refused _ compilable).elim
  | ok operator? =>
      rw [checked] at compilable
      simp only [compare, make] at compilable ⊢
      cases operator? with
      | none => exact (Fragment.not_isCompilable_refused _ compilable).elim
      | some word =>
          unfold comparand? at compilable ⊢
          cases absent : value.isNull with
          | false => exact ⟨word, Or.inr rfl⟩
          | true =>
              simp only [absent, if_true] at compilable ⊢
              cases tested : nullTest? word with
              | none =>
                  rw [tested] at compilable
                  exact (Fragment.not_isCompilable_refused _ compilable).elim
              | some test => exact ⟨test, Or.inl rfl⟩

/-- A comparison that compiles is an atomic part, which it demands. -/
theorem Predicate.exists_demand_compare {raw : RawReading} {link : Link}
    {column operator : String} {value : Value}
    (compilable : (compare link column operator value).fragment.IsCompilable) :
    ∃ demand ∈ (compare link column operator value).fragment.demands raw
        (compare link column operator value).fragment, demand := by
  obtain ⟨word, tested | compared⟩ := fragment_compare compilable
  · have spaced : (Fragment.text (" " ++ word)).isSilent = false :=
      Fragment.isSilent_text_of_ne (by simp)
    rw [tested]
    exact Fragment.exists_demand_self (by decide) (by decide)
      (by simp [spaced])
  · have spaced : (Fragment.text (" " ++ word)).isSilent = false :=
      Fragment.isSilent_text_of_ne (by simp)
    rw [compared]
    exact Fragment.exists_demand_self (by decide) (by decide)
      (by simp [spaced])

end RecordQuery
