import RecordQuery.Proofs.Grammar.Conditions

/-!
# What a reader can find

Whatever a text is, the terms that are read from it compare with operators for
two operands, and none of their columns is a star.  A call that asks for another
operator or for a star is thus never read back.
-/

namespace RecordQuery

namespace Grammar

/-- An operand that can be read: no star is a column. -/
def Operand.IsFound : Operand → Prop
  | .column path => .star ∉ path
  | .value _ | .number _ | .query _ => True

/-- A term that can be read. -/
inductive Term.IsFound : Term → Prop
  | comparison {left right : Operand} {operator : String}
      (lefts : left.IsFound) (listed : operator ∈ comparisons)
      (rights : right.IsFound) : Term.IsFound (.comparison left operator right)
  | nullTest {left : Operand} {negated : Bool} (lefts : left.IsFound) :
      Term.IsFound (.nullTest left negated)
  | between {left low high : Operand} {negated : Bool} (lefts : left.IsFound) :
      Term.IsFound (.between left negated low high)
  | inList {left : Operand} {negated : Bool} {members : List Operand}
      (lefts : left.IsFound) : Term.IsFound (.inList left negated members)
  | inQuery {left : Operand} {negated : Bool} {query : Compiled}
      (lefts : left.IsFound) : Term.IsFound (.inQuery left negated query)
  | existence {negated : Bool} {query : Compiled} :
      Term.IsFound (.existence negated query)
  | nested {alternatives : Alternatives}
      (each : ∀ terms ∈ alternatives, ∀ term ∈ terms, Term.IsFound term) :
      Term.IsFound (.nested alternatives)

/-- Alternatives of terms that can be read. -/
def AreFound (alternatives : Alternatives) : Prop :=
  ∀ terms ∈ alternatives, ∀ term ∈ terms, term.IsFound

/-- A piece of which only such terms are read. -/
inductive Piece.IsFound : Piece → Prop
  | word (letters : String) : Piece.IsFound (.word letters)
  | operand {held : Operand} (found : held.IsFound) :
      Piece.IsFound (.operand held)
  | comma : Piece.IsFound .comma
  | enclosed (text : Compiled) {inside : List Piece}
      {alternatives? : Option Alternatives}
      (each : ∀ piece ∈ inside, Piece.IsFound piece)
      (found : ∀ alternatives ∈ alternatives?, AreFound alternatives) :
      Piece.IsFound (.enclosed text inside alternatives?)

namespace Piece

theorem IsFound.operand? {piece : Piece} (found : piece.IsFound)
    {held : Operand} (read : piece.operand? = some held) : held.IsFound := by
  cases found with
  | word letters => cases read
  | operand found =>
      cases read
      exact found
  | comma => cases read
  | enclosed text each found =>
      simp only [Piece.operand?, Option.map_eq_some_iff] at read
      obtain ⟨query, _, rfl⟩ := read
      trivial

theorem isFound_membership? {left : Operand} (lefts : left.IsFound)
    {negated : Bool} {piece : Piece} {term : Term}
    (read : membership? left negated piece = some term) : term.IsFound := by
  unfold membership? at read
  split at read
  · split at read
    · cases read
      exact .inQuery lefts
    · obtain ⟨members, _, rfl⟩ := Option.map_eq_some_iff.mp read
      exact .inList lefts
  · cases read

theorem isFound_comparison? {left : Operand} (lefts : left.IsFound)
    {operator : String} {right : Piece} (rights : right.IsFound) {term : Term}
    (read : comparison? left operator right = some term) : term.IsFound := by
  unfold comparison? at read
  split at read
  · next listed =>
      obtain ⟨held, rightRead, rfl⟩ := Option.map_eq_some_iff.mp read
      exact .comparison lefts listed (rights.operand? rightRead)
  · cases read

theorem isFound_between? {left : Operand} (lefts : left.IsFound)
    {negated : Bool} {low high : Piece} {term : Term}
    (read : between? left negated low high = some term) : term.IsFound := by
  simp only [between?, Option.bind_eq_bind, Option.bind_eq_some_iff,
    Option.some.injEq] at read
  obtain ⟨_, _, _, _, rfl⟩ := read
  exact .between lefts

theorem isFound_predicate? {left : Operand} (lefts : left.IsFound)
    {pieces : List Piece} (each : ∀ piece ∈ pieces, piece.IsFound)
    {term : Term} (read : predicate? left pieces = some term) :
    term.IsFound := by
  unfold predicate? at read
  split at read
  · cases read
    exact .nullTest lefts
  · cases read
    exact .nullTest lefts
  · exact isFound_between? lefts read
  · exact isFound_between? lefts read
  · exact isFound_membership? lefts read
  · exact isFound_membership? lefts read
  · exact isFound_comparison? lefts (each _ (by simp)) read
  · exact isFound_comparison? lefts (each _ (by simp)) read
  · cases read

theorem isFound_term? {pieces : List Piece}
    (each : ∀ piece ∈ pieces, piece.IsFound) {term : Term}
    (read : term? pieces = some term) : term.IsFound := by
  unfold term? at read
  split at read
  · cases read
    cases each _ (List.mem_singleton_self _) with
    | enclosed text inside found => exact .nested (found _ rfl)
  · obtain ⟨query, _, rfl⟩ := Option.map_eq_some_iff.mp read
    exact .existence
  · obtain ⟨query, _, rfl⟩ := Option.map_eq_some_iff.mp read
    exact .existence
  · obtain ⟨left, lefts, rest⟩ := Option.bind_eq_some_iff.mp read
    obtain ⟨first, later⟩ := List.forall_mem_cons.mp each
    exact isFound_predicate? (first.operand? lefts) later rest
  · cases read

/-- The terms that were read and the pieces that are left make alternatives that
can be read. -/
theorem areFound_readOn {rest : List Piece} :
    ∀ {ranging : Bool} {pieces : List Piece} {terms : List Term}
      {alternatives : Alternatives},
      (∀ piece ∈ pieces, piece.IsFound) → (∀ term ∈ terms, term.IsFound) →
      (∀ piece ∈ rest, piece.IsFound) →
      readOn ranging pieces terms rest = some alternatives →
        AreFound alternatives := by
  have ended {pieces : List Piece} {terms : List Term} {term : Term}
      (before : ∀ piece ∈ pieces, piece.IsFound)
      (found : ∀ term ∈ terms, term.IsFound)
      (read : term? pieces.reverse = some term) :
      ∀ each ∈ term :: terms, each.IsFound := by
    refine List.forall_mem_cons.mpr ⟨isFound_term? ?_ read, found⟩
    exact fun piece member => before piece (List.mem_reverse.mp member)
  have closed {terms : List Term} (found : ∀ term ∈ terms, term.IsFound)
      {later : Alternatives} (laterFound : AreFound later) :
      AreFound (terms.reverse :: later) :=
    List.forall_mem_cons.mpr
      ⟨fun term member => found term (List.mem_reverse.mp member), laterFound⟩
  induction rest with
  | nil =>
      intro ranging pieces terms alternatives before found _ read
      obtain ⟨term, termRead, whole⟩ := Option.bind_eq_some_iff.mp read
      cases whole
      exact closed (ended before found termRead) (List.forall_mem_nil _)
  | cons piece rest inductionHypothesis =>
      intro ranging pieces terms alternatives before found each read
      obtain ⟨head, tail⟩ := List.forall_mem_cons.mp each
      have kept := List.forall_mem_cons.mpr ⟨head, before⟩
      cases piece with
      | word letters =>
          rw [readOn] at read
          split at read
          · obtain ⟨term, termRead, more⟩ := Option.bind_eq_some_iff.mp read
            obtain ⟨later, laterRead, whole⟩ := Option.bind_eq_some_iff.mp more
            cases whole
            exact closed (ended before found termRead)
              (inductionHypothesis (List.forall_mem_nil _)
                (List.forall_mem_nil _) tail laterRead)
          · split at read
            · obtain ⟨term, termRead, more⟩ := Option.bind_eq_some_iff.mp read
              exact inductionHypothesis (List.forall_mem_nil _)
                (ended before found termRead) tail more
            · exact inductionHypothesis kept found tail read
      | operand held => exact inductionHypothesis kept found tail read
      | comma => exact inductionHypothesis kept found tail read
      | enclosed text inside alternatives? =>
          exact inductionHypothesis kept found tail read

theorem areFound_alternatives? {pieces : List Piece}
    (each : ∀ piece ∈ pieces, piece.IsFound) {alternatives : Alternatives}
    (read : alternatives? pieces = some alternatives) :
    AreFound alternatives :=
  areFound_readOn (List.forall_mem_nil _) (List.forall_mem_nil _) each read

end Piece

/-! ## Scanned pieces -/

theorem starless_path? {quote : Char} {word : List Char} :
    ∀ {stage : PathStage} {path : List Ident.Part},
      path? quote stage word = some path → .star ∉ path := by
  induction word with
  | nil =>
      intro stage path read
      cases stage with
      | start => cases read
      | inside name => cases read
      | closing name =>
          cases read
          simp
  | cons letter rest inductionHypothesis =>
      intro stage path read
      cases stage with
      | start =>
          rw [path?] at read
          split at read
          · exact inductionHypothesis read
          · cases read
      | inside name =>
          rw [path?] at read
          split at read
          · exact inductionHypothesis read
          · exact inductionHypothesis read
      | closing name =>
          rw [path?] at read
          split at read
          · exact inductionHypothesis read
          · split at read
            · obtain ⟨later, laterRead, rfl⟩ := Option.map_eq_some_iff.mp read
              simpa using inductionHypothesis laterRead
            · cases read

/-- A level whose pieces can all be read. -/
def Level.AreFound (level : Level) : Prop :=
  ∀ piece ∈ level.pieces, piece.IsFound

/-- All that was scanned can be read. -/
def Scanner.AreFound (scanner : Scanner) : Prop :=
  scanner.level.AreFound ∧ ∀ level ∈ scanner.outer, level.AreFound

namespace Passage

variable (passage : Passage)

theorem isFound_piece (marks : Nat) (word : List Char) :
    (passage.piece marks word).IsFound := by
  unfold piece
  split
  · exact .operand trivial
  · split
    · next path read => exact .operand (starless_path? read)
    · split
      · exact .operand trivial
      · exact .word _

theorem areFound_flush (marks : Nat) {level : Level} (found : level.AreFound) :
    (passage.flush marks level).AreFound := by
  unfold flush
  split
  · exact found
  · exact List.forall_mem_cons.mpr ⟨passage.isFound_piece _ _, found⟩

theorem isFound_enclose (marks : Nat) {level : Level}
    (found : level.AreFound) : (passage.enclose marks level).IsFound := by
  have inside : ∀ piece ∈ level.pieces.reverse, piece.IsFound :=
    fun piece member => found piece (List.mem_reverse.mp member)
  exact .enclosed _ inside fun alternatives read =>
    Piece.areFound_alternatives? inside read

theorem areFound_step {scanner : Scanner} (found : scanner.AreFound)
    (letter : Char) : (passage.step scanner letter).AreFound := by
  have ended := passage.areFound_flush scanner.marks found.1
  simp only [step]
  split
  · simp only [stepOutside]
    split
    · exact ⟨ended, found.2⟩
    · split
      · exact ⟨List.forall_mem_cons.mpr ⟨.comma, ended⟩, found.2⟩
      · split
        · exact ⟨List.forall_mem_nil _,
            List.forall_mem_cons.mpr ⟨ended, found.2⟩⟩
        · split
          -- A closing parenthesis makes a piece of what it encloses.
          · next around outer within _ _ _ _ =>
            have levels := found.2
            rw [within] at levels
            obtain ⟨aroundFound, outerFound⟩ := List.forall_mem_cons.mp levels
            exact ⟨List.forall_mem_cons.mpr
              ⟨passage.isFound_enclose scanner.marks ended, aroundFound⟩,
              outerFound⟩
          · exact found
  · exact found

theorem areFound_scan (letters : List Char) :
    ∀ {scanner : Scanner}, scanner.AreFound →
      (passage.scan scanner letters).AreFound := by
  induction letters with
  | nil => exact id
  | cons letter rest inductionHypothesis =>
      intro scanner found
      exact inductionHypothesis (passage.areFound_step found letter)

/-- Whatever a text is, only terms that can be read are read from it. -/
theorem areFound_read {alternatives : Alternatives}
    (read : passage.read = some alternatives) : AreFound alternatives := by
  have fresh : Scanner.AreFound {} :=
    ⟨List.forall_mem_nil _, List.forall_mem_nil _⟩
  have scanned := passage.areFound_scan passage.compiled.sql.toList fresh
  have ended := passage.areFound_flush
    (passage.scan {} passage.compiled.sql.toList).marks scanned.1
  simp only [Passage.read] at read
  split at read
  · split at read
    · cases read
      exact List.forall_mem_nil _
    · exact Piece.areFound_alternatives?
        (fun piece member => ended piece (List.mem_reverse.mp member)) read
  · cases read

end Passage

end Grammar

/-! ## Calls that can be read back -/

namespace Call

open Grammar

theorem mem_extend (link : Link) (term : Term) (alternatives : Alternatives)
    {other : Term}
    (among : other = term ∨ ∃ terms ∈ alternatives, other ∈ terms) :
    ∃ terms ∈ extend link term alternatives, other ∈ terms := by
  rcases List.eq_nil_or_concat' alternatives with rfl | ⟨earlier, last, rfl⟩
  · simpa [extend] using among
  · rw [Piece.extend_concat]
    cases link with
    | and =>
        rcases among with rfl | ⟨terms, member, within⟩
        · exact ⟨last ++ [other], by simp, by simp⟩
        · rcases List.mem_append.mp member with early | only
          · exact ⟨terms, List.mem_append_left _ early, within⟩
          · rw [List.mem_singleton.mp only] at within
            exact ⟨last ++ [term], by simp, List.mem_append_left _ within⟩
    | or =>
        rcases among with rfl | ⟨terms, member, within⟩
        · exact ⟨[other], by simp, List.mem_singleton_self _⟩
        · rcases List.mem_append.mp member with early | only
          · exact ⟨terms, List.mem_append_left _ early, within⟩
          · rw [List.mem_singleton.mp only] at within
            exact ⟨last, by simp, within⟩

theorem isFound_of_alternation {linked : List (Link × Term)}
    (found : AreFound (alternation linked)) :
    ∀ next ∈ linked, next.2.IsFound := by
  have among : ∀ next ∈ linked,
      ∃ terms ∈ alternation linked, next.2 ∈ terms := by
    clear found
    induction linked using List.reverseRecOn with
    | nil => exact List.forall_mem_nil _
    | append_singleton earlier last inductionHypothesis =>
        intro next member
        rw [alternation, List.foldl_concat]
        apply mem_extend
        rcases List.mem_append.mp member with early | only
        · exact Or.inr (inductionHypothesis next early)
        · exact Or.inl (congrArg Prod.snd (List.mem_singleton.mp only))
  intro next member
  obtain ⟨terms, place, within⟩ := among next member
  exact found terms place next.2 within

theorem namesColumn_of_isFound {path : String}
    (found : (column path).IsFound) : namesColumn path = true := by
  unfold column at found
  unfold namesColumn
  cases parsed : Ident.parse path with
  | error fault => rfl
  | ok ident =>
      rw [parsed] at found
      have starless : .star ∉ ident.parts := by
        intro star
        exact found (List.mem_map.mpr ⟨.star, star, rfl⟩)
      simpa using starless

theorem compares_of_isFound {left right : Operand} {operator : String}
    (found : (Term.comparison left (written operator) right).IsFound) :
    left.IsFound ∧ compares operator = true ∧ right.IsFound := by
  cases found with
  | comparison lefts listed rights =>
      exact ⟨lefts, by simpa [compares] using listed, rights⟩

theorem isFound_comparison {left : Operand} {operator : String} {value : Value}
    (found : (comparison left operator value).IsFound) :
    left.IsFound ∧ (value.isNull || compares operator) = true := by
  unfold comparison at found
  split at found
  · next null =>
      cases found with
      | nullTest lefts => exact ⟨lefts, by rw [null]; rfl⟩
  · obtain ⟨lefts, compared, _⟩ := compares_of_isFound found
    exact ⟨lefts, by rw [compared, Bool.or_true]⟩

mutual

/-- A call whose terms can be read is proper. -/
theorem isProper_of_isFound (dialect : Dialect) (count : Nat) (call : Call)
    (found : ∀ next ∈ call.terms dialect count, next.2.IsFound) :
    call.isProper = true := by
  cases call with
  | compare link path operator value =>
      obtain ⟨lefts, compared⟩ :=
        isFound_comparison (found _ (List.mem_singleton_self _))
      exact Bool.and_eq_true_iff.mpr ⟨namesColumn_of_isFound lefts, compared⟩
  | between path low high =>
      cases found _ (List.mem_singleton_self _) with
      | between lefts => exact namesColumn_of_isFound lefts
  | columns link path operator other =>
      obtain ⟨lefts, compared, rights⟩ :=
        compares_of_isFound (found _ (List.mem_singleton_self _))
      simp only [isProper, namesColumn_of_isFound lefts, compared,
        namesColumn_of_isFound rights, Bool.and_true]
  | inList link negated path values =>
      cases values with
      | nil => rfl
      | cons first rest =>
          cases found _ (List.mem_singleton_self _) with
          | inList lefts => exact namesColumn_of_isFound lefts
  | inQuery negated path query =>
      cases found _ (List.mem_singleton_self _) with
      | inQuery lefts => exact namesColumn_of_isFound lefts
  | existence link negated query => rfl
  | compareQuery link query operator value =>
      exact (isFound_comparison (found _ (List.mem_singleton_self _))).2
  | group link calls =>
      apply areProper_of_isFound dialect count calls
      rw [terms_group] at found
      split at found
      · next empty =>
        rw [empty]
        exact List.forall_mem_nil _
      · cases found _ (List.mem_singleton_self _) with
        | nested each => exact isFound_of_alternation each

theorem areProper_of_isFound (dialect : Dialect) (count : Nat)
    (calls : List Call)
    (found : ∀ next ∈ termsOf dialect count calls, next.2.IsFound) :
    areProper calls = true := by
  cases calls with
  | nil => rfl
  | cons call rest =>
      obtain ⟨first, later⟩ := List.forall_mem_append.mp found
      exact Bool.and_eq_true_iff.mpr
        ⟨isProper_of_isFound dialect count call first,
          areProper_of_isFound dialect _ rest later⟩

end

end Call

end RecordQuery
