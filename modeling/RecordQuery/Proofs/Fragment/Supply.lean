import RecordQuery.Proofs.Fragment.Dialects
import RecordQuery.Proofs.Model.Twins
import RecordQuery.Proofs.Text.Quotes

/-!
# The question marks that a driver sees

SQLite and MySQL show a value as a bare question mark, so that a driver hands
its values to the question marks that it finds outside of quotes, in order.  A
statement is made of pieces, each handed in with the values for its own question
marks.  Raw text may have more question marks than values, or have some of them
between quotes; the values then go to the right places exactly when no raw text
of the statement does.
-/

namespace RecordQuery

namespace Compiled

variable (dialect : Dialect)

/-- The number of question marks that a driver sees in the text. -/
def marks (piece : Compiled) : Nat :=
  Quoting.marks dialect .outside piece.sql.toList

/-- For each question mark that a driver sees, the value that was handed in for
it, if there were so many. -/
def supply (piece : Compiled) : List (Option Value) :=
  (List.range (piece.marks dialect)).map (piece.bindings[·]?)

end Compiled

namespace Fragment

/-- The pieces of a statement as they were handed in, each with its values. -/
def pieces (dialect : Dialect) : Fragment → List Compiled
  | .name path =>
      match Ident.parse path with
      | .ok ident => [⟨ident.render dialect, []⟩]
      | .error _ => []
  | .raw sql bindings => [⟨sql, bindings⟩]
  | .bound value => [⟨"?", [value]⟩]
  | .group inner =>
      if inner.isSilent then inner.pieces dialect
      else ⟨"(", []⟩ :: inner.pieces dialect ++ [⟨")", []⟩]
  | .joined separator left right =>
      if right.isSilent then left.pieces dialect
      else if left.isSilent then right.pieces dialect
      else left.pieces dialect ++ ⟨separator, []⟩ :: right.pieces dialect
  | .led keyword body =>
      if body.isSilent then body.pieces dialect
      else ⟨keyword ++ " ", []⟩ :: body.pieces dialect
  | .unlimited => [⟨dialect.limitAll, []⟩]
  | .refused _ => []

/-- For each question mark that a driver sees in the statement, the value that
was handed in for it. -/
def supply (dialect : Dialect) (fragment : Fragment) : List (Option Value) :=
  (fragment.pieces dialect).flatMap (Compiled.supply dialect)

/-! ## A statement is its pieces -/

theorem fill_eq_self {dialect : Dialect} (ordinary : dialect ≠ .postgres)
    (letters : List Char) :
    ∀ count pending : Nat, fill dialect count pending letters = letters := by
  have mark (number : Nat) : dialect.placeholder number = "?" := by
    cases dialect with
    | sqlite => rfl
    | mysql => rfl
    | postgres => exact (ordinary rfl).elim
  induction letters with
  | nil =>
      intro count pending
      rfl
  | cons letter rest inductionHypothesis =>
      intro count pending
      cases pending with
      | zero => rw [fill, inductionHypothesis]
      | succ pending =>
          rw [fill, mark, inductionHypothesis, inductionHypothesis]
          split
          · next question => simp [question]
          · rfl

theorem print_pieces {dialect : Dialect} (ordinary : dialect ≠ .postgres)
    (fragment : Fragment) :
    ∀ count : Nat,
      (Item.print dialect count fragment.items).toList =
        (fragment.pieces dialect).flatMap fun piece => piece.sql.toList := by
  induction fragment with
  | name path =>
      intro count
      rw [items, pieces]
      cases Ident.parse path with
      | ok ident => simp [Item.print]
      | error fault => rfl
  | raw sql bindings =>
      intro count
      rw [items, Item.print_ofRaw, fill_eq_self ordinary]
      simp [pieces]
  | bound value =>
      intro count
      cases dialect with
      | sqlite => simp [items, Item.print, pieces, Dialect.placeholder]
      | mysql => simp [items, Item.print, pieces, Dialect.placeholder]
      | postgres => exact (ordinary rfl).elim
  | group inner inductionHypothesis =>
      intro count
      have shape :
          (group inner).items =
            if inner.isSilent then inner.items
            else .text "(" :: inner.items ++ [.text ")"] :=
        rfl
      rw [shape, pieces]
      split
      · exact inductionHypothesis count
      · simp [Item.print, Item.print_append, inductionHypothesis]
  | joined separator left right leftHypothesis rightHypothesis =>
      intro count
      have shape :
          (joined separator left right).items =
            if right.isSilent then left.items
            else if left.isSilent then right.items
            else left.items ++ .text separator :: right.items :=
        rfl
      rw [shape, pieces]
      split
      · exact leftHypothesis count
      · split
        · exact rightHypothesis count
        · simp [Item.print, Item.print_append, leftHypothesis, rightHypothesis]
  | led keyword body inductionHypothesis =>
      intro count
      have shape :
          (led keyword body).items =
            if body.isSilent then body.items
            else .text (keyword ++ " ") :: body.items :=
        rfl
      rw [shape, pieces]
      split
      · exact inductionHypothesis count
      · simp [Item.print, inductionHypothesis]
  | unlimited =>
      intro count
      simp [items, Item.print, pieces]
  | refused cause =>
      intro count
      rfl

theorem values_pieces (dialect : Dialect) (fragment : Fragment) :
    fragment.fault? = none →
      fragment.values =
        (fragment.pieces dialect).flatMap Compiled.bindings := by
  induction fragment with
  | name path =>
      intro _
      rw [values_name, pieces]
      split <;> rfl
  | raw sql bindings =>
      intro faultless
      have enough : bindings.length ≤ sql.toList.count '?' := by
        by_contra short
        simp [fault?, short] at faultless
      rw [values, items, Item.values_ofRaw _ _ enough]
      simp [pieces]
  | bound value =>
      intro _
      rfl
  | group inner inductionHypothesis =>
      intro faultless
      have inside := inductionHypothesis faultless
      rw [values_group, inside, pieces]
      split <;> simp
  | joined separator left right leftHypothesis rightHypothesis =>
      intro faultless
      have both : left.fault? = none ∧ right.fault? = none :=
        Option.or_eq_none_iff.mp faultless
      have lefts := leftHypothesis both.1
      have rights := rightHypothesis both.2
      rw [values_joined, lefts, rights, pieces]
      split
      · next silent =>
          have none : right.values = [] := Item.values_eq_nil_of_blank silent
          rw [← rights, none, List.append_nil]
      · split
        · next silent =>
            have none : left.values = [] := Item.values_eq_nil_of_blank silent
            rw [← lefts, none, List.nil_append]
        · simp
  | led keyword body inductionHypothesis =>
      intro faultless
      have inside := inductionHypothesis faultless
      rw [values_led, inside, pieces]
      split <;> simp
  | unlimited =>
      intro _
      rfl
  | refused cause =>
      intro faultless
      cases faultless

end Fragment

/-! ## Pieces of what kind -/

/-- What holds of quoted names, placeholders and plain text, and of raw texts of
a kind, holds of all pieces of a program with such raw texts. -/
theorem Fragment.pieces_congruence (dialect : Dialect)
    (holds : Compiled → Prop)
    (name : ∀ ident : Ident, holds ⟨ident.render dialect, []⟩)
    (mark : ∀ value : Value, holds ⟨"?", [value]⟩)
    (text : ∀ sql : String, Quoting.Closes dialect sql.toList →
      Quoting.marks dialect .outside sql.toList = 0 → holds ⟨sql, []⟩) :
    Fragment.RawCongruence Eq
      (fun left _ => ∀ piece ∈ left.pieces dialect, holds piece)
      (fun sql bindings => holds ⟨sql, bindings⟩) := by
  have plain (sql : String) (isPlain : Text.isPlain sql = true) :
      holds ⟨sql, []⟩ :=
    text sql (Quoting.plain_text isPlain).1 (Quoting.plain_text isPlain).2
  have separated (separator : String) (allowed : holds ⟨separator, []⟩)
      {left right : Fragment}
      (lefts : ∀ piece ∈ left.pieces dialect, holds piece)
      (rights : ∀ piece ∈ right.pieces dialect, holds piece) :
      ∀ piece ∈ (Fragment.joined separator left right).pieces dialect,
        holds piece := by
    rw [pieces]
    split
    · exact lefts
    · split
      · exact rights
      · intro piece member
        rcases List.mem_append.mp member with before | later
        · exact lefts piece before
        · rcases List.mem_cons.mp later with between | after
          · rw [between]
            exact allowed
          · exact rights piece after
  refine
    { name := fun path => ?_
      text := fun sql isPlain piece member => ?_
      bound := fun _ piece member => ?_
      group := fun inners => ?_
      joined := fun separator isPlain _ _ _ _ =>
        separated separator (plain separator isPlain)
      led := fun keyword isPlain _ _ bodies => ?_
      unlimited := fun piece member => ?_
      refused := fun cause piece member => ?_
      raw := fun sql _ _ allowed _ piece member => ?_
      separated := fun separator allowed _ _ _ _ =>
        separated separator allowed }
  · rw [pieces]
    split
    · next ident _ =>
        intro piece member
        rw [List.mem_singleton.mp member]
        exact name ident
    · intro piece member
      cases member
  · rw [List.mem_singleton.mp member]
    exact plain sql isPlain
  · rw [List.mem_singleton.mp member]
    exact mark _
  · rw [pieces]
    split
    · exact inners
    · intro piece member
      have opening : holds ⟨"(", []⟩ :=
        text "(" (by cases dialect <;> decide) (by cases dialect <;> decide)
      have closing : holds ⟨")", []⟩ :=
        text ")" (by cases dialect <;> decide) (by cases dialect <;> decide)
      rcases List.mem_append.mp member with before | last
      · rcases List.mem_cons.mp before with first | within
        · rw [first]
          exact opening
        · exact inners piece within
      · rw [List.mem_singleton.mp last]
        exact closing
  · rw [pieces]
    split
    · exact bodies
    · intro piece member
      rcases List.mem_cons.mp member with first | within
      · rw [first]
        refine plain _ ?_
        rw [Text.isPlain_append, isPlain]
        decide
      · exact bodies piece within
  · rw [List.mem_singleton.mp member]
    refine plain _ ?_
    cases dialect <;> decide
  · cases member
  · rw [List.mem_singleton.mp member]
    exact allowed

/-! ## Values for question marks -/

section Supply

variable {dialect : Dialect}

@[simp]
theorem Compiled.length_supply (piece : Compiled) :
    (piece.supply dialect).length = piece.marks dialect := by
  simp [Compiled.supply]

theorem Compiled.supply_eq_of_marks {piece : Compiled}
    (balanced : piece.marks dialect = piece.bindings.length) :
    piece.supply dialect = piece.bindings.map some := by
  rw [Compiled.supply, balanced]
  refine List.ext_getElem (by simp) fun place _ _ => ?_
  simp

/-- A question mark without a value is seen as such. -/
theorem Compiled.marks_le_of_not_mem {piece : Compiled}
    (supplied : none ∉ piece.supply dialect) :
    piece.marks dialect ≤ piece.bindings.length := by
  by_contra more
  apply supplied
  simp only [Compiled.supply, List.mem_map, List.mem_range]
  exact ⟨piece.bindings.length, by omega, by simp⟩

theorem length_flatMap_supply_le {pieces : List Compiled}
    (each : ∀ piece ∈ pieces,
      piece.marks dialect ≤ piece.bindings.length) :
    (pieces.flatMap (Compiled.supply dialect)).length ≤
      (pieces.flatMap Compiled.bindings).length := by
  induction pieces with
  | nil => exact Nat.le_refl 0
  | cons piece rest inductionHypothesis =>
      have head := each piece (List.mem_cons_self ..)
      have tail := inductionHypothesis fun later member =>
        each later (List.mem_cons_of_mem piece member)
      simp only [List.flatMap_cons, List.length_append,
        Compiled.length_supply]
      omega

theorem marks_eq_of_length_eq {pieces : List Compiled}
    (each : ∀ piece ∈ pieces, piece.marks dialect ≤ piece.bindings.length)
    (sameLength :
      (pieces.flatMap (Compiled.supply dialect)).length =
        (pieces.flatMap Compiled.bindings).length) :
    ∀ piece ∈ pieces, piece.marks dialect = piece.bindings.length := by
  induction pieces with
  | nil =>
      intro piece member
      cases member
  | cons first rest inductionHypothesis =>
      have head := each first (List.mem_cons_self ..)
      have later : ∀ piece ∈ rest,
          piece.marks dialect ≤ piece.bindings.length :=
        fun piece member => each piece (List.mem_cons_of_mem first member)
      have tail := length_flatMap_supply_le later
      simp only [List.flatMap_cons, List.length_append,
        Compiled.length_supply] at sameLength
      intro piece member
      rcases List.mem_cons.mp member with same | within
      · rw [same]
        omega
      · exact inductionHypothesis later (by omega) piece within

/-- The values are handed to the question marks that they are for exactly when
each piece has as many question marks as values: a surplus is seen as a mark
without a value, and then a lack as a mark too few. -/
theorem flatMap_supply_eq_iff (pieces : List Compiled) :
    pieces.flatMap (Compiled.supply dialect) =
        (pieces.flatMap Compiled.bindings).map some ↔
      ∀ piece ∈ pieces, piece.marks dialect = piece.bindings.length := by
  constructor
  · intro same
    have each : ∀ piece ∈ pieces,
        piece.marks dialect ≤ piece.bindings.length := by
      intro piece member
      refine Compiled.marks_le_of_not_mem fun missing => ?_
      have seen : none ∈ pieces.flatMap (Compiled.supply dialect) :=
        List.mem_flatMap.mpr ⟨piece, member, missing⟩
      rw [same] at seen
      simp at seen
    refine marks_eq_of_length_eq each ?_
    simpa only [List.length_map] using congrArg List.length same
  · intro balanced
    rw [List.map_flatMap]
    exact List.flatMap_congr fun piece member =>
      Compiled.supply_eq_of_marks (balanced piece member)

/-- Pieces that close their quotes show together the question marks that each
of them shows. -/
theorem marks_flatMap {pieces : List Compiled}
    (closed : ∀ piece ∈ pieces, Quoting.Closes dialect piece.sql.toList) :
    Quoting.marks dialect .outside
        (pieces.flatMap fun piece => piece.sql.toList) =
      (pieces.flatMap (Compiled.supply dialect)).length := by
  induction pieces with
  | nil => rfl
  | cons piece rest inductionHypothesis =>
      have head := closed piece (List.mem_cons_self ..)
      rw [List.flatMap_cons, Quoting.marks_append_of_closes head,
        inductionHypothesis fun later member =>
          closed later (List.mem_cons_of_mem piece member)]
      simp [Compiled.marks]

end Supply

/-! ## Statements -/

namespace Fragment

/-- A statement of SQLite or MySQL is the text of its pieces, and a driver sees
in it the question marks of its pieces.  As long as every raw text closes its
quotes, the values go to the question marks that they were handed in for, as
many as there are, exactly when each raw text of the statement has as many
question marks as values.  All other pieces always have. -/
theorem supply_eq_bindings_iff {dialect : Dialect}
    (ordinary : dialect ≠ .postgres) {raws : String → List Value → Prop}
    (closed : ∀ sql bindings, raws sql bindings →
      Quoting.Closes dialect sql.toList)
    {program : Fragment} (made : Fragment.Twins Eq raws program program)
    {compiled : Compiled} (compiles : program.toSql dialect = .ok compiled) :
    let pieces := program.pieces dialect
    compiled.sql.toList = (pieces.flatMap fun piece => piece.sql.toList) ∧
      compiled.bindings = pieces.flatMap Compiled.bindings ∧
      compiled.marks dialect = (program.supply dialect).length ∧
      (program.supply dialect = compiled.bindings.map some ↔
        ∀ piece ∈ pieces, raws piece.sql piece.bindings →
          piece.marks dialect = piece.bindings.length) := by
  let holds (piece : Compiled) : Prop :=
    Quoting.Closes dialect piece.sql.toList ∧
      (raws piece.sql piece.bindings ∨
        piece.marks dialect = piece.bindings.length)
  have mark : Quoting.Closes dialect "?".toList ∧
      Quoting.marks dialect .outside "?".toList = 1 := by
    cases dialect <;> decide
  have congruence :=
    pieces_congruence dialect holds
      (fun ident => ⟨(Quoting.rendered_ident ident).1,
        Or.inr (Quoting.rendered_ident ident).2⟩)
      (fun _ => ⟨mark.1, Or.inr mark.2⟩)
      (fun sql closes none => ⟨closes, Or.inr none⟩)
  have each : ∀ piece ∈ program.pieces dialect, holds piece :=
    made.related
      (congruence.mono fun sql bindings allowed =>
        ⟨closed sql bindings allowed, Or.inl allowed⟩)
      fun _ _ same => congrArg Value.isNull same
  rw [toSql_eq] at compiles
  cases faultless : program.fault? with
  | some error =>
      rw [faultless] at compiles
      cases compiles
  | none =>
      rw [faultless] at compiles
      cases compiles
      have text := print_pieces ordinary program 0
      have bindings := values_pieces dialect program faultless
      refine ⟨text, bindings, ?_, ?_⟩
      · rw [Compiled.marks, text]
        exact marks_flatMap fun piece member => (each piece member).1
      · simp only [bindings]
        rw [supply, flatMap_supply_eq_iff]
        constructor
        · exact fun balanced piece member _ => balanced piece member
        · intro balanced piece member
          rcases (each piece member).2 with raw | already
          · exact balanced piece member raw
          · exact already

/-- Raw text with question marks in strings and values for the others. -/
def namedGrownUps : Fragment :=
  (Query.applyAll { source? := (some "users").map .table }
    [.addSelect (.raw "'who?' AS label" []),
      .filter .where_ (.raw .and "age > ? AND name <> 'what\\'?'" [.int 18]),
      .filter .where_ (.inList .and false "id" [.int 1, .int 2])]).fragment

theorem supply_eq_bindings_iff_namedGrownUps :
    let compiled : Compiled :=
      ⟨"SELECT 'who?' AS label FROM \x60users\x60 WHERE age > ? AND " ++
        "name <> 'what\\'?' AND \x60id\x60 IN (?, ?)",
        [.int 18, .int 1, .int 2]⟩
    namedGrownUps.toSql .mysql = .ok compiled ∧
      namedGrownUps.supply .mysql = compiled.bindings.map some := by
  let raws (sql : String) (bindings : List Value) : Prop :=
    Quoting.Closes .mysql sql.toList ∧
      Quoting.marks .mysql .outside sql.toList = bindings.length
  have label : raws "'who?' AS label" [] := by decide
  have grownUp : raws "age > ? AND name <> 'what\\'?'" [.int 18] := by decide
  have made : Fragment.Twins Eq raws namedGrownUps namedGrownUps :=
    .query (some "users") (.cons (.addSelect (.raw _ label .nil))
      (.cons (.filter _ (.raw _ _ grownUp (.cons rfl .nil)))
        (.cons (.filter _ (.inList _ _ _ (.cons rfl (.cons rfl .nil)))) .nil)))
  refine ⟨rfl, ?_⟩
  exact (supply_eq_bindings_iff (by decide) (fun _ _ => And.left) made
    rfl).2.2.2.mpr fun _ _ => And.right

/-- A condition with raw text before one with a value. -/
def rawThenBound (sql : String) : Query :=
  (Query.table "foos").applyAll
    [.filter .where_ (.raw .and sql []),
      .filter .where_ (.compare .and "b" "=" (.int 7))]

/-- The value goes to the question mark of the raw text, which came without one,
or to none at all after raw text that leaves a string open. -/
theorem rawThenBound_misleads_value :
    let marked : Compiled :=
      ⟨"SELECT \"foos\".* FROM \"foos\" WHERE a = ? AND \"b\" = ?", [.int 7]⟩
    let opened : Compiled :=
      ⟨"SELECT \"foos\".* FROM \"foos\" WHERE a = 'x AND \"b\" = ?", [.int 7]⟩
    ((rawThenBound "a = ?").toSql .sqlite = .ok marked ∧
        marked.marks .sqlite ≠ marked.bindings.length ∧
        (rawThenBound "a = ?").fragment.supply .sqlite =
          [none, some (.int 7)]) ∧
      (rawThenBound "a = 'x").toSql .sqlite = .ok opened ∧
        opened.marks .sqlite ≠ opened.bindings.length :=
  ⟨⟨rfl, by decide, rfl⟩, rfl, by decide⟩

end Fragment

end RecordQuery
