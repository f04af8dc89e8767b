import Mathlib.Logic.ExistsUnique
import Mathlib.Tactic.SplitIfs
import RecordQuery.Ident

/-!
# The grammar of identifiers

A path is a sequence of parts with dots between them: plain names, names in
quotes with every quote inside doubled, and a star in the last place.  Reading
letter by letter accepts exactly the texts of paths, and finds the one path that
a text spells.
-/

namespace RecordQuery.Ident

/-! ## Paths -/

def IsNameStart (letter : Char) : Prop :=
  'A' ≤ letter ∧ letter ≤ 'Z' ∨ 'a' ≤ letter ∧ letter ≤ 'z' ∨ letter = '_'

def IsNameLetter (letter : Char) : Prop :=
  IsNameStart letter ∨ '0' ≤ letter ∧ letter ≤ '9' ∨ letter = '$'

/-- Whether letters are a plain name. -/
def IsName : List Char → Prop
  | [] => False
  | first :: rest => IsNameStart first ∧ ∀ letter ∈ rest, IsNameLetter letter

def Part.IsWritable : Part → Prop
  | .plain name => IsName name.toList
  | .quoted name => name ≠ ""
  | .star => True

/-- The letters that a part is written with. -/
def Part.spelling : Part → List Char
  | .plain name => name.toList
  | .quoted name => (quoteWith '"' name).toList
  | .star => ['*']

/-- Parts with single dots between them, of which only the last may be a
star. -/
inductive IsPath : List Part → List Char → Prop
  | last {part : Part} (writable : part.IsWritable) :
      IsPath [part] part.spelling
  | dot {part : Part} {parts : List Part} {letters : List Char}
      (writable : part.IsWritable) (named : part ≠ .star)
      (later : IsPath parts letters) :
      IsPath (part :: parts) (part.spelling ++ '.' :: letters)

/-- Whether a text without NUL spells the path of an identifier. -/
structure IsSpelledBy (ident : Ident) (text : String) : Prop where
  path : IsPath ident.parts text.toList
  nulFree : '\x00' ∉ text.toList

/-! ## Letters -/

theorem startsName_iff (letter : Char) :
    startsName letter = true ↔ IsNameStart letter := by
  have alphabetic : letter.isAlpha =
      (decide ('A' ≤ letter ∧ letter ≤ 'Z') ||
        decide ('a' ≤ letter) && decide (letter ≤ 'z')) := rfl
  simp only [startsName, alphabetic, IsNameStart, Bool.or_eq_true, beq_iff_eq,
    Bool.and_eq_true, decide_eq_true_eq]
  rw [or_comm, or_assoc]

theorem continuesName_iff (letter : Char) :
    continuesName letter = true ↔ IsNameLetter letter := by
  rw [IsNameLetter, ← startsName_iff]
  simp only [startsName, continuesName, Char.isAlphanum, Char.isDigit,
    Bool.or_eq_true, beq_iff_eq, Bool.and_eq_true, decide_eq_true_eq,
    ← Char.le_def, ge_iff_le]
  grind

theorem ne_of_isNameLetter {letter mark : Char} (isName : IsNameLetter letter)
    (other : continuesName mark = false) : letter ≠ mark := by
  rintro rfl
  rw [(continuesName_iff letter).mpr isName] at other
  cases other

theorem isName_append {letters : List Char} {letter : Char}
    (isName : IsName letters) (continues : IsNameLetter letter) :
    IsName (letters ++ [letter]) := by
  cases letters with
  | nil => exact isName.elim
  | cons first rest =>
      refine ⟨isName.1, fun other member => ?_⟩
      rcases List.mem_append.mp member with before | last
      · exact isName.2 other before
      · rw [List.mem_singleton.mp last]
        exact continues

/-- The letters of a quoted name between its quotes. -/
def doubled (letters : List Char) : List Char :=
  letters.flatMap fun letter => if letter = '"' then ['"', '"'] else [letter]

theorem doubled_append (letters others : List Char) :
    doubled (letters ++ others) = doubled letters ++ doubled others :=
  List.flatMap_append

theorem doubled_quote : doubled ['"'] = ['"', '"'] :=
  rfl

theorem doubled_of_ne {letter : Char} (other : letter ≠ '"') :
    doubled [letter] = [letter] := by
  rw [doubled, List.flatMap_singleton, if_neg other]

theorem spelling_quoted (name : String) :
    (Part.quoted name).spelling = '"' :: (doubled name.toList ++ ['"']) := by
  rw [Part.spelling, quoteWith, String.toList_ofList]
  rfl

/-! ## Reading a path -/

/-- Where the reader stands behind a part. -/
def Part.stage : Part → Stage
  | .plain name => .plain name.toList.reverse
  | .quoted name => .closing name.toList.reverse
  | .star => .star

theorem read_plain (rest : List Char) {letters : List Char} :
    ∀ name : List Char, (∀ letter ∈ letters, IsNameLetter letter) →
      read (.plain name) (letters ++ rest) =
        read (.plain (letters.reverse ++ name)) rest := by
  induction letters with
  | nil =>
      intro name _
      rfl
  | cons letter letters inductionHypothesis =>
      intro name all
      have isName := all letter List.mem_cons_self
      have later :=
        inductionHypothesis (letter :: name)
          fun other member => all other (List.mem_cons_of_mem _ member)
      rw [List.cons_append, read, if_neg (ne_of_isNameLetter isName rfl),
        if_pos ((continuesName_iff letter).mpr isName), later,
        List.reverse_cons, List.append_assoc]
      rfl

theorem read_quoted (rest letters : List Char) :
    ∀ name : List Char,
      read (.quoted name) (doubled letters ++ '"' :: rest) =
        read (.closing (letters.reverse ++ name)) rest := by
  induction letters with
  | nil =>
      intro name
      rfl
  | cons letter letters inductionHypothesis =>
      intro name
      have later := inductionHypothesis (letter :: name)
      rw [← List.singleton_append, doubled_append, List.reverse_append,
        List.append_assoc, List.append_assoc]
      by_cases quote : letter = '"'
      · rw [quote] at later ⊢
        rw [doubled_quote, List.cons_append, List.singleton_append, read,
          if_pos rfl, read.eq_9, if_pos rfl, later]
        rfl
      · rw [doubled_of_ne quote, List.singleton_append, read, if_neg quote,
          later]
        rfl

section Writable

variable {part : Part} (writable : part.IsWritable)

include writable

theorem read_start (rest : List Char) :
    read .start (part.spelling ++ rest) = read part.stage rest := by
  cases part with
  | plain name =>
      rw [Part.spelling, Part.stage]
      rw [Part.IsWritable] at writable
      cases letters : name.toList with
      | nil =>
          rw [letters] at writable
          exact writable.elim
      | cons first letters =>
          rw [letters] at writable
          obtain ⟨starts, continues⟩ := writable
          have isName : IsNameLetter first := Or.inl starts
          rw [List.cons_append, read, if_neg (ne_of_isNameLetter isName rfl),
            if_neg (ne_of_isNameLetter isName rfl),
            if_neg (ne_of_isNameLetter isName rfl),
            if_pos ((startsName_iff first).mpr starts),
            read_plain rest _ continues, List.reverse_cons]
  | quoted name =>
      have later := read_quoted rest name.toList []
      rw [List.append_nil] at later
      rw [spelling_quoted, Part.stage, List.cons_append, List.append_assoc,
        List.singleton_append]
      exact later
  | star => rfl

theorem read_stage_nil : read part.stage [] = .ok [part] := by
  cases part with
  | plain name =>
      rw [Part.stage, read, List.reverse_reverse, String.ofList_toList]
  | quoted name =>
      have some : name.toList.reverse ≠ [] := by
        simpa [Part.IsWritable] using writable
      rw [Part.stage, read.eq_8 _ (fun empty => some empty),
        List.reverse_reverse, String.ofList_toList]
  | star => rfl

theorem read_stage_dot (named : part ≠ .star) (rest : List Char) :
    read part.stage ('.' :: rest) = (read .start rest).map (part :: ·) := by
  cases part with
  | plain name =>
      rw [Part.stage, read, if_pos rfl, List.reverse_reverse,
        String.ofList_toList]
  | quoted name =>
      have some : name.toList.reverse.isEmpty = false := by
        simpa [Part.IsWritable] using writable
      have other : '.' ≠ '"' := by decide
      rw [Part.stage, read, if_neg other, some, if_neg Bool.false_ne_true,
        if_pos rfl, List.reverse_reverse, String.ofList_toList]
  | star => exact (named rfl).elim

end Writable

theorem read_of_isPath {parts : List Part} {letters : List Char}
    (path : IsPath parts letters) : read .start letters = .ok parts := by
  induction path with
  | @last part writable =>
      rw [← List.append_nil part.spelling, read_start writable,
        read_stage_nil writable]
  | dot writable named later inductionHypothesis =>
      rw [read_start writable, read_stage_dot writable named,
        inductionHypothesis]
      rfl

/-! ## What is read is a path -/

namespace Stage

/-- The letters of the part that a reader stands in or behind. -/
def spelling : Stage → List Char
  | .start => []
  | .plain name => name.reverse
  | .quoted name => '"' :: doubled name.reverse
  | .closing name => '"' :: (doubled name.reverse ++ ['"'])
  | .star => ['*']

/-- Whether what was read of a plain name is one. -/
def IsReached : Stage → Prop
  | .plain name => IsName name.reverse
  | _ => True

end Stage

theorem isPath_of_dot {part : Part} {parts : List Part} {rest : List Char}
    (writable : part.IsWritable) (named : part ≠ .star)
    (later : ∀ behind : List Part, read .start rest = .ok behind →
      IsPath behind rest)
    (found : (read .start rest).map (part :: ·) = .ok parts) :
    IsPath parts (part.spelling ++ '.' :: rest) := by
  cases read : read .start rest with
  | error fault =>
      rw [read] at found
      cases found
  | ok behind =>
      rw [read] at found
      cases found
      exact .dot writable named (later behind read)

section Names

variable {name : List Char}

theorem isWritable_plain (isName : IsName name.reverse) :
    (Part.plain (String.ofList name.reverse)).IsWritable := by
  rw [Part.IsWritable, String.toList_ofList]
  exact isName

theorem isWritable_quoted (nonempty : name ≠ []) :
    (Part.quoted (String.ofList name.reverse)).IsWritable := by
  simpa [Part.IsWritable] using nonempty

theorem spelling_plain_reverse :
    (Part.plain (String.ofList name.reverse)).spelling =
      (Stage.plain name).spelling :=
  String.toList_ofList

theorem spelling_quoted_reverse :
    (Part.quoted (String.ofList name.reverse)).spelling =
      (Stage.closing name).spelling := by
  rw [spelling_quoted, String.toList_ofList, Stage.spelling]

/-- Two quotes inside a quoted name stand for one. -/
theorem spelling_quoted_cons (letter : Char) (rest : List Char) :
    (Stage.quoted (letter :: name)).spelling ++ rest =
      (Stage.quoted name).spelling ++ (doubled [letter] ++ rest) := by
  simp [Stage.spelling, doubled_append]

end Names

/-- What stands behind a stage and what was read before it is a path
together. -/
theorem isPath_of_read (letters : List Char) :
    ∀ (stage : Stage) (parts : List Part), stage.IsReached →
      read stage letters = .ok parts →
      IsPath parts (stage.spelling ++ letters) := by
  induction letters with
  | nil =>
      intro stage parts reached found
      rw [List.append_nil]
      cases stage with
      | start => cases found
      | plain name =>
          cases found
          rw [← spelling_plain_reverse]
          exact .last (isWritable_plain reached)
      | quoted name => cases found
      | closing name =>
          by_cases empty : name = []
          · rw [empty] at found
            cases found
          · rw [read.eq_8 name empty] at found
            cases found
            rw [← spelling_quoted_reverse]
            exact .last (isWritable_quoted empty)
      | star =>
          cases found
          exact .last (show Part.star.IsWritable from trivial)
  | cons letter rest inductionHypothesis =>
      intro stage parts reached found
      have fresh (behind : List Part) :
          read .start rest = .ok behind → IsPath behind rest :=
        inductionHypothesis .start behind trivial
      cases stage with
      | start =>
          rw [read] at found
          split_ifs at found with star quote dot starts
          · rw [star]
            exact inductionHypothesis .star parts trivial found
          · rw [quote]
            exact inductionHypothesis (.quoted []) parts trivial found
          · have isName : IsName [letter] :=
              ⟨(startsName_iff letter).mp starts, nofun⟩
            exact inductionHypothesis (.plain [letter]) parts isName found
      | plain name =>
          rw [read] at found
          split_ifs at found with dot continues
          · rw [dot, ← spelling_plain_reverse]
            exact isPath_of_dot (isWritable_plain reached) nofun fresh found
          · have isName : IsName (letter :: name).reverse := by
              rw [List.reverse_cons]
              exact isName_append reached
                ((continuesName_iff letter).mp continues)
            have path :=
              inductionHypothesis (.plain (letter :: name)) parts isName found
            rw [Stage.spelling, List.reverse_cons, List.append_assoc] at path
            exact path
      | quoted name =>
          rw [read] at found
          split_ifs at found with quote
          · have path := inductionHypothesis (.closing name) parts trivial found
            rw [Stage.spelling, List.cons_append, List.append_assoc] at path
            rw [quote]
            exact path
          · have path :=
              inductionHypothesis (.quoted (letter :: name)) parts trivial found
            rw [spelling_quoted_cons, doubled_of_ne quote] at path
            exact path
      | closing name =>
          rw [read.eq_9] at found
          split_ifs at found with quote empty dot
          · have path :=
              inductionHypothesis (.quoted ('"' :: name)) parts trivial found
            rw [spelling_quoted_cons, doubled_quote] at path
            rw [quote, Stage.spelling, List.cons_append, List.append_assoc]
            exact path
          · rw [dot, ← spelling_quoted_reverse]
            exact isPath_of_dot (isWritable_quoted (by simpa using empty)) nofun
              fresh found
      | star => cases found

/-! ## Texts -/

theorem read_eq_ok_iff (letters : List Char) (parts : List Part) :
    read .start letters = .ok parts ↔ IsPath parts letters :=
  ⟨isPath_of_read letters .start parts trivial, read_of_isPath⟩

theorem IsPath.unique {parts others : List Part} {letters : List Char}
    (path : IsPath parts letters) (other : IsPath others letters) :
    parts = others := by
  have read := read_of_isPath path
  rw [read_of_isPath other] at read
  exact (Except.ok.inj read).symm

theorem IsPath.ne_nil {parts : List Part} {letters : List Char}
    (path : IsPath parts letters) : letters ≠ [] := by
  rintro rfl
  cases read_of_isPath path

theorem parse_eq_ok_iff (text : String) (ident : Ident) :
    parse text = .ok ident ↔ ident.IsSpelledBy text := by
  constructor
  · intro parsed
    simp only [parse] at parsed
    split_ifs at parsed with empty nul
    cases found : read .start text.toList with
    | error fault =>
        rw [found] at parsed
        cases parsed
    | ok parts =>
        rw [found] at parsed
        cases parsed
        exact ⟨(read_eq_ok_iff _ _).mp found, by simpa using nul⟩
  · intro ⟨path, nulFree⟩
    have nonempty : text.toList.isEmpty = false := by
      simpa using path.ne_nil
    have free : text.toList.contains '\x00' = false := by simpa using nulFree
    simp only [parse, nonempty, free, Bool.false_eq_true, if_false,
      read_of_isPath path]
    rfl

/-- Reading a text succeeds exactly when it spells a path, and gives the only
path that it spells. -/
theorem parse_finds_spelled_path (text : String) :
    ((∃ ident, parse text = .ok ident) ↔
      ∃! ident : Ident, ident.IsSpelledBy text) ∧
    ∀ ident, parse text = .ok ident ↔ ident.IsSpelledBy text := by
  refine ⟨?_, parse_eq_ok_iff text⟩
  simp only [parse_eq_ok_iff]
  constructor
  · rintro ⟨⟨parts⟩, spelled⟩
    refine ⟨⟨parts⟩, spelled, fun ⟨others⟩ other => ?_⟩
    exact congrArg Ident.mk (other.path.unique spelled.path)
  · exact ExistsUnique.exists

/-- A plain name, a quoted one with a dot and a quote in it, and a star. -/
example : parse "public.\"a.\"\"b\".*" =
    .ok ⟨[.plain "public", .quoted "a.\"b", .star]⟩ :=
  rfl

end RecordQuery.Ident
