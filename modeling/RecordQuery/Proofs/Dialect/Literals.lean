import RecordQuery.Dialect.ColumnType
import RecordQuery.Proofs.Instant.Letters
import RecordQuery.Proofs.Text.Quotes
import RecordQuery.Proofs.Uuid

/-!
# Literals as a database reads them

A database reads a string up to the quote that closes it, where a doubled quote
stands for one and, in MySQL, a backslash changes what the next letter stands
for.  What a value with a text of its own is written as is one string with
exactly that text, followed by nothing but its cast; a byte string is one literal
with the digits of its bytes, and the variants of an enumeration are one string
each.
-/

namespace RecordQuery

/-- The type that a value of this kind is cast to where casts are written. -/
def Value.castType? : Value → Option String
  | .uuid _ => some "uuid"
  | .instant _ => some "timestamptz"
  | .json _ => some "jsonb"
  | .bytes _ => some "bytea"
  | _ => none

namespace Dialect

/-! ## Tokens -/

/-- What SQL is read as: a string by the text that it stands for, the letters of
a hexadecimal string, a word, or a mark. -/
inductive Token where
  | string (text : String)
  | bytes (digits : List Char)
  | word (letters : String)
  | mark (letter : Char)
deriving DecidableEq

/-- The two kinds of literals in quotes. -/
inductive QuotedKind where
  | string
  | bytes

/-- The token of the letters between the quotes, which are held backwards. -/
def QuotedKind.token : QuotedKind → List Char → Token
  | .string, letters => .string (String.ofList letters.reverse)
  | .bytes, letters => .bytes letters.reverse

/-- Where the tokenizer stands: between tokens, in a word, in quotes, after a
backslash in them, or after a quote that ends them unless another follows.
Letters are held backwards. -/
inductive TokenizerMode where
  | between
  | word (letters : List Char)
  | inside (kind : QuotedKind) (letters : List Char)
  | escaped (kind : QuotedKind) (letters : List Char)
  | closing (kind : QuotedKind) (letters : List Char)

/-- A mode and the tokens that were read before, from the last to the first. -/
structure Tokenizer where
  mode : TokenizerMode := .between
  tokens : List Token := []

/-- What a letter stands for after a backslash: a control character, the letter
itself, or both where the backslash is kept for patterns. -/
def unescaped : Char → List Char
  | '0' => ['\x00']
  | 'b' => ['\x08']
  | 'n' => ['\n']
  | 'r' => ['\r']
  | 't' => ['\t']
  | 'Z' => ['\x1a']
  | '%' => ['\\', '%']
  | '_' => ['\\', '_']
  | letter => [letter]

/-- The letters that are tokens of their own. -/
def isMark (letter : Char) : Bool :=
  letter = '(' || letter = ')' || letter = ',' || letter = ':'

namespace Tokenizer

/-- A letter outside of words and quotes. -/
def start (tokens : List Token) (letter : Char) : Option Tokenizer :=
  if letter = '\'' then some ⟨.inside .string [], tokens⟩
  else if letter.isAlphanum then some ⟨.word [letter], tokens⟩
  else if isMark letter then some ⟨.between, .mark letter :: tokens⟩
  else none

/-- A quote right after an X opens a hexadecimal string; what it opens after
another word is read by other rules than these. -/
def step (dialect : Dialect) (tokenizer : Tokenizer) (letter : Char) :
    Option Tokenizer :=
  let tokens := tokenizer.tokens
  match tokenizer.mode with
  | .between => start tokens letter
  | .word letters =>
      if letter.isAlphanum then some ⟨.word (letter :: letters), tokens⟩
      else if letter = '\'' then
        if letters = ['X'] then some ⟨.inside .bytes [], tokens⟩ else none
      else start (.word (String.ofList letters.reverse) :: tokens) letter
  | .inside kind letters =>
      if letter = '\'' then some ⟨.closing kind letters, tokens⟩
      else if letter = '\\' ∧ dialect.escapes '\'' then
        some ⟨.escaped kind letters, tokens⟩
      else some ⟨.inside kind (letter :: letters), tokens⟩
  | .escaped kind letters =>
      some ⟨.inside kind ((unescaped letter).reverse ++ letters), tokens⟩
  | .closing kind letters =>
      if letter = '\'' then
        some ⟨.inside kind (letter :: letters), tokens⟩
      else start (kind.token letters :: tokens) letter

/-- The tokens in their order, unless quotes are still open. -/
def finish (tokenizer : Tokenizer) : Option (List Token) :=
  match tokenizer.mode with
  | .between => some tokenizer.tokens.reverse
  | .word letters =>
      some (.word (String.ofList letters.reverse) :: tokenizer.tokens).reverse
  | .closing kind letters =>
      some (kind.token letters :: tokenizer.tokens).reverse
  | .inside _ _ | .escaped _ _ => none

def run (dialect : Dialect) (tokenizer : Tokenizer) (letters : List Char) :
    Option Tokenizer :=
  letters.foldlM (step dialect) tokenizer

end Tokenizer

/-- The tokens that a text is read as.  Every letter may stand between quotes, NUL
among them, though SQLite ends a statement there and PostgreSQL refuses it. -/
def tokens? (dialect : Dialect) (text : String) : Option (List Token) :=
  (Tokenizer.run dialect {} text.toList).bind Tokenizer.finish

namespace Tokenizer

variable {dialect : Dialect}

theorem run_append (tokenizer : Tokenizer) (left right : List Char) :
    run dialect tokenizer (left ++ right) =
      (run dialect tokenizer left).bind fun between =>
        run dialect between right :=
  List.foldlM_append

theorem run_cons (tokenizer : Tokenizer) (letter : Char) (rest : List Char) :
    run dialect tokenizer (letter :: rest) =
      (step dialect tokenizer letter).bind fun next =>
        run dialect next rest :=
  List.foldlM_cons

/-! ## Strings -/

/-- How a letter is written in a string. -/
def spelled (dialect : Dialect) (letter : Char) : List Char :=
  if letter = '\'' then ['\'', '\'']
  else if letter = '\\' ∧ dialect.escapes '\'' then ['\\', '\\']
  else [letter]

theorem spelled_of_verbatim (verbatim : dialect.escapes '\'' = false) :
    spelled dialect = fun letter =>
      if letter = '\'' then ['\'', '\''] else [letter] := by
  funext letter
  simp [spelled, verbatim]

theorem toList_quoteText (dialect : Dialect) (text : String) :
    (dialect.quoteText text).toList =
      '\'' :: (text.toList.flatMap (spelled dialect) ++ ['\'']) := by
  cases dialect with
  | mysql =>
      simp only [quoteText, quoteWith, String.toList_ofList,
        List.flatMap_assoc]
      congr 3
      funext letter
      by_cases backslash : letter = '\\'
      · simp [spelled, escapes, backslash]
      · simp [spelled, backslash]
  | sqlite =>
      rw [spelled_of_verbatim (by decide)]
      exact String.toList_ofList
  | postgres =>
      rw [spelled_of_verbatim (by decide)]
      exact String.toList_ofList

theorem run_spelled (kind : QuotedKind) (read : List Char)
    (tokens : List Token) (letter : Char) :
    run dialect ⟨.inside kind read, tokens⟩ (spelled dialect letter) =
      some ⟨.inside kind (letter :: read), tokens⟩ := by
  unfold spelled
  split_ifs with quote escaped
  · simp [run, step, quote]
  · simp [run, step, escaped, unescaped]
  · simp [run, step, quote, escaped]

theorem run_flatMap_spelled (kind : QuotedKind) (tokens : List Token)
    (letters : List Char) :
    ∀ read : List Char,
      run dialect ⟨.inside kind read, tokens⟩
          (letters.flatMap (spelled dialect)) =
        some ⟨.inside kind (letters.reverse ++ read), tokens⟩ := by
  induction letters with
  | nil =>
      intro read
      rfl
  | cons letter rest inductionHypothesis =>
      intro read
      rw [List.flatMap_cons, run_append, run_spelled, Option.bind_some,
        inductionHypothesis, List.reverse_cons, List.append_assoc]
      rfl

/-- A quoted text is read up to its end as that text. -/
theorem run_quoteText (tokens : List Token) (text : String) :
    run dialect ⟨.between, tokens⟩ (dialect.quoteText text).toList =
      some ⟨.closing .string text.toList.reverse, tokens⟩ := by
  rw [toList_quoteText, run_cons]
  simp only [step, start, if_true, Option.bind_some]
  rw [run_append, run_flatMap_spelled, Option.bind_some, List.append_nil]
  simp [run, step]

/-- A mark ends the quotes before it. -/
theorem run_closing_mark (kind : QuotedKind) (letters : List Char)
    (tokens : List Token) {mark : Char} (marks : isMark mark = true) :
    run dialect ⟨.closing kind letters, tokens⟩ [mark] =
      some ⟨.between, .mark mark :: kind.token letters :: tokens⟩ := by
  have member : ((mark = '(' ∨ mark = ')') ∨ mark = ',') ∨ mark = ':' := by
    simpa [isMark] using marks
  rcases member with ((rfl | rfl) | rfl) | rfl <;> rfl

/-! ## Plain letters -/

/-- Letters that need no escape are written as they are. -/
theorem flatMap_spelled_of_plain {letters : List Char}
    (quoteless : '\'' ∉ letters)
    (plain : dialect.escapes '\'' = true → '\\' ∉ letters) :
    letters.flatMap (spelled dialect) = letters := by
  induction letters with
  | nil => rfl
  | cons letter rest inductionHypothesis =>
      rw [List.mem_cons, not_or] at quoteless
      have head : ¬(letter = '\\' ∧ dialect.escapes '\'' = true) :=
        fun escaped =>
          plain escaped.2 (List.mem_cons.mpr (Or.inl escaped.1.symm))
      have tail := inductionHypothesis quoteless.2 fun escapes member =>
        plain escapes (List.mem_cons_of_mem _ member)
      rw [List.flatMap_cons, tail, spelled, if_neg (Ne.symm quoteless.1),
        if_neg head, List.singleton_append]

theorem quoteText_of_plain {text : String} (quoteless : '\'' ∉ text.toList)
    (plain : dialect.escapes '\'' = true → '\\' ∉ text.toList) :
    dialect.quoteText text = "'" ++ text ++ "'" := by
  rw [← String.toList_inj, toList_quoteText,
    flatMap_spelled_of_plain quoteless plain]
  simp

end Tokenizer

/-- The letters of a moment need no escapes, so that the dialects agree. -/
theorem quoteText_instant (dialect : Dialect) (moment : Instant) :
    dialect.quoteText moment.text = quoteWith '\'' moment.text := by
  have quoteless : '\'' ∉ moment.text.toList := fun member =>
    absurd (Instant.mem_text member) (by decide)
  have plain : '\\' ∉ moment.text.toList := fun member =>
    absurd (Instant.mem_text member) (by decide)
  have sqlite : quoteWith '\'' moment.text = quoteText .sqlite moment.text :=
    rfl
  rw [sqlite, Tokenizer.quoteText_of_plain quoteless fun _ => plain,
    Tokenizer.quoteText_of_plain quoteless fun _ => plain]

theorem plain_hex (bytes : List UInt8) :
    '\'' ∉ Text.Hex.ofBytes bytes ∧ '\\' ∉ Text.Hex.ofBytes bytes := by
  have digits : ∀ number < 16,
      '\'' ≠ Text.Hex.digit number ∧ '\\' ≠ Text.Hex.digit number := by
    decide
  constructor
  · intro member
    obtain ⟨number, below, same⟩ := Text.Hex.exists_digit_of_mem member
    exact (digits number below).1 same
  · intro member
    obtain ⟨number, below, same⟩ := Text.Hex.exists_digit_of_mem member
    exact (digits number below).2 same

/-! ## Casts -/

/-- The tokens of the cast behind a literal: none but in Postgres. -/
def castTokens (dialect : Dialect) (value : Value) : List Token :=
  match dialect, value.castType? with
  | .postgres, some type => [.mark ':', .mark ':', .word type]
  | _, _ => []

/-- The bytes that a literal stands for: those of a hexadecimal string, which in
Postgres is a string that begins with a backslash and an x. -/
def bytesOf? : Dialect → Token → Option (List UInt8)
  | .postgres, .string text =>
      match text.toList with
      | '\\' :: 'x' :: digits => Text.Hex.toBytes? digits
      | _ => none
  | .sqlite, .bytes digits | .mysql, .bytes digits =>
      Text.Hex.toBytes? digits
  | _, _ => none

/-- Whether a value is written as one literal that stands for this text, and its
cast. -/
def WritesText (dialect : Dialect) (value : Value) (text : String) : Prop :=
  ∃ literal, dialect.literal value = .ok literal ∧
    dialect.tokens? literal = some (.string text :: dialect.castTokens value)

/-- Whether a byte string is written as one literal that stands for its bytes,
and its cast. -/
def WritesBytes (dialect : Dialect) (bytes : List UInt8) : Prop :=
  ∃ literal token, dialect.literal (.bytes bytes) = .ok literal ∧
    dialect.tokens? literal = some (token :: dialect.castTokens (.bytes bytes)) ∧
    dialect.bytesOf? token = some bytes

variable {dialect : Dialect}

theorem tokens?_quoteText (text : String) :
    dialect.tokens? (dialect.quoteText text) = some [.string text] := by
  rw [tokens?, Tokenizer.run_quoteText]
  simp [Tokenizer.finish, QuotedKind.token]

/-- A cast is read as its own tokens behind the literal. -/
theorem tokens?_cast_quoteText (text : String) {value : Value} {type : String}
    (casts : value.castType? = some type) :
    dialect.tokens? (dialect.cast (dialect.quoteText text) type) =
      some (.string text :: dialect.castTokens value) := by
  have known : type ∈ ["uuid", "timestamptz", "jsonb", "bytea"] := by
    cases value <;> simp_all [Value.castType?]
  cases dialect with
  | postgres =>
      have colons (letters : List Char) :
          Tokenizer.run .postgres ⟨.closing .string letters, []⟩
              ("::" ++ type).toList =
            some ⟨.word type.toList.reverse,
              [.mark ':', .mark ':', QuotedKind.string.token letters]⟩ := by
        simp only [List.mem_cons, List.not_mem_nil, or_false] at known
        rcases known with rfl | rfl | rfl | rfl <;> rfl
      rw [tokens?, cast, String.append_assoc, String.toList_append,
        Tokenizer.run_append, Tokenizer.run_quoteText, Option.bind_some,
        colons]
      simp [Tokenizer.finish, QuotedKind.token, castTokens, casts]
  | _ => exact tokens?_quoteText text

/-! ## Byte strings -/

theorem tokens?_hexString (dialect : Dialect) (bytes : List UInt8) :
    dialect.tokens? ("X'" ++ String.ofList (Text.Hex.ofBytes bytes) ++ "'") =
      some [.bytes (Text.Hex.ofBytes bytes)] := by
  obtain ⟨quoteless, plain⟩ := plain_hex bytes
  have inside :=
    @Tokenizer.run_flatMap_spelled dialect .bytes []
      (Text.Hex.ofBytes bytes) []
  rw [Tokenizer.flatMap_spelled_of_plain quoteless fun _ => plain] at inside
  have opened :
      Tokenizer.run dialect {} "X'".toList = some ⟨.inside .bytes [], []⟩ :=
    rfl
  rw [tokens?, String.toList_append, String.toList_append,
    Tokenizer.run_append, Tokenizer.run_append, opened, Option.bind_some,
    String.toList_ofList, inside, Option.bind_some]
  simp [Tokenizer.run, Tokenizer.step, Tokenizer.finish, QuotedKind.token]

theorem writesBytes (dialect : Dialect) (bytes : List UInt8) :
    dialect.WritesBytes bytes := by
  have read := Text.Hex.toBytes?_ofBytes bytes
  cases dialect with
  | postgres =>
      obtain ⟨quoteless, -⟩ := plain_hex bytes
      let text := "\\x" ++ String.ofList (Text.Hex.ofBytes bytes)
      have letters : text.toList = '\\' :: 'x' :: Text.Hex.ofBytes bytes := by
        simp [text]
      have quoted : quoteText .postgres text = "'" ++ text ++ "'" := by
        refine Tokenizer.quoteText_of_plain ?_ fun escapes => ?_
        · rw [letters]
          simpa using quoteless
        · exact absurd escapes (by decide)
      have written :
          bytesLiteral .postgres bytes =
            cast .postgres (quoteText .postgres text) "bytea" := by
        rw [quoted]
        simp [bytesLiteral, cast, text, ← String.toList_inj]
      refine ⟨_, .string text, rfl, ?_, ?_⟩
      · rw [written]
        exact tokens?_cast_quoteText text rfl
      · rw [bytesOf?, letters]
        exact read
  | sqlite => exact ⟨_, _, rfl, tokens?_hexString .sqlite bytes, read⟩
  | mysql => exact ⟨_, _, rfl, tokens?_hexString .mysql bytes, read⟩

/-! ## Variants of an enumeration -/

/-- The variants up to the parenthesis that closes their list. -/
theorem run_variants (variants : List String) :
    ∀ tokens : List Token,
      Tokenizer.run dialect ⟨.between, tokens⟩
          (",".intercalate (variants.map dialect.quoteText) ++ ")").toList =
        some ⟨.between,
          .mark ')' ::
            (((variants.map Token.string).intersperse (.mark ',')).reverse ++
              tokens)⟩ := by
  induction variants with
  | nil =>
      intro tokens
      simp [Tokenizer.run, Tokenizer.step, Tokenizer.start, isMark]
  | cons first rest inductionHypothesis =>
      intro tokens
      have closing : ")".toList = [')'] := rfl
      have dividing : ",".toList = [','] := rfl
      cases rest with
      | nil =>
          rw [List.map_singleton, String.intercalate_singleton,
            String.toList_append, Tokenizer.run_append,
            Tokenizer.run_quoteText, Option.bind_some, closing,
            Tokenizer.run_closing_mark _ _ _ (by decide)]
          simp [QuotedKind.token]
      | cons second later =>
          have tail := inductionHypothesis
            (.mark ',' :: .string first :: tokens)
          rw [List.map_cons, List.map_cons, String.intercalate_cons_cons,
            ← List.map_cons, String.append_assoc, String.append_assoc,
            String.toList_append, Tokenizer.run_append,
            Tokenizer.run_quoteText, Option.bind_some, String.toList_append,
            Tokenizer.run_append, dividing,
            Tokenizer.run_closing_mark _ _ _ (by decide), Option.bind_some,
            QuotedKind.token, List.reverse_reverse, String.ofList_toList,
            tail]
          simp

/-- In every dialect a text, a JSON value, an identifier and a moment are
written as one string that stands for exactly their text, and a byte string as
one literal that stands for its bytes; only a cast follows, in Postgres.  The
variants of an enumeration are one such string each, whatever they hold. -/
theorem literal_reads_back (dialect : Dialect) :
    (∀ text, dialect.WritesText (.text text) text) ∧
      (∀ json, dialect.WritesText (.json json) json.text) ∧
      (∀ uuid, dialect.WritesText (.uuid uuid) uuid.text) ∧
      (∀ moment, dialect.WritesText (.instant moment) moment.text) ∧
      (∀ bytes, dialect.WritesBytes bytes) ∧
      ∀ variants : List String, ∃ name,
        ColumnType.sqlName .mysql (.enum variants) = .ok name ∧
          tokens? .mysql name =
            some (.word "ENUM" :: .mark '(' ::
              ((variants.map Token.string).intersperse (.mark ',') ++
                [.mark ')'])) := by
  refine ⟨fun text => ?_, fun json => ?_, fun uuid => ?_, fun moment => ?_,
    writesBytes dialect, fun variants => ?_⟩
  · have uncast : dialect.castTokens (.text text) = [] := by
      cases dialect <;> rfl
    refine ⟨_, rfl, ?_⟩
    rw [tokens?_quoteText, uncast]
  · exact ⟨_, rfl, tokens?_cast_quoteText json.text rfl⟩
  · exact ⟨_, rfl, tokens?_cast_quoteText uuid.text rfl⟩
  · refine ⟨_, rfl, ?_⟩
    rw [← quoteText_instant dialect]
    exact tokens?_cast_quoteText moment.text rfl
  · refine ⟨_, rfl, ?_⟩
    have opened :
        Tokenizer.run .mysql {} "ENUM(".toList =
          some ⟨.between, [.mark '(', .word "ENUM"]⟩ :=
      rfl
    rw [ColumnType.mysqlName, tokens?, String.append_assoc,
      String.toList_append, Tokenizer.run_append, opened, Option.bind_some,
      run_variants, Option.bind_some]
    simp [Tokenizer.finish]

/-- A quote is doubled everywhere, a backslash in MySQL alone. -/
example : quoteText .mysql "it's \\n" = "'it''s \\\\n'" ∧
    quoteText .postgres "it's \\n" = "'it''s \\n'" := by
  decide

end Dialect

end RecordQuery
