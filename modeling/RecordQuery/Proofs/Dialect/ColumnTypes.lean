import RecordQuery.Dialect.ColumnType
import RecordQuery.Proofs.Text.Pieces

/-!
# Column types and their texts

A type is read back from its text exactly when no variant of an enumeration is
divided, trimmed or left out in the reading.  Variants that come from a reading
are like this already, so that reading a text again changes nothing.  The
offsets at which the variants are cut out come from a copy in lower case, whose
letters take as many bytes as those of the text.
-/

namespace RecordQuery.ColumnType

open String.Pos.Raw (IsValid)

/-- Whether a list gives a variant back as it is: there is something of it, no
comma divides it and no white space is around it. -/
structure IsListed (variant : String) : Prop where
  nonempty : variant ≠ ""
  undivided : ',' ∉ variant.toList
  visibleEnds : Text.VisibleEnds variant.toList

/-! ## Lists of variants -/

/-- What a list is read as can be listed. -/
theorem isListed_of_mem_variantsOf {body : List Char} {variant : String}
    (member : variant ∈ variantsOf body) : IsListed variant := by
  rw [variantsOf, List.mem_filter, List.mem_map] at member
  obtain ⟨⟨piece, inside, rfl⟩, nonempty⟩ := member
  refine ⟨by simpa using nonempty, fun comma => ?_, Text.visibleEnds_trim _⟩
  have commaInside := Text.mem_of_mem_trim comma
  rw [String.toList_ofList] at commaInside
  have uncut := Text.isSeparator_of_mem_pieces piece inside ',' commaInside
  exact absurd uncut (by decide)

/-- Variants that can be listed are read from their list. -/
theorem variantsOf_intercalate {variants : List String}
    (listed : ∀ variant ∈ variants, IsListed variant) :
    variantsOf (",".intercalate variants).toList = variants := by
  by_cases none : variants = []
  · subst none
    decide
  · have divided :
        Text.pieces (· == ',') (",".intercalate variants).toList =
          variants.map String.toList := by
      rw [String.toList_intercalate]
      refine Text.pieces_intercalate rfl (by simpa using none) ?_
      rw [List.forall_mem_map]
      intro variant member letter inside
      rw [beq_eq_false_iff_ne]
      rintro rfl
      exact (listed variant member).undivided inside
    have untouched (variant : String) (member : variant ∈ variants) :
        Text.trim (String.ofList variant.toList) = variant := by
      rw [String.ofList_toList]
      exact Text.trim_of_visibleEnds (listed variant member).visibleEnds
    have trimmed :
        (variants.map String.toList).map
            (fun piece => Text.trim (String.ofList piece)) = variants := by
      rw [List.map_map]
      exact (List.map_congr_left untouched).trans (List.map_id' variants)
    rw [variantsOf, divided, trimmed, List.filter_eq_self]
    intro variant member
    simpa using (listed variant member).nonempty

/-! ## The cut -/

theorem copy_slice {opening body closing : String}
    {start stop : (opening ++ body ++ closing).Pos} (ordered : start ≤ stop)
    (atStart : start.offset.byteIdx = opening.utf8ByteSize)
    (atStop :
      stop.offset.byteIdx = opening.utf8ByteSize + body.utf8ByteSize) :
    ((opening ++ body ++ closing).slice start stop ordered).copy = body := by
  rw [← String.toByteArray_inj, String.Slice.toByteArray_copy,
    String.startInclusive_slice, String.endExclusive_slice]
  calc
    (opening ++ body ++ closing).toByteArray.extract start.offset.byteIdx
          stop.offset.byteIdx
      = (opening.toByteArray ++ (body ++ closing).toByteArray).extract
          (opening.toByteArray.size + 0)
          (opening.toByteArray.size + body.toByteArray.size) := by
        rw [atStart, atStop, String.append_assoc, String.toByteArray_append]
        rfl
    _ = (body ++ closing).toByteArray.extract 0 body.toByteArray.size :=
        ByteArray.extract_append_size_add
    _ = body.toByteArray := by
        rw [String.toByteArray_append]
        exact ByteArray.extract_append_eq_left rfl

/-- What stands between the offsets is what is cut out. -/
theorem body?_append {opening body closing : String}
    (found :
      bodyBounds? (opening ++ body ++ closing) =
        some (opening.utf8ByteSize,
          opening.utf8ByteSize + body.utf8ByteSize)) :
    body? (opening ++ body ++ closing) = some body := by
  unfold body?
  split
  case h_1 none => rw [found] at none; cases none
  case h_2 start stop bounds =>
    rw [found] at bounds
    cases bounds
    exact congrArg some (copy_slice _ rfl rfl)

section Enumeration

variable (list : String)

theorem toList_lowerAscii_enum :
    (Text.lowerAscii ("enum(" ++ list ++ ")")).toList =
      enumOpening ++ (list.toList.map Char.toLower ++ [')']) := by
  simp [Text.lowerAscii, enumOpening]

theorem opensEnum_enum : opensEnum ("enum(" ++ list ++ ")") = true := by
  rw [opensEnum, toList_lowerAscii_enum, List.take_left, beq_self_eq_true]

theorem bodyBounds?_enum :
    bodyBounds? ("enum(" ++ list ++ ")") =
      some ("enum(".utf8ByteSize,
        "enum(".utf8ByteSize + list.utf8ByteSize) := by
  have size := Text.utf8ByteSize_map_toLower list.toList
  rw [String.ofList_toList] at size
  rw [bodyBounds?, opensEnum_enum, toList_lowerAscii_enum, List.drop_left,
    List.getLast?_concat, List.dropLast_concat, size]
  rfl

/-- The text of an enumeration is read as the variants in its list. -/
theorem parse?_enum :
    parse? ("enum(" ++ list ++ ")") =
      some (.enum (variantsOf list.toList)) := by
  have ends : Text.VisibleEnds ("enum(" ++ list ++ ")").toList := by
    simpa using
      Text.visibleEnds_between ("num(".toList ++ list.toList)
        (by decide : Text.isBlank 'e' = false)
        (by decide : Text.isBlank ')' = false)
  rw [parse?, Text.trim_of_visibleEnds ends, if_pos (opensEnum_enum list),
    body?_append (bodyBounds?_enum list)]
  rfl

end Enumeration

/-! ## Reading a type back -/

theorem ofName?_ne_enum (name : String) (variants : List String) :
    ofName? name ≠ some (.enum variants) := by
  unfold ofName?
  split <;> simp

/-- An enumeration is always read from a list. -/
theorem exists_list_of_parse? {text : String} {variants : List String}
    (read : parse? text = some (.enum variants)) :
    ∃ list, variants = variantsOf list := by
  rw [parse?] at read
  split at read
  case isTrue =>
    obtain ⟨list, -, same⟩ := Option.map_eq_some_iff.mp read
    exact ⟨list.toList, (enum.inj same).symm⟩
  case isFalse => exact (ofName?_ne_enum _ variants read).elim

theorem parse_eq_ok_iff {text : String} {type : ColumnType} :
    parse text = .ok type ↔ parse? text = some type := by
  unfold parse
  cases parse? text <;> simp

/-- Whether the text of a type keeps each of its variants. -/
def IsReadable (type : ColumnType) : Prop :=
  ∀ variants, type = .enum variants → ∀ variant ∈ variants, IsListed variant

theorem isReadable_of_parse {text : String} {type : ColumnType}
    (read : parse text = .ok type) : type.IsReadable := by
  rintro variants rfl variant member
  obtain ⟨list, rfl⟩ := exists_list_of_parse? (parse_eq_ok_iff.mp read)
  exact isListed_of_mem_variantsOf member

theorem parse_display_of_isReadable {type : ColumnType}
    (readable : type.IsReadable) : parse type.display = .ok type := by
  rw [parse_eq_ok_iff]
  cases type with
  | enum variants =>
      rw [display, parse?_enum,
        variantsOf_intercalate (readable variants rfl)]
  | _ => decide

theorem parse_display_iff (type : ColumnType) :
    parse type.display = .ok type ↔ type.IsReadable :=
  ⟨isReadable_of_parse, parse_display_of_isReadable⟩

theorem exists_body?_of_bodyBounds? {text : String} {start stop : Nat}
    (found : bodyBounds? text = some (start, stop)) :
    ∃ opening body closing : String, text = opening ++ body ++ closing ∧
      start = opening.utf8ByteSize ∧ stop = start + body.utf8ByteSize ∧
        body? text = some body := by
  obtain ⟨opening, body, closing, rfl, rfl, rfl⟩ :=
    exists_of_bodyBounds? found
  exact ⟨opening, body, closing, rfl, rfl, rfl, body?_append found⟩

/-- A type is read back from its text exactly when it is no enumeration or each
of its variants is something, without a comma and without white space around it.
A type that was read is read back.  The offsets at which variants are cut out of
a text always lie between its characters, so that a part of it is cut out. -/
theorem parse_display_reads_back :
    (∀ type : ColumnType,
        parse type.display = .ok type ↔
          ∀ variants, type = .enum variants →
            ∀ variant ∈ variants, IsListed variant) ∧
      (∀ text type, parse text = .ok type → parse type.display = .ok type) ∧
      ∀ text start stop, bodyBounds? text = some (start, stop) →
        IsValid text ⟨start⟩ ∧ IsValid text ⟨stop⟩ ∧
          ∃ opening body closing : String, text = opening ++ body ++ closing ∧
            start = opening.utf8ByteSize ∧ stop = start + body.utf8ByteSize ∧
              body? text = some body := by
  refine ⟨parse_display_iff, fun _ _ read => ?_, fun _ _ _ found => ?_⟩
  · exact parse_display_of_isReadable (isReadable_of_parse read)
  · obtain ⟨-, startValid, stopValid⟩ := isValid_of_bodyBounds? found
    exact ⟨startValid, stopValid, exists_body?_of_bodyBounds? found⟩

/-- Letters of several bytes stand before and in the variants. -/
example :
    parse "\u3000EnUm( Größe ,,b) )" = .ok (.enum ["Größe", "b)"]) := by
  decide

end RecordQuery.ColumnType
