import RecordQuery.Proofs.Json.Reading
import RecordQuery.Proofs.Json.Shape
import RecordQuery.Proofs.Pairs

/-!
# Values that come back from their text

A value is read back from its text exactly when it nests no deeper than texts
may and each floating-point number in it is read back from its own numeral: a
number is written with the fewest digits that tell it from its neighbours, but
reading these rounds more than once and may miss it.
-/

namespace RecordQuery.Json

open Number Source Text

/-! ## What values are made of -/

mutual

/-- How deep arrays and objects nest. -/
def depth : Json → Nat
  | .array items => 1 + itemsDepth items
  | .object members => 1 + membersDepth members
  | _ => 0

def itemsDepth : List Json → Nat
  | [] => 0
  | item :: rest => max (depth item) (itemsDepth rest)

def membersDepth : List (String × Json) → Nat
  | [] => 0
  | (_, value) :: rest => max (depth value) (membersDepth rest)

end

/-- What holds of each value by the types that it is made of: integers have 64
bits, signed or unsigned, and the members of an object stand in the order of
their names, each name once. -/
inductive IsNormal : Json → Prop
  | null : IsNormal .null
  | bool (value : Bool) : IsNormal (.bool value)
  | integer {value : Int} (least : -2 ^ 63 ≤ value) (most : value < 2 ^ 64) :
      IsNormal (.integer value)
  | float (value : Double) : IsNormal (.float value)
  | string (value : String) : IsNormal (.string value)
  | array {items : List Json} (all : ∀ item ∈ items, IsNormal item) :
      IsNormal (.array items)
  | object {members : List (String × Json)}
      (sorted : members.Pairwise fun earlier later => earlier.1 < later.1)
      (all : ∀ member ∈ members, IsNormal member.2) :
      IsNormal (.object members)

/-- Whether each floating-point number of a value is read back from its text. -/
inductive IsLegible : Json → Prop
  | null : IsLegible .null
  | bool (value : Bool) : IsLegible (.bool value)
  | integer (value : Int) : IsLegible (.integer value)
  | float {value : Double}
      (read : ofText? (Json.float value).text = some (.float value)) :
      IsLegible (.float value)
  | string (value : String) : IsLegible (.string value)
  | array {items : List Json} (all : ∀ item ∈ items, IsLegible item) :
      IsLegible (.array items)
  | object {members : List (String × Json)}
      (all : ∀ member ∈ members, IsLegible member.2) :
      IsLegible (.object members)

theorem isLegible_array_iff {items : List Json} :
    (array items).IsLegible ↔ ∀ item ∈ items, item.IsLegible := by
  constructor
  · rintro ⟨⟩
    assumption
  · exact .array

theorem isLegible_object_iff {members : List (String × Json)} :
    (object members).IsLegible ↔ ∀ member ∈ members, member.2.IsLegible := by
  constructor
  · rintro ⟨⟩
    assumption
  · exact .object

/-! ## Depths -/

theorem depth_floatSource (number : Double) :
    (floatSource number).depth = 0 := by
  rw [floatSource]
  split <;> simp [Source.depth]

theorem itemsDepth_itemSources {items : List Json}
    (all : ∀ item ∈ items, item.source.depth = item.depth) :
    Source.itemsDepth (itemSources items) = itemsDepth items := by
  induction items with
  | nil => rw [itemSources, Source.itemsDepth, itemsDepth]
  | cons item items inductionHypothesis =>
      rw [itemSources, Source.itemsDepth, itemsDepth,
        all item List.mem_cons_self,
        inductionHypothesis fun other member =>
          all other (List.mem_cons_of_mem _ member)]

theorem membersDepth_memberSources {members : List (String × Json)}
    (all : ∀ member ∈ members, member.2.source.depth = member.2.depth) :
    Source.membersDepth (memberSources members) = membersDepth members := by
  induction members with
  | nil => rw [memberSources, Source.membersDepth, membersDepth]
  | cons member members inductionHypothesis =>
      obtain ⟨name, value⟩ := member
      rw [memberSources, Source.membersDepth, membersDepth,
        all (name, value) List.mem_cons_self,
        inductionHypothesis fun other member =>
          all other (List.mem_cons_of_mem _ member)]

theorem depth_source (json : Json) : json.source.depth = json.depth := by
  induction json using induction with
  | null | bool | integer | string => simp [source, Source.depth, depth]
  | float value => simp [source, depth_floatSource, depth]
  | array items inductionHypothesis =>
      rw [source, Source.depth, depth,
        itemsDepth_itemSources inductionHypothesis]
  | object members inductionHypothesis =>
      rw [source, Source.depth, depth,
        membersDepth_memberSources inductionHypothesis]

/-! ## Integers -/

/-- Digits of a number of 64 bits are all taken. -/
theorem gather_of_lt {digits : List Char} :
    ∀ {start : Nat},
      start * 10 ^ digits.length + digitsValue digits < 2 ^ 64 →
      gather start digits =
        (start * 10 ^ digits.length + digitsValue digits, []) := by
  induction digits with
  | nil =>
      intro start _
      simp [gather]
  | cons digit digits inductionHypothesis =>
      intro start below
      have split_ : digitsValue (digit :: digits) =
          (digit.toNat - '0'.toNat) * 10 ^ digits.length +
            digitsValue digits := by
        have value := digitsValue_append [digit] digits
        simpa [digitsValue] using value
      have total : start * 10 ^ (digit :: digits).length +
          digitsValue (digit :: digits) =
            (start * 10 + (digit.toNat - '0'.toNat)) * 10 ^ digits.length +
              digitsValue digits := by
        rw [split_, List.length_cons, Nat.pow_succ]
        ring
      rw [total] at below ⊢
      have next : start * 10 + (digit.toNat - '0'.toNat) < Nat.pow 2 64 := by
        have power : 0 < 10 ^ digits.length := Nat.pow_pos (by decide)
        refine Nat.lt_of_le_of_lt ?_ below
        nlinarith
      rw [gather, if_pos next, inductionHypothesis below]

theorem gather_toDigits {number : Nat} (below : number < 2 ^ 64) :
    gather 0 (Nat.toDigits 10 number) = (number, []) := by
  have value := @gather_of_lt (Nat.toDigits 10 number) 0
  rw [Nat.zero_mul, Nat.zero_add, digitsValue_toDigits] at value
  exact value below

theorem value?_ofInt {value : Int} (least : -2 ^ 63 ≤ value)
    (most : value < 2 ^ 64) :
    (Numeral.ofInt value).value? = some (.integer value) := by
  have whole : gather 0 (Nat.toDigits 10 value.natAbs) =
      (value.natAbs, []) := gather_toDigits (by omega)
  simp only [Numeral.value?, Numeral.ofInt, whole, List.isEmpty_nil,
    Option.isNone_none, Bool.and_self, if_true]
  by_cases negative : value < 0
  · have inside : ¬(value.natAbs = 0 ∨ Nat.pow 2 63 < value.natAbs) := by
      have power : Nat.pow 2 63 = 2 ^ 63 := rfl
      omega
    have absolute : -(value.natAbs : Int) = value := by omega
    rw [decide_eq_true negative, Bool.not_true, if_neg Bool.false_ne_true,
      if_neg inside, absolute]
  · have absolute : (value.natAbs : Int) = value := by omega
    rw [decide_eq_false negative, Bool.not_false, if_pos rfl, absolute]

/-! ## Objects -/

theorem insertMember_of_greatest {name : String} {value : Json}
    {members : List (String × Json)}
    (greatest : ∀ member ∈ members, member.1 < name) :
    insertMember name value members = members ++ [(name, value)] := by
  induction members with
  | nil => rfl
  | cons first rest inductionHypothesis =>
      have before : first.1 < name := greatest first List.mem_cons_self
      rw [insertMember, if_neg (String.lt_asymm before),
        if_neg (String.ne_of_lt before).symm,
        inductionHypothesis fun member within =>
          greatest member (List.mem_cons_of_mem _ within)]
      rfl

theorem foldl_insertMember_of_sorted {members : List (String × Json)} :
    ∀ {held : List (String × Json)},
      (held ++ members).Pairwise (fun earlier later => earlier.1 < later.1) →
      members.foldl (fun held member => insertMember member.1 member.2 held)
        held = held ++ members := by
  induction members with
  | nil =>
      intro held _
      exact (List.append_nil held).symm
  | cons member members inductionHypothesis =>
      intro held sorted
      have greatest : ∀ other ∈ held, other.1 < member.1 :=
        fun other within =>
          (List.pairwise_append.mp sorted).2.2 other within member
            List.mem_cons_self
      rw [List.foldl_cons, insertMember_of_greatest greatest,
        inductionHypothesis (by simpa using sorted), List.append_assoc]
      rfl

theorem ofMembers_of_sorted {members : List (String × Json)}
    (sorted : members.Pairwise fun earlier later => earlier.1 < later.1) :
    ofMembers members = .object members := by
  rw [ofMembers, foldl_insertMember_of_sorted (by simpa using sorted)]
  rfl

/-! ## Shapes with a value -/

theorem itemSources_eq_map (items : List Json) :
    itemSources items = items.map source := by
  induction items with
  | nil => rw [itemSources, List.map_nil]
  | cons item items inductionHypothesis =>
      rw [itemSources, inductionHypothesis, List.map_cons]

theorem memberSources_eq_map (members : List (String × Json)) :
    memberSources members =
      members.map fun member => (some member.1, member.2.source) := by
  induction members with
  | nil => rw [memberSources, List.map_nil]
  | cons member members inductionHypothesis =>
      rw [memberSources, inductionHypothesis, List.map_cons]

theorem itemsJson?_eq_some_iff {items : List Source} :
    ∀ {results : List Json},
      itemsJson? items = some results ↔
        List.Forall₂ (fun item result => item.json? = some result)
          items results := by
  induction items with
  | nil =>
      intro results
      rw [itemsJson?, List.forall₂_nil_left_iff, Option.some_inj]
      exact eq_comm
  | cons item items inductionHypothesis =>
      intro results
      rw [itemsJson?, List.forall₂_cons_left_iff]
      simp only [Option.bind_eq_bind, Option.bind_eq_some_iff,
        Option.pure_def, Option.some.injEq, inductionHypothesis]
      constructor
      · rintro ⟨first, read, others, all, rfl⟩
        exact ⟨first, others, read, all, rfl⟩
      · rintro ⟨first, others, read, all, rfl⟩
        exact ⟨first, read, others, all, rfl⟩

/-- Whether a member is read as another. -/
def MemberReadAs (member : Option String × Source) (result : String × Json) :
    Prop :=
  member.1 = some result.1 ∧ member.2.json? = some result.2

theorem membersJson?_eq_some_iff {members : List (Option String × Source)} :
    ∀ {results : List (String × Json)},
      membersJson? members = some results ↔
        List.Forall₂ MemberReadAs members results := by
  induction members with
  | nil =>
      intro results
      rw [membersJson?, List.forall₂_nil_left_iff, Option.some_inj]
      exact eq_comm
  | cons member members inductionHypothesis =>
      obtain ⟨name?, value⟩ := member
      intro results
      rw [membersJson?, List.forall₂_cons_left_iff]
      simp only [Option.bind_eq_bind, Option.bind_eq_some_iff,
        Option.pure_def, Option.some.injEq, inductionHypothesis]
      constructor
      · rintro ⟨name, named, first, read, others, all, rfl⟩
        exact ⟨(name, first), others, ⟨named, read⟩, all, rfl⟩
      · rintro ⟨⟨name, first⟩, others, ⟨named, read⟩, all, rfl⟩
        exact ⟨name, named, first, read, others, all, rfl⟩

theorem itemsJson?_itemSources {items results : List Json} :
    itemsJson? (itemSources items) = some results ↔
      List.Forall₂ (fun item result => item.source.json? = some result)
        items results := by
  rw [itemsJson?_eq_some_iff, itemSources_eq_map, List.forall₂_map_left_iff]

theorem membersJson?_memberSources {members results : List (String × Json)} :
    membersJson? (memberSources members) = some results ↔
      List.Forall₂
        (fun member result => member.1 = result.1 ∧
          member.2.source.json? = some result.2)
        members results := by
  rw [membersJson?_eq_some_iff, memberSources_eq_map,
    List.forall₂_map_left_iff]
  simp only [MemberReadAs, Option.some.injEq]

theorem sorted_of_forall₂ {members results : List (String × Json)}
    (related : List.Forall₂
      (fun member result => member.1 = result.1 ∧
        member.2.source.json? = some result.2) members results)
    (sorted : members.Pairwise fun earlier later => earlier.1 < later.1) :
    results.Pairwise fun earlier later => earlier.1 < later.1 := by
  have names : members.map Prod.fst = results.map Prod.fst := by
    induction related with
    | nil => rfl
    | cons first others inductionHypothesis =>
        rw [List.map_cons, List.map_cons, first.1,
          inductionHypothesis (List.pairwise_cons.mp sorted).2]
  rw [← List.pairwise_map (f := Prod.fst) (R := (· < ·)), ← names,
    List.pairwise_map]
  exact sorted

/-- The shape of a value stands for the value itself exactly when its
floating-point numbers are read back. -/
theorem json?_source_iff {json : Json} (normal : json.IsNormal) :
    json.source.json? = some json ↔ json.IsLegible := by
  induction normal with
  | null => exact iff_of_true (by rw [source, json?]) .null
  | bool value => exact iff_of_true (by rw [source, json?]) (.bool value)
  | integer least most =>
      refine iff_of_true ?_ (.integer _)
      rw [source, json?, value?_ofInt least most]
  | float value =>
      have shallow : (Json.float value).depth ≤ maxDepth := by simp [depth]
      have read := ofText?_text_eq (.float value)
      rw [depth_source, if_pos shallow] at read
      rw [← read]
      constructor
      · exact .float
      · rintro ⟨⟩
        assumption
  | string value =>
      exact iff_of_true (by rw [source, json?]; rfl) (.string value)
  | @array items all inductionHypothesis =>
      have each : (Json.array items).IsLegible ↔
          List.Forall₂ (fun item result => item.source.json? = some result)
            items items := by
        rw [isLegible_array_iff, List.forall₂_same]
        exact forall₂_congr fun item member =>
          (inductionHypothesis item member).symm
      rw [each, source, json?, Option.map_eq_some_iff]
      constructor
      · rintro ⟨_, read, ⟨⟩⟩
        exact itemsJson?_itemSources.mp read
      · exact fun read => ⟨items, itemsJson?_itemSources.mpr read, rfl⟩
  | @object members sorted all inductionHypothesis =>
      have each : (Json.object members).IsLegible ↔
          List.Forall₂
            (fun member result => member.1 = result.1 ∧
              member.2.source.json? = some result.2) members members := by
        rw [isLegible_object_iff, List.forall₂_same]
        exact forall₂_congr fun member within =>
          (inductionHypothesis member within).symm.trans
            (and_iff_right rfl).symm
      rw [each, source, json?, Option.map_eq_some_iff]
      constructor
      · rintro ⟨results, read, same⟩
        have related := membersJson?_memberSources.mp read
        rw [ofMembers_of_sorted (sorted_of_forall₂ related sorted)] at same
        cases same
        exact related
      · exact fun read => ⟨members, membersJson?_memberSources.mpr read,
          ofMembers_of_sorted sorted⟩

/-- A value is read back from its text exactly when it does not nest too deep
and its floating-point numbers are read back. -/
theorem ofText?_text_iff {json : Json} (normal : json.IsNormal) :
    ofText? json.text = some json ↔
      json.depth ≤ maxDepth ∧ json.IsLegible := by
  rw [ofText?_text_eq, depth_source, ← json?_source_iff normal]
  by_cases shallow : json.depth ≤ maxDepth
  · rw [if_pos shallow, and_iff_right shallow]
  · rw [if_neg shallow]
    exact iff_of_false nofun fun both => shallow both.1

/-! ## Values that texts stand for -/

theorem gather_lt_pow {digits : List Char} :
    ∀ {start : Nat}, start < 2 ^ 64 → (gather start digits).1 < 2 ^ 64 := by
  induction digits with
  | nil =>
      intro start below
      exact below
  | cons digit digits inductionHypothesis =>
      intro start below
      rw [gather]
      split
      · next fits => exact inductionHypothesis fits
      · exact below

/-- A number is an integer of 64 bits or a floating-point number. -/
inductive IsScalar : Json → Prop
  | integer {value : Int} (least : -2 ^ 63 ≤ value) (most : value < 2 ^ 64) :
      IsScalar (.integer value)
  | float (value : Double) : IsScalar (.float value)

theorem isScalar_of_value? {numeral : Numeral} {json : Json}
    (value : numeral.value? = some json) : json.IsScalar := by
  have below : (gather 0 numeral.whole).1 < 2 ^ 64 :=
    gather_lt_pow (by decide)
  simp only [Numeral.value?] at value
  split_ifs at value with unsigned small large small'
  · cases value
    exact .integer (by omega) (by omega)
  · cases value
    exact .float _
  · cases value
    exact .float _
  · cases value
    have power : Nat.pow 2 63 = 2 ^ 63 := rfl
    exact .integer (by omega) (by omega)
  · obtain ⟨_, -, rfl⟩ := Option.map_eq_some_iff.mp value
    exact .float _
  · obtain ⟨_, -, rfl⟩ := Option.map_eq_some_iff.mp value
    exact .float _

/-- Whether the numbers of a shape are numbers of the program. -/
inductive Source.IsSound : Source → Prop
  | null : IsSound .null
  | bool (value : Bool) : IsSound (.bool value)
  | number {value? : Option Json}
      (scalar : ∀ json, value? = some json → json.IsScalar) :
      IsSound (.number value?)
  | string (value? : Option String) : IsSound (.string value?)
  | array {items : List Source} (all : ∀ item ∈ items, IsSound item) :
      IsSound (.array items)
  | object {members : List (Option String × Source)}
      (all : ∀ member ∈ members, IsSound member.2) :
      IsSound (.object members)

/-- Whatever is read is sound. -/
theorem isSound_of_read (calls : Nat) :
    (∀ {letters rest : List Char} {source : Source},
      value? calls letters = some (source, rest) → source.IsSound) ∧
    (∀ {letters rest : List Char} {items : List Source},
      items? calls letters = some (items, rest) →
        ∀ item ∈ items, item.IsSound) ∧
    (∀ {letters rest : List Char} {members : List (Option String × Source)},
      members? calls letters = some (members, rest) →
        ∀ member ∈ members, member.2.IsSound) := by
  induction calls with
  | zero =>
      refine ⟨fun read => ?_, fun read => ?_, fun read => ?_⟩
      · rw [value?] at read
        cases read
      · rw [items?] at read
        cases read
      · rw [members?] at read
        cases read
  | succ calls inductionHypothesis =>
      obtain ⟨ofValue, ofItems, ofMembers⟩ := inductionHypothesis
      refine ⟨fun read => ?_, fun read => ?_, fun read => ?_⟩
      · rw [value?] at read
        split at read
        · cases read
          exact .null
        · cases read
          exact .bool true
        · cases read
          exact .bool false
        · obtain ⟨found, -, same⟩ := Option.map_eq_some_iff.mp read
          cases same
          exact .string _
        · split at read
          · cases read
            exact .array (List.forall_mem_nil _)
          · obtain ⟨found, items, same⟩ := Option.map_eq_some_iff.mp read
            cases same
            exact .array (ofItems items)
        · split at read
          · cases read
            exact .object (List.forall_mem_nil _)
          · obtain ⟨found, members, same⟩ := Option.map_eq_some_iff.mp read
            cases same
            exact .object (ofMembers members)
        · obtain ⟨found, -, same⟩ := Option.map_eq_some_iff.mp read
          cases same
          exact .number fun json => isScalar_of_value?
        · obtain ⟨found, -, same⟩ := Option.map_eq_some_iff.mp read
          cases same
          exact .number fun json => isScalar_of_value?
      · rw [items?] at read
        split at read
        · cases read
        · next item after first =>
            split at read
            · obtain ⟨found, others, same⟩ := Option.map_eq_some_iff.mp read
              cases same
              exact List.forall_mem_cons.mpr ⟨ofValue first, ofItems others⟩
            · cases read
              exact List.forall_mem_singleton.mpr (ofValue first)
            · cases read
      · rw [members?] at read
        split at read
        · split at read
          · cases read
          · split at read
            · split at read
              · cases read
              · next value after first =>
                  split at read
                  · obtain ⟨found, others, same⟩ :=
                      Option.map_eq_some_iff.mp read
                    cases same
                    exact List.forall_mem_cons.mpr
                      ⟨ofValue first, ofMembers others⟩
                  · cases read
                    exact List.forall_mem_singleton.mpr (ofValue first)
                  · cases read
            · cases read
        · cases read

section Members

variable {name : String} {value : Json} {held : List (String × Json)}

theorem mem_insertMember {member : String × Json}
    (inside : member ∈ insertMember name value held) :
    member = (name, value) ∨ member ∈ held := by
  induction held with
  | nil => exact Or.inl (List.mem_singleton.mp inside)
  | cons first rest inductionHypothesis =>
      rw [insertMember] at inside
      split_ifs at inside with before same
      · exact List.mem_cons.mp inside
      · rcases List.mem_cons.mp inside with new | old
        · exact Or.inl new
        · exact Or.inr (List.mem_cons_of_mem _ old)
      · rcases List.mem_cons.mp inside with rfl | later
        · exact Or.inr List.mem_cons_self
        · rcases inductionHypothesis later with new | old
          · exact Or.inl new
          · exact Or.inr (List.mem_cons_of_mem _ old)

theorem sorted_insertMember (name : String) (value : Json)
    (sorted : held.Pairwise fun earlier later => earlier.1 < later.1) :
    (insertMember name value held).Pairwise
      fun earlier later => earlier.1 < later.1 := by
  induction held with
  | nil => exact List.pairwise_singleton _ _
  | cons first rest inductionHypothesis =>
      obtain ⟨below, others⟩ := List.pairwise_cons.mp sorted
      rw [insertMember]
      split_ifs with before same
      · refine List.pairwise_cons.mpr ⟨fun member inside => ?_, sorted⟩
        rcases List.mem_cons.mp inside with rfl | later
        · exact before
        · exact String.lt_trans before (below member later)
      · refine List.pairwise_cons.mpr ⟨fun member inside => ?_, others⟩
        rw [same]
        exact below member inside
      · have after : first.1 < name := by
          by_contra notBefore
          exact same (String.le_antisymm (String.not_lt.mp notBefore)
            (String.not_lt.mp before))
        refine List.pairwise_cons.mpr
          ⟨fun member inside => ?_, inductionHypothesis others⟩
        rcases mem_insertMember inside with rfl | old
        · exact after
        · exact below member old

end Members

theorem foldl_insertMember_spec (members : List (String × Json)) :
    ∀ {held : List (String × Json)},
      held.Pairwise (fun earlier later => earlier.1 < later.1) →
      (members.foldl
        (fun held member => insertMember member.1 member.2 held)
        held).Pairwise (fun earlier later => earlier.1 < later.1) ∧
      ∀ member ∈ members.foldl
          (fun held member => insertMember member.1 member.2 held) held,
        member ∈ held ∨ member ∈ members := by
  induction members with
  | nil =>
      intro held sorted
      exact ⟨sorted, fun member inside => Or.inl inside⟩
  | cons first rest inductionHypothesis =>
      intro held sorted
      obtain ⟨ordered, origin⟩ :=
        inductionHypothesis (sorted_insertMember first.1 first.2 sorted)
      refine ⟨ordered, fun member inside => ?_⟩
      rcases origin member inside with before | after
      · rcases mem_insertMember before with new | old
        · exact Or.inr (List.mem_cons.mpr (Or.inl new))
        · exact Or.inl old
      · exact Or.inr (List.mem_cons_of_mem _ after)

/-- What is made of members holds in order some of them. -/
theorem ofMembers_spec (members : List (String × Json)) :
    ∃ kept, ofMembers members = .object kept ∧
      kept.Pairwise (fun earlier later => earlier.1 < later.1) ∧
      ∀ member ∈ kept, member ∈ members := by
  obtain ⟨sorted, origin⟩ :=
    foldl_insertMember_spec members List.Pairwise.nil
  refine ⟨_, rfl, sorted, fun member inside => ?_⟩
  rcases origin member inside with before | after
  · cases before
  · exact after

theorem itemsDepth_le_iff {items : List Json} {bound : Nat} :
    itemsDepth items ≤ bound ↔ ∀ item ∈ items, item.depth ≤ bound := by
  induction items with
  | nil => simp [itemsDepth]
  | cons item items inductionHypothesis =>
      rw [itemsDepth, Nat.max_le, inductionHypothesis, List.forall_mem_cons]

theorem membersDepth_le_iff {members : List (String × Json)} {bound : Nat} :
    membersDepth members ≤ bound ↔
      ∀ member ∈ members, member.2.depth ≤ bound := by
  induction members with
  | nil => simp [membersDepth]
  | cons member members inductionHypothesis =>
      rw [membersDepth, Nat.max_le, inductionHypothesis, List.forall_mem_cons]

theorem Source.depth_le_itemsDepth {items : List Source} :
    ∀ item ∈ items, item.depth ≤ Source.itemsDepth items := by
  induction items with
  | nil => exact List.forall_mem_nil _
  | cons item items inductionHypothesis =>
      rw [Source.itemsDepth, List.forall_mem_cons]
      exact ⟨Nat.le_max_left _ _, fun other inside =>
        Nat.le_trans (inductionHypothesis other inside) (Nat.le_max_right _ _)⟩

theorem Source.depth_le_membersDepth
    {members : List (Option String × Source)} :
    ∀ member ∈ members, member.2.depth ≤ Source.membersDepth members := by
  induction members with
  | nil => exact List.forall_mem_nil _
  | cons member members inductionHypothesis =>
      rw [Source.membersDepth, List.forall_mem_cons]
      exact ⟨Nat.le_max_left _ _, fun other inside =>
        Nat.le_trans (inductionHypothesis other inside) (Nat.le_max_right _ _)⟩

theorem IsScalar.isNormal {json : Json} (scalar : json.IsScalar) :
    json.IsNormal ∧ json.depth = 0 := by
  cases scalar with
  | integer least most => exact ⟨.integer least most, by simp [depth]⟩
  | float value => exact ⟨.float value, by simp [depth]⟩

/-- A sound shape stands for a normal value that nests no deeper. -/
theorem isNormal_of_json? {source : Source} (sound : source.IsSound) :
    ∀ {json : Json}, source.json? = some json →
      json.IsNormal ∧ json.depth ≤ source.depth := by
  induction sound with
  | null =>
      intro json value
      rw [json?] at value
      cases value
      exact ⟨.null, by simp [depth]⟩
  | bool truth =>
      intro json value
      rw [json?] at value
      cases value
      exact ⟨.bool truth, by simp [depth]⟩
  | number scalar =>
      intro json value
      rw [json?] at value
      obtain ⟨normal, flat⟩ := (scalar json value).isNormal
      exact ⟨normal, by omega⟩
  | string value? =>
      intro json value
      rw [json?] at value
      obtain ⟨text, -, rfl⟩ := Option.map_eq_some_iff.mp value
      exact ⟨.string text, by simp [depth]⟩
  | @array items all inductionHypothesis =>
      intro json value
      rw [json?] at value
      obtain ⟨results, read, rfl⟩ := Option.map_eq_some_iff.mp value
      have related := itemsJson?_eq_some_iff.mp read
      have each : ∀ result ∈ results,
          result.IsNormal ∧ result.depth ≤ Source.itemsDepth items := by
        intro result inside
        obtain ⟨item, member, itemRead⟩ :=
          exists_left_of_forall₂ related inside
        obtain ⟨normal, within⟩ := inductionHypothesis item member itemRead
        exact ⟨normal,
          within.trans (Source.depth_le_itemsDepth item member)⟩
      refine ⟨.array fun result inside => (each result inside).1, ?_⟩
      rw [depth, Source.depth, Nat.add_le_add_iff_left, itemsDepth_le_iff]
      exact fun result inside => (each result inside).2
  | @object members all inductionHypothesis =>
      intro json value
      rw [json?] at value
      obtain ⟨results, read, rfl⟩ := Option.map_eq_some_iff.mp value
      have related := membersJson?_eq_some_iff.mp read
      have each : ∀ result ∈ results,
          result.2.IsNormal ∧
            result.2.depth ≤ Source.membersDepth members := by
        intro result inside
        obtain ⟨member, within, -, memberRead⟩ :=
          exists_left_of_forall₂ related inside
        obtain ⟨normal, below⟩ :=
          inductionHypothesis member within memberRead
        exact ⟨normal,
          below.trans (Source.depth_le_membersDepth member within)⟩
      obtain ⟨kept, made, sorted, origin⟩ := ofMembers_spec results
      rw [made]
      refine ⟨.object sorted fun member inside =>
        (each member (origin member inside)).1, ?_⟩
      rw [depth, Source.depth, Nat.add_le_add_iff_left, membersDepth_le_iff]
      exact fun member inside => (each member (origin member inside)).2

/-- What a text stands for is normal and does not nest too deep. -/
theorem isNormal_of_ofText? {text : String} {json : Json}
    (read : ofText? text = some json) :
    json.IsNormal ∧ json.depth ≤ maxDepth := by
  rw [ofText?] at read
  split at read
  · next source found =>
      split at read
      · next shallow =>
          rw [Source.ofText?] at found
          split at found
          · next source' rest readSource =>
              split at found
              · cases found
                obtain ⟨normal, within⟩ :=
                  isNormal_of_json? ((isSound_of_read _).1 readSource) read
                exact ⟨normal, within.trans shallow⟩
              · cases found
          · cases found
      · cases read
  · cases read

/-! ## Values that do not come back -/

/-- Arrays within arrays. -/
def nested : Nat → Json
  | 0 => .null
  | levels + 1 => .array [nested levels]

theorem isNormal_nested (levels : Nat) : (nested levels).IsNormal := by
  induction levels with
  | zero => exact .null
  | succ levels inductionHypothesis =>
      exact .array (List.forall_mem_singleton.mpr inductionHypothesis)

theorem depth_nested (levels : Nat) : (nested levels).depth = levels := by
  induction levels with
  | zero => simp [nested, depth]
  | succ levels inductionHypothesis =>
      rw [nested, depth, itemsDepth, itemsDepth, inductionHypothesis]
      omega

theorem ofText?_text_nested {levels : Nat} (deep : maxDepth < levels) :
    ofText? (nested levels).text = none := by
  rw [ofText?_text_eq, depth_source, depth_nested]
  exact if_neg (Nat.not_le.mpr deep)

/-- Five times ten to the 32nd, rounded up. -/
def aboveFiveE32 : Double := ⟨5096006472832567709⟩

/-- Five times ten to the 32nd, rounded down. -/
def belowFiveE32 : Double := ⟨5096006472832567708⟩

theorem ofText?_five_e32 : ofText? "5e32" = some (.float aboveFiveE32) := by
  have shape : Source.ofText? "5e32" =
      some (.number (Numeral.value? ⟨false, ['5'], [], some 32⟩)) := rfl
  have value : Numeral.value? ⟨false, ['5'], [], some 32⟩ =
      (scale (.ofInt 5) 32).map .float := by
    simp [Numeral.value?, gather]
  have scaled : scale (.ofInt 5) 32 = some aboveFiveE32 := by
    rw [scale]
    decide +kernel
  rw [ofText?, shape, value, scaled]
  rfl

/-- A text of 17 digits is read as a neighbour of the number it was written
for. -/
theorem ofText?_text_aboveFiveE32 :
    ofText? (Json.float aboveFiveE32).text = some (.float belowFiveE32) := by
  have read : aboveFiveE32.reading = .finite false 6938893903907229 56 := rfl
  have digits : shortest .even 6938893903907229 56 =
      ⟨50000000000000004, 16⟩ := by
    decide +kernel
  have numeral : Numeral.ofParts false 6938893903907229 56 =
      ⟨false, ['5'], List.replicate 15 '0' ++ ['4'], some 32⟩ := by
    rw [Numeral.ofParts, if_neg (by decide), digits]
    rfl
  have whole : gather 0 ['5'] = (5, []) := rfl
  have all : gather 5 (List.replicate 15 '0' ++ ['4']) =
      (50000000000000004, []) := rfl
  have value : Numeral.value?
      ⟨false, ['5'], List.replicate 15 '0' ++ ['4'], some 32⟩ =
        (scale (.ofInt 50000000000000004) 16).map .float := by
    simp only [Numeral.value?, whole, all]
    rfl
  have scaled : scale (.ofInt 50000000000000004) 16 = some belowFiveE32 := by
    rw [scale]
    decide +kernel
  have shape : (Json.float aboveFiveE32).source =
      .number (some (.float belowFiveE32)) := by
    rw [source, floatSource, read]
    simp only
    rw [numeral, value, scaled]
    rfl
  have shallow : (Json.float aboveFiveE32).source.depth ≤ maxDepth := by
    simp [shape, Source.depth]
  rw [ofText?_text_eq, if_pos shallow, shape, Source.json?]

end RecordQuery.Json
