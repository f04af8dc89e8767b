import Mathlib.Data.Finset.Card
import Mathlib.Data.List.Induction
import RecordQuery.Proofs.Instance.Index

/-!
# Groups as a partition

Inserting a row puts it at the end of the group of its key or founds the group,
and touches nothing else.  After any insertions, the groups thus divide the rows
that were kept, each group has the rows of one key in the order of insertion,
and what an index answers can be read off the list of insertions.
-/

namespace RecordQuery.RelatedIndex

variable {α : Type}

/-! ## One row -/

theorem keys_addTo (key : String) (row : α) (groups : List (String × List α)) :
    (addTo key row groups).map Prod.fst =
      if key ∈ groups.map Prod.fst then groups.map Prod.fst
      else groups.map Prod.fst ++ [key] := by
  induction groups with
  | nil => rfl
  | cons group rest inductionHypothesis =>
      rcases group with ⟨held, rows⟩
      rw [addTo]
      by_cases here : held = key
      · simp [here]
      · have apart : ¬key = held := fun same => here same.symm
        rw [if_neg here, List.map_cons, inductionHypothesis]
        by_cases later : key ∈ rest.map Prod.fst
        · rw [if_pos later, List.map_cons,
            if_pos (List.mem_cons_of_mem _ later)]
        · rw [if_neg later, List.map_cons, if_neg, List.cons_append]
          simpa [apart] using later

theorem nodup_keys_addTo {key : String} {row : α}
    {groups : List (String × List α)}
    (distinct : (groups.map Prod.fst).Nodup) :
    ((addTo key row groups).map Prod.fst).Nodup := by
  rw [keys_addTo]
  split
  case isTrue => exact distinct
  case isFalse fresh =>
    refine List.nodup_append.mpr ⟨distinct, List.nodup_singleton key, ?_⟩
    rintro other inside last isKey rfl
    exact fresh (List.mem_singleton.mp isKey ▸ inside)

theorem perm_addTo (key : String) (row : α) (groups : List (String × List α)) :
    ((addTo key row groups).flatMap Prod.snd).Perm
      (groups.flatMap Prod.snd ++ [row]) := by
  induction groups with
  | nil => exact .refl _
  | cons group rest inductionHypothesis =>
      rcases group with ⟨held, rows⟩
      rw [addTo]
      by_cases here : held = key
      · rw [if_pos here, List.flatMap_cons, List.flatMap_cons,
          List.append_assoc, List.append_assoc]
        exact List.perm_append_comm.append_left rows
      · rw [if_neg here, List.flatMap_cons, List.flatMap_cons,
          List.append_assoc]
        exact inductionHypothesis.append_left rows

theorem inhabited_addTo {key : String} {row : α}
    {groups : List (String × List α)}
    (inhabited : ∀ group ∈ groups, group.2 ≠ []) :
    ∀ group ∈ addTo key row groups, group.2 ≠ [] := by
  induction groups with
  | nil => simp [addTo]
  | cons group rest inductionHypothesis =>
      rcases group with ⟨held, rows⟩
      obtain ⟨here, later⟩ := List.forall_mem_cons.mp inhabited
      rw [addTo]
      split
      case isTrue => exact List.forall_mem_cons.mpr ⟨by simp, later⟩
      case isFalse =>
        exact List.forall_mem_cons.mpr ⟨here, inductionHypothesis later⟩

/-! ## Any insertions -/

/-- The index after insertions into an empty one. -/
def ofInserts (inserts : List (Value × α)) : RelatedIndex α :=
  inserts.foldl (fun index entry => (index.insert entry.1 entry.2).1) {}

/-- The insertions that are kept. -/
def kept (inserts : List (Value × α)) : List (Value × α) :=
  inserts.filter fun entry => !entry.1.isNull

/-- The rows inserted under a key. -/
def rowsUnder (inserts : List (Value × α)) (key : String) : List α :=
  (inserts.filter fun entry => entry.1.indexKey = some key).map Prod.snd

/-- The rows that were kept and whose value has the key of this one. -/
def matching (inserts : List (Value × α)) (value : Value) : List α :=
  ((kept inserts).filter fun entry =>
    entry.1.indexKey = value.indexKey).map Prod.snd

/-- What insertions preserve: groups of different keys, none of them empty, that
hold the rows which were kept and as many as are counted. -/
structure Holds (index : RelatedIndex α) (inserts : List (Value × α)) :
    Prop where
  withKey : ∀ key, index.withKey key = rowsUnder inserts key
  distinct : (index.groups.map Prod.fst).Nodup
  inhabited : ∀ group ∈ index.groups, group.2 ≠ []
  partition :
    (index.groups.flatMap Prod.snd).Perm ((kept inserts).map Prod.snd)
  size : index.size = (kept inserts).length

theorem holds_nil : Holds ({} : RelatedIndex α) [] where
  withKey _ := rfl
  distinct := List.nodup_nil
  inhabited := by simp
  partition := .refl _
  size := rfl

section Insert

variable {index : RelatedIndex α} {inserts : List (Value × α)}
variable {value : Value} {row : α}

theorem rowsUnder_concat (key : String) :
    rowsUnder (inserts ++ [(value, row)]) key =
      rowsUnder inserts key ++
        if value.indexKey = some key then [row] else [] := by
  rw [rowsUnder, List.filter_append, List.map_append]
  by_cases same : value.indexKey = some key
  · simp [rowsUnder, same]
  · simp [rowsUnder, same]

theorem kept_concat_of_null (inserts : List (Value × α)) (row : α)
    (null : value.isNull = true) :
    kept (inserts ++ [(value, row)]) = kept inserts := by
  simp [kept, null]

theorem kept_concat (inserts : List (Value × α)) (row : α)
    (present : value.isNull = false) :
    kept (inserts ++ [(value, row)]) = kept inserts ++ [(value, row)] := by
  simp [kept, present]

theorem insert_of_keyless (keyless : value.indexKey = none) :
    (index.insert value row).1 = index := by
  rw [RelatedIndex.insert, keyless]

theorem insert_of_key {key : String} (keyed : value.indexKey = some key) :
    (index.insert value row).1 =
      ⟨addTo key row index.groups, index.size + 1⟩ := by
  rw [RelatedIndex.insert, keyed]

theorem Holds.insert (held : index.Holds inserts) (value : Value) (row : α) :
    (index.insert value row).1.Holds (inserts ++ [(value, row)]) := by
  have withKey (key : String) :
      (index.insert value row).1.withKey key =
        rowsUnder (inserts ++ [(value, row)]) key := by
    rw [withKey_insert, held.withKey, rowsUnder_concat]
  cases keyed : value.indexKey with
  | none =>
      have same :=
        kept_concat_of_null inserts row
          (value.indexKey_eq_none_iff.mp keyed)
      rw [insert_of_keyless keyed] at withKey ⊢
      exact
        { withKey
          distinct := held.distinct
          inhabited := held.inhabited
          partition := by rw [same]; exact held.partition
          size := by rw [same]; exact held.size }
  | some key =>
      have more :=
        kept_concat inserts row (Value.isNull_of_indexKey keyed)
      rw [insert_of_key keyed] at withKey ⊢
      exact
        { withKey
          distinct := nodup_keys_addTo held.distinct
          inhabited := inhabited_addTo held.inhabited
          partition := by
            rw [more, List.map_append]
            exact (perm_addTo key row index.groups).trans
              (held.partition.append_right [row])
          size := by rw [more, List.length_append, ← held.size]; rfl }

end Insert

theorem holds_ofInserts (inserts : List (Value × α)) :
    (ofInserts inserts).Holds inserts := by
  induction inserts using List.reverseRecOn with
  | nil => exact holds_nil
  | append_singleton inserts entry inductionHypothesis =>
      rw [ofInserts, List.foldl_concat]
      exact inductionHypothesis.insert entry.1 entry.2

/-! ## What an index answers -/

theorem mem_iff_lookup {groups : List (String × List α)}
    (distinct : (groups.map Prod.fst).Nodup) {key : String} {rows : List α} :
    (key, rows) ∈ groups ↔ groups.lookup key = some rows := by
  rw [List.lookup_eq_some_iff]
  constructor
  · intro member
    obtain ⟨before, after, rfl⟩ := List.append_of_mem member
    refine ⟨before, after, rfl, fun group earlier => ?_⟩
    rw [bne_iff_ne]
    rintro rfl
    rw [List.map_append, List.map_cons, List.nodup_append] at distinct
    exact distinct.2.2 _ (List.mem_map_of_mem earlier) _
      List.mem_cons_self rfl
  · rintro ⟨before, after, rfl, -⟩
    exact List.mem_append_right before List.mem_cons_self

theorem matching_of_key (inserts : List (Value × α)) {value : Value}
    {key : String} (keyed : value.indexKey = some key) :
    matching inserts value = rowsUnder inserts key := by
  rw [matching, kept, rowsUnder, List.filter_filter, keyed]
  congr 1
  refine List.filter_congr fun entry _ => ?_
  by_cases same : entry.1.indexKey = some key
  · simp [same, Value.isNull_of_indexKey same]
  · simp [same]

theorem matching_null (inserts : List (Value × α)) :
    matching inserts .null = [] := by
  have keyless : Value.indexKey .null = none := rfl
  rw [matching, kept, List.filter_filter, keyless, List.map_eq_nil_iff,
    List.filter_eq_nil_iff]
  intro entry _
  simp [entry.1.indexKey_eq_none_iff]

theorem rowsUnder_ne_nil_iff {inserts : List (Value × α)} {key : String} :
    rowsUnder inserts key ≠ [] ↔
      key ∈ inserts.filterMap fun entry => entry.1.indexKey := by
  simp [rowsUnder]

/-- What an index answers after insertions, and how its groups divide them. -/
structure Answers (index : RelatedIndex α) (inserts : List (Value × α)) :
    Prop where
  all : ∀ value, index.all value = matching inserts value
  first? : ∀ value, index.first? value = (matching inserts value).head?
  null : index.all .null = []
  size : index.size = (kept inserts).length
  keyCount :
    index.keyCount =
      (inserts.filterMap fun entry => entry.1.indexKey).toFinset.card
  distinct : (index.groups.map Prod.fst).Nodup
  group :
    ∀ key rows, (key, rows) ∈ index.groups ↔
      rows ≠ [] ∧ rows = rowsUnder inserts key
  partition :
    (index.groups.flatMap Prod.snd).Perm ((kept inserts).map Prod.snd)

section Held

variable {index : RelatedIndex α} {inserts : List (Value × α)}

theorem Holds.all (held : index.Holds inserts) (value : Value) :
    index.all value = matching inserts value := by
  rw [RelatedIndex.all]
  cases keyed : value.indexKey with
  | none =>
      cases value with
      | null => exact (matching_null inserts).symm
      | _ => simp [Value.indexKey] at keyed
  | some key => exact (held.withKey key).trans (matching_of_key inserts keyed).symm

theorem Holds.mem_groups_iff (held : index.Holds inserts) (key : String)
    (rows : List α) :
    (key, rows) ∈ index.groups ↔ rows ≠ [] ∧ rows = rowsUnder inserts key := by
  rw [← held.withKey key, RelatedIndex.withKey]
  constructor
  · intro member
    have found := (mem_iff_lookup held.distinct).mp member
    exact ⟨held.inhabited _ member, by rw [found]; rfl⟩
  · rintro ⟨some, same⟩
    rw [mem_iff_lookup held.distinct]
    cases found : index.groups.lookup key with
    | none => rw [found] at same; exact (some same).elim
    | some others => rw [found] at same; exact congrArg _ same.symm

theorem Holds.keyCount (held : index.Holds inserts) :
    index.keyCount =
      (inserts.filterMap fun entry => entry.1.indexKey).toFinset.card := by
  have sameKeys :
      (index.groups.map Prod.fst).toFinset =
        (inserts.filterMap fun entry => entry.1.indexKey).toFinset := by
    ext key
    rw [List.mem_toFinset, List.mem_toFinset, ← rowsUnder_ne_nil_iff,
      List.mem_map]
    constructor
    · rintro ⟨⟨_, rows⟩, member, rfl⟩
      obtain ⟨some, same⟩ := (held.mem_groups_iff _ _).mp member
      rwa [← same]
    · intro some
      exact ⟨(key, rowsUnder inserts key),
        (held.mem_groups_iff _ _).mpr ⟨some, rfl⟩, rfl⟩
  calc
    index.keyCount = (index.groups.map Prod.fst).length :=
      (List.length_map Prod.fst).symm
    _ = (index.groups.map Prod.fst).toFinset.card :=
      (List.toFinset_card_of_nodup held.distinct).symm
    _ = _ := by rw [sameKeys]

theorem Holds.answers (held : index.Holds inserts) : index.Answers inserts where
  all := held.all
  first? value := by rw [RelatedIndex.first?, held.all]
  null := (held.all .null).trans (matching_null inserts)
  size := held.size
  keyCount := held.keyCount
  distinct := held.distinct
  group := held.mem_groups_iff
  partition := held.partition

end Held

/-! ## Rows with a column -/

section Build

variable {schema : Schema} {column : String}

theorem foldlM_insertRow_eq_ok_iff {index : RelatedIndex Instance}
    (rows : List Instance) :
    ∀ start : RelatedIndex Instance,
      rows.foldlM (insertRow schema column) start = .ok index ↔
        ∃ values : List Value,
          rows.map (fun row => row.columnValue? schema column) =
              values.map some ∧
            index =
              (values.zip rows).foldl
                (fun index entry => (index.insert entry.1 entry.2).1)
                start := by
  induction rows with
  | nil =>
      intro start
      constructor
      · intro built
        cases built
        exact ⟨[], rfl, rfl⟩
      · rintro ⟨values, reads, rfl⟩
        cases values with
        | nil => rfl
        | cons => cases reads
  | cons row rest inductionHypothesis =>
      intro start
      rw [List.foldlM_cons, exceptBind_eq_ok_iff]
      simp only [insertRow_eq_ok_iff, inductionHypothesis]
      constructor
      · rintro ⟨_, ⟨value, read, rfl⟩, values, reads, rfl⟩
        exact ⟨value :: values, by rw [List.map_cons, read, reads]; rfl, rfl⟩
      · rintro ⟨values, reads, rfl⟩
        cases values with
        | nil => cases reads
        | cons value values =>
            obtain ⟨read, reads⟩ := List.cons.inj reads
            exact ⟨_, ⟨value, read, rfl⟩, values, reads, rfl⟩

theorem build_eq_ok_iff {rows : List Instance} {index : RelatedIndex Instance} :
    build schema column rows = .ok index ↔
      ∃ values : List Value,
        rows.map (fun row => row.columnValue? schema column) =
            values.map some ∧
          index = ofInserts (values.zip rows) := by
  rw [build_eq_foldlM]
  exact foldlM_insertRow_eq_ok_iff rows {}

theorem exists_build_eq_error_iff {rows : List Instance} :
    (∃ error, build schema column rows = .error error) ↔
      ∃ row ∈ rows, row.columnValue? schema column = none := by
  have failed :
      (∃ error, build schema column rows = .error error) ↔
        ¬∃ index, build schema column rows = .ok index := by
    cases build schema column rows <;> simp
  rw [failed, exists_build_iff]
  simp only [← Option.isSome_iff_exists, not_forall, exists_prop,
    Option.not_isSome_iff_eq_none]

end Build

/-- After any insertions an index answers for a value with the kept rows of its
key in the order of insertion, counts the kept rows and the keys, and its groups
divide the kept rows by key.  An index of instances by a column is the one in
which they are inserted in order under their values of the column, and there is
none exactly when one of them has no such value. -/
theorem groups_partition_inserts :
    (∀ (α : Type) (inserts : List (Value × α)),
        (ofInserts inserts).Answers inserts) ∧
      ∀ (schema : Schema) (column : String) (rows : List Instance),
        (∀ index, build schema column rows = .ok index ↔
            ∃ values : List Value,
              rows.map (fun row => row.columnValue? schema column) =
                  values.map some ∧
                index = ofInserts (values.zip rows)) ∧
          ((∃ error, build schema column rows = .error error) ↔
            ∃ row ∈ rows, row.columnValue? schema column = none) :=
  ⟨fun _ inserts => (holds_ofInserts inserts).answers,
    fun _ _ _ => ⟨fun _ => build_eq_ok_iff, exists_build_eq_error_iff⟩⟩

/-- A number and its text share a group, and NULL is dropped. -/
example :
    let index : RelatedIndex Nat :=
      ofInserts [(.int 1, 10), (.null, 20), (.text "1", 30), (.int 2, 40)]
    index.groups = [("1", [10, 30]), ("2", [40])] ∧ index.size = 3 := by
  decide

end RecordQuery.RelatedIndex
