import RecordQuery.Proofs.Instance.Slots

/-!
# The two sides of one relationship

A child belongs to its parent by the columns by which the parent has the child.
Each side finds them in its own way, from the parent's primary key and name
unless they are stated.  Where both sides state the same, they have join columns
for the same pairs of models, and describe one foreign key.
-/

namespace RecordQuery

/-- A column of the child that refers to a key of the parent: the stated ones,
or else the only primary key of the parent and the column that is derived from
it. -/
structure Refers (child parent : Model) (key? foreign? : Option String)
    (column key : String) : Prop where
  referenced :
    key? = some key ∨
      key? = none ∧ parent.primaryKeys.map Field.column = [key]
  referring : column = foreign?.getD (Relation.derivedKey parent key)
  columnDeclared : child.hasColumn column = true
  keyDeclared : parent.hasColumn key = true

theorem Model.primaryKeyFor_eq_ok_iff {model : Model} {name key : String} :
    model.primaryKeyFor name = .ok key ↔
      model.primaryKeys.map Field.column = [key] := by
  unfold primaryKeyFor
  split
  · next none =>
      rw [none]
      exact ⟨nofun, nofun⟩
  · next field single =>
      rw [single, List.map_singleton, Except.ok.injEq, List.singleton_inj]
  · next first second rest several =>
      rw [several]
      exact ⟨nofun, nofun⟩

namespace Relation

theorem keyOr_primaryKey_eq_ok_iff {owner : Model} {key? : Option String}
    {name key : String} :
    keyOr key? (owner.primaryKeyFor name) = .ok key ↔
      key? = some key ∨
        key? = none ∧ owner.primaryKeys.map Field.column = [key] := by
  cases key? with
  | none => simp [keyOr, Model.primaryKeyFor_eq_ok_iff]
  | some stated => simp [keyOr]

theorem keyOr_derived (foreign? : Option String) (derived : String) :
    keyOr foreign? (.ok derived) = .ok (foreign?.getD derived) := by
  cases foreign? <;> rfl

section Sides

variable {schema : Schema} {relation : Relation} {keys : RelationKeys}

/-- Join columns of a relationship whose declaring model holds the foreign
key. -/
theorem resolve_belongsTo_eq_ok_iff {child : Model}
    (upward : relation.kind = .belongsTo) :
    relation.resolve schema child = .ok keys ↔
      ∃ column key,
        Refers child (schema.model relation.related) relation.ownerKey?
          relation.foreignKey? column key ∧
        keys =
          ⟨relation.name, relation.kind, child.table, column,
            (schema.model relation.related).table, key⟩ := by
  rw [resolve_eq_ok_iff]
  simp only [columnPair, upward, exceptBind_eq_ok_iff,
    keyOr_primaryKey_eq_ok_iff, keyOr_derived]
  constructor
  · rintro ⟨column, key, ⟨_, referenced, _, ⟨⟩, ⟨⟩⟩, columnDeclared,
      keyDeclared, described⟩
    exact ⟨_, _, ⟨referenced, rfl, columnDeclared, keyDeclared⟩, described⟩
  · rintro ⟨column, key, refers, described⟩
    refine ⟨column, key, ⟨key, refers.referenced, _, rfl, ?_⟩,
      refers.columnDeclared, refers.keyDeclared, described⟩
    rw [refers.referring]
    rfl

/-- Join columns of a relationship whose related rows hold the foreign key. -/
theorem resolve_has_eq_ok_iff {parent : Model}
    (downward : relation.kind ≠ .belongsTo) :
    relation.resolve schema parent = .ok keys ↔
      ∃ column key,
        Refers (schema.model relation.related) parent relation.localKey?
          relation.foreignKey? column key ∧
        keys =
          ⟨relation.name, relation.kind, parent.table, key,
            (schema.model relation.related).table, column⟩ := by
  have paired :
      relation.columnPair parent (schema.model relation.related) =
        (do
          let parentKey ←
            keyOr relation.localKey? (parent.primaryKeyFor relation.name)
          let relatedKey ←
            keyOr relation.foreignKey? (.ok (derivedKey parent parentKey))
          pure (parentKey, relatedKey)) := by
    unfold columnPair
    split
    · next upward => exact (downward upward).elim
    · rfl
    · rfl
  rw [resolve_eq_ok_iff]
  simp only [paired, exceptBind_eq_ok_iff, keyOr_primaryKey_eq_ok_iff,
    keyOr_derived]
  constructor
  · rintro ⟨key, column, ⟨_, referenced, _, ⟨⟩, ⟨⟩⟩, keyDeclared,
      columnDeclared, described⟩
    exact ⟨_, _, ⟨referenced, rfl, columnDeclared, keyDeclared⟩, described⟩
  · rintro ⟨column, key, refers, described⟩
    refine ⟨key, column, ⟨key, refers.referenced, _, rfl, ?_⟩,
      refers.keyDeclared, refers.columnDeclared, described⟩
    rw [refers.referring]
    rfl

end Sides

theorem Refers.unique {child parent : Model} {key? foreign? : Option String}
    {column key other otherKey : String}
    (refers : Refers child parent key? foreign? column key)
    (otherRefers : Refers child parent key? foreign? other otherKey) :
    column = other ∧ key = otherKey := by
  have same : key = otherKey := by
    rcases refers.referenced with stated | ⟨absent, single⟩ <;>
      rcases otherRefers.referenced with
        otherStated | ⟨otherAbsent, otherSingle⟩
    · exact Option.some.inj (stated.symm.trans otherStated)
    · cases stated.symm.trans otherAbsent
    · cases absent.symm.trans otherStated
    · exact List.singleton_inj.mp (single.symm.trans otherSingle)
  refine ⟨?_, same⟩
  rw [refers.referring, otherRefers.referring, same]

/-- A relationship of a child to its parent and one of the parent to its
children that state the same columns have join columns together.  These are
the same with the sides changed, and both describe the foreign key of the
child's table. -/
theorem resolve_inverse {schema : Schema} {child parent : Model}
    {upward downward : Relation}
    (belongs : upward.kind = .belongsTo)
    (toParent : schema.model upward.related = parent)
    (has : downward.kind = .hasOne ∨ downward.kind = .hasMany)
    (toChild : schema.model downward.related = child)
    (sameKey : upward.ownerKey? = downward.localKey?)
    (sameForeign : upward.foreignKey? = downward.foreignKey?) :
    ((∃ keys, upward.resolve schema child = .ok keys) ↔
      ∃ keys, downward.resolve schema parent = .ok keys) ∧
    ∀ up down : RelationKeys,
      upward.resolve schema child = .ok up →
      downward.resolve schema parent = .ok down →
        up.parentKey = down.relatedKey ∧
          up.relatedKey = down.parentKey ∧
          up.foreignKey = down.foreignKey ∧
          up.foreignKey =
            ⟨child.table, up.parentKey, parent.table, up.relatedKey⟩ := by
  have notUpward : downward.kind ≠ .belongsTo := by
    rcases has with one | many
    · rw [one]
      exact nofun
    · rw [many]
      exact nofun
  simp only [resolve_belongsTo_eq_ok_iff belongs,
    resolve_has_eq_ok_iff notUpward, toParent, toChild, sameKey, sameForeign]
  constructor
  · constructor
    · rintro ⟨_, column, key, refers, _⟩
      exact ⟨_, column, key, refers, rfl⟩
    · rintro ⟨_, column, key, refers, _⟩
      exact ⟨_, column, key, refers, rfl⟩
  · rintro up down ⟨column, key, refers, rfl⟩
      ⟨other, otherKey, otherRefers, rfl⟩
    obtain ⟨rfl, rfl⟩ := Refers.unique refers otherRefers
    refine ⟨rfl, rfl, ?_, ?_⟩
    · rcases has with one | many
      · simp only [RelationKeys.foreignKey, belongs, one]
      · simp only [RelationKeys.foreignKey, belongs, many]
    · simp only [RelationKeys.foreignKey, belongs]

/-! ## Categories in categories -/

def around : Relation :=
  { name := "around"
    kind := .belongsTo
    related := 0
    ownerKey? := some "code" }

def inside : Relation :=
  { name := "inside"
    kind := .hasMany
    related := 0
    localKey? := some "code" }

/-- Categories refer by its code to the category that they are in. -/
def category : Model where
  name := "Category"
  table := "categories"
  fields :=
    [{ name := "id"
       column := "id"
       type := .integer ⟨true, 64⟩
       primary := true },
     { name := "code", column := "code", type := .text },
     { name := "category_code", column := "category_code", type := .text }]
  relations := [around, inside]

def categorySchema : Schema where
  models := [category]

set_option maxRecDepth 4000 in
/-- A model that is related to itself by a key that is stated and a column that
is derived from it. -/
theorem resolve_inverse_categories :
    around.kind = .belongsTo ∧
      categorySchema.model around.related = category ∧
      (inside.kind = .hasOne ∨ inside.kind = .hasMany) ∧
      categorySchema.model inside.related = category ∧
      around.ownerKey? = inside.localKey? ∧
      around.foreignKey? = inside.foreignKey? ∧
      ∃ up down,
        around.resolve categorySchema category = .ok up ∧
          inside.resolve categorySchema category = .ok down ∧
          up.foreignKey = down.foreignKey ∧
          up.foreignKey =
            ⟨"categories", "category_code", "categories", "code"⟩ := by
  have inverse :=
    @resolve_inverse categorySchema category category around inside
      rfl rfl (Or.inr rfl) rfl rfl rfl
  have refers :
      Refers category category (some "code") none "category_code" "code" :=
    ⟨Or.inl rfl, by decide, by decide, by decide⟩
  obtain ⟨up, upResolved⟩ :
      ∃ up, around.resolve categorySchema category = .ok up :=
    ⟨_, (resolve_belongsTo_eq_ok_iff rfl).mpr ⟨_, _, refers, rfl⟩⟩
  obtain ⟨down, downResolved⟩ := inverse.1.mp ⟨up, upResolved⟩
  obtain ⟨_, _, same, described⟩ := inverse.2 up down upResolved downResolved
  obtain ⟨column, key, found, rfl⟩ :=
    (resolve_belongsTo_eq_ok_iff rfl).mp upResolved
  obtain ⟨rfl, rfl⟩ := Refers.unique found refers
  exact ⟨rfl, rfl, Or.inr rfl, rfl, rfl, rfl, _, down, upResolved,
    downResolved, same, described⟩

end Relation

end RecordQuery
