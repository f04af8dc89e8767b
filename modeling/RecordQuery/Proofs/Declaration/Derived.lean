import RecordQuery.Declaration.Derivation
import RecordQuery.Proofs.Outcome
import RecordQuery.Proofs.Pairs

/-!
# The fields of a derived model

Each field of a declaration is given one role in the model: it holds a column,
it holds related rows, or it is skipped.  None is lost and none is used twice,
and columns and relationships stay in the order of the fields.
-/

namespace RecordQuery.Declaration

/-! ## Names -/

theorem name_of_read {declared : FieldDeclaration} {field : FieldSource}
    (readAs : FieldDeclaration.read declared = .ok field) :
    field.name = declared.name := by
  unfold FieldDeclaration.read at readAs
  split at readAs
  · simp only [exceptBind_eq_ok_iff] at readAs
    obtain ⟨_, _, _, _, _, _, _, _, ⟨⟩⟩ := readAs
    rfl
  · simp only [exceptBind_eq_ok_iff] at readAs
    obtain ⟨_, _, _, _, _, _, ⟨⟩⟩ := readAs
    rfl

/-- The fields that a model or a row type is derived from are those of the
declaration. -/
theorem names_of_read {declaration : Declaration} {source : DeclarationSource}
    {derived : String} {fields : List FieldSource}
    (readAs : read declaration = .ok source)
    (named : namedFields derived source = .ok fields) :
    fields.map FieldSource.name =
      declaration.fields.map FieldDeclaration.name := by
  unfold read at readAs
  simp only [exceptBind_eq_ok_iff, mapM_eq_ok_iff] at readAs
  obtain ⟨_, _, _, _, _, _, _, _, _, each, ⟨⟩⟩ := readAs
  unfold namedFields at named
  split at named
  · next shape =>
      cases named
      rw [if_pos shape] at each
      exact (map_eq_map_of_forall₂ (each.imp fun _ _ entryRead =>
        (name_of_read entryRead).symm)).symm
  all_goals cases named

/-! ## Roles -/

/-- The role of a field, by what its attributes and its type say. -/
theorem fieldRole_eq_ok_iff {field : FieldSource} {role : FieldRole} :
    fieldRole field = .ok role ↔
      ∃ notes, fieldNotes field.attributes = .ok notes ∧
        (notes.skipped = true ∧ role = .skipped ∨
          notes.skipped = false ∧
            ((∃ kind related,
                relationType? field.type = some (kind, related) ∧
                  notes.concernsColumn = false ∧
                  role = .relation ⟨field.name, kind, related, notes⟩) ∨
              relationType? field.type = none ∧
                notes.concernsRelation = false ∧
                role =
                  .column ⟨field.name, tokenText field.type.tokens,
                    notes.column?.getD field.name, notes⟩)) := by
  unfold fieldRole
  rw [exceptBind_eq_ok_iff]
  refine exists_congr fun notes => and_congr_right fun _ => ?_
  cases notes.skipped with
  | true =>
      constructor
      · rintro ⟨⟩
        exact Or.inl ⟨rfl, rfl⟩
      · rintro (⟨_, rfl⟩ | ⟨⟨⟩, _⟩)
        rfl
  | false =>
      cases relationType? field.type with
      | some declared =>
          cases notes.concernsColumn with
          | true =>
              constructor
              · rintro ⟨⟩
              · rintro (⟨⟨⟩, _⟩ | ⟨_, ⟨_, _, _, ⟨⟩, _⟩ | ⟨⟨⟩, _⟩⟩)
          | false =>
              constructor
              · rintro ⟨⟩
                exact Or.inr ⟨rfl, Or.inl ⟨_, _, rfl, rfl, rfl⟩⟩
              · rintro (⟨⟨⟩, _⟩ | ⟨_, ⟨_, _, ⟨⟩, _, rfl⟩ | ⟨⟨⟩, _⟩⟩)
                rfl
      | none =>
          cases notes.concernsRelation with
          | true =>
              constructor
              · rintro ⟨⟩
              · rintro (⟨⟨⟩, _⟩ | ⟨_, ⟨_, _, ⟨⟩, _⟩ | ⟨_, ⟨⟩, _⟩⟩)
          | false =>
              constructor
              · rintro ⟨⟩
                exact Or.inr ⟨rfl, Or.inr ⟨rfl, rfl, rfl⟩⟩
              · rintro (⟨⟨⟩, _⟩ | ⟨_, ⟨_, _, ⟨⟩, _⟩ | ⟨_, _, rfl⟩⟩)
                rfl

namespace DerivedModel

/-- The fields of a model, by their roles. -/
def fieldNames (model : DerivedModel) : List String :=
  model.columns.map DerivedColumn.field ++
    (model.relations.map DerivedRelation.field ++ model.skipped)

/-- Whether the fields of a model are those of the given names, each once, and
those that hold columns or related rows are in their order. -/
structure Distributes (model : DerivedModel) (names : List String) : Prop where
  perm : model.fieldNames.Perm names
  columns : (model.columns.map DerivedColumn.field).Sublist names
  relations : (model.relations.map DerivedRelation.field).Sublist names

theorem distributes_nil (name table : String) (scopes? : Option String) :
    (DerivedModel.mk name table [] [] [] scopes?).Distributes [] :=
  ⟨.nil, .slnil, .slnil⟩

/-- Adding a field appends it to the fields of its role. -/
theorem add_eq_ok {model next : DerivedModel} {field : FieldSource}
    (added : model.add field = .ok next) :
    next = { model with skipped := model.skipped ++ [field.name] } ∨
      (∃ entry : DerivedRelation, entry.field = field.name ∧
        next = { model with relations := model.relations ++ [entry] }) ∨
      ∃ entry : DerivedColumn, entry.field = field.name ∧
        next = { model with columns := model.columns ++ [entry] } := by
  unfold DerivedModel.add at added
  obtain ⟨role, decided, outcome⟩ := exceptBind_eq_ok_iff.mp added
  obtain ⟨notes, _, ⟨_, rfl⟩ | ⟨_, ⟨_, _, _, _, rfl⟩ | ⟨_, _, rfl⟩⟩⟩ :=
    fieldRole_eq_ok_iff.mp decided
  · cases outcome
    exact Or.inl rfl
  · cases outcome
    exact Or.inr (Or.inl ⟨_, rfl, rfl⟩)
  · cases outcome
    exact Or.inr (Or.inr ⟨_, rfl, rfl⟩)

theorem Distributes.add {model next : DerivedModel} {names : List String}
    {field : FieldSource} (distributes : model.Distributes names)
    (added : model.add field = .ok next) :
    next.Distributes (names ++ [field.name]) := by
  have columnsKept := distributes.columns.trans
    (List.sublist_append_left names [field.name])
  have relationsKept := distributes.relations.trans
    (List.sublist_append_left names [field.name])
  have permAdded := distributes.perm.append_right [field.name]
  have last (rest : List String) :
      (field.name :: rest).Perm (rest ++ [field.name]) :=
    (List.perm_append_singleton field.name rest).symm
  rcases add_eq_ok added with rfl | ⟨entry, named, rfl⟩ | ⟨entry, named, rfl⟩
  · exact ⟨by simpa [fieldNames] using permAdded, columnsKept, relationsKept⟩
  · refine ⟨List.Perm.trans ?_ permAdded, columnsKept, ?_⟩
    · simpa [fieldNames, named] using
        ((last model.skipped).append_left _).append_left _
    · simpa [named] using distributes.relations.append_right [field.name]
  · refine ⟨List.Perm.trans ?_ permAdded, ?_, relationsKept⟩
    · simpa [fieldNames, named] using
        (last (model.relations.map DerivedRelation.field ++
          model.skipped)).append_left _
    · simpa [named] using distributes.columns.append_right [field.name]

theorem Distributes.addAll {fields : List FieldSource}
    {model next : DerivedModel} {names : List String}
    (distributes : model.Distributes names)
    (added : fields.foldlM DerivedModel.add model = .ok next) :
    next.Distributes (names ++ fields.map FieldSource.name) := by
  induction fields generalizing model names with
  | nil =>
      cases added
      simpa using distributes
  | cons field rest inductionHypothesis =>
      rw [List.foldlM_cons, exceptBind_eq_ok_iff] at added
      obtain ⟨between, first, later⟩ := added
      simpa using inductionHypothesis (distributes.add first) later

end DerivedModel

/-- The fields of a derived model are those of its declaration. -/
theorem distributes_of_deriveModel {declaration : Declaration}
    {model : DerivedModel} (derived : deriveModel declaration = .ok model) :
    model.Distributes (declaration.fields.map FieldDeclaration.name) := by
  unfold deriveModel at derived
  obtain ⟨source, readAs, derived⟩ := exceptBind_eq_ok_iff.mp derived
  split at derived
  · cases derived
  simp only [exceptBind_eq_ok_iff] at derived
  obtain ⟨_, _, fields, named, _, added, outcome⟩ := derived
  split at outcome
  · cases outcome
  cases outcome
  rw [← names_of_read readAs named]
  exact (DerivedModel.distributes_nil _ _ _).addAll added

end RecordQuery.Declaration
