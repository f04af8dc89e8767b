import RecordQuery.Proofs.Fragment.Refills
import RecordQuery.Proofs.Model.Twins

/-!
# Values do not reach the text of a statement

Two programs that differ in the values that they hand in, with NULL in the same
places, have one text in every dialect, or are refused with one error.
-/

namespace RecordQuery

variable {related : Value → Value → Prop}

/-- Programs that differ in their values alone, with NULL in the same places,
are refused with one error or make statements of one text, in every dialect,
and each binding is a value that the other program has in its place. -/
theorem Fragment.Twins.toSql_sameButValues (sameNull : ∀ value value',
      related value value' → value.isNull = value'.isNull)
    {left right : Fragment}
    (twins : Fragment.Twins related (fun _ _ => True) left right)
    (dialect : Dialect) :
    SameButValues related (left.toSql dialect) (right.toSql dialect) :=
  (twins.related (Fragment.Refills.rawCongruence _) sameNull).toSql dialect

/-! ### A search -/

/-- Authors with books; the books of a shop by the context. -/
def librarySchema : Schema where
  models :=
    [{ name := "Author"
       table := "authors"
       fields :=
         [{ name := "id"
            column := "id"
            type := .integer ⟨true, 64⟩
            primary := true }]
       relations := [{ name := "books", kind := .hasMany, related := 1 }] },
     { name := "Book"
       table := "books"
       fields :=
         [{ name := "author_id"
            column := "author_id"
            type := .integer ⟨true, 64⟩ }]
       scopes := [⟨"shop", [.filterByContext "shop" "shop_id" "="]⟩] }]

def authorSearch (shop name low high : Value) : List ModelStep :=
  [.plain (.withContext ⟨[("shop", shop)]⟩),
    .plain (.filter .where_ (.nested .and
      [.inList .and false "name" [name, .null],
        .compare .or "name" "=" .null,
        .raw .or "born > ?" [low]])),
    .has .where_ .and "books" [.filter .where_ (.between "pages" low high)]]

def searchQuery (shop name low high : Value) : Query :=
  ((ModelQuery.ofModel librarySchema 0).applyAll librarySchema
    (authorSearch shop name low high)).query

/-- The values of two searches, one of which comes with a hostile name. -/
def searchedFor (value value' : Value) : Prop :=
  (value, value') ∈
    [(.null, .null), (.int 7, .text "7 OR 1 = 1"), (.int 1, .int 500),
      (.text "Ann", .text "x') OR ('1' = '1")]

def searchText : String :=
  "SELECT \"authors\".* FROM \"authors\" WHERE (\"name\" IN ($1, $2) " ++
    "OR \"name\" IS NULL OR born > $3) AND EXISTS (SELECT \"books\".* " ++
    "FROM \"books\" WHERE \"author_id\" = \"authors\".\"id\" AND " ++
    "\"pages\" BETWEEN $4 AND $5 AND \"shop_id\" = $6)"

set_option maxRecDepth 4000 in
/-- Two searches have one text, which holds placeholders where their values
are. -/
theorem Fragment.Twins.toSql_sameButValues_authorSearch :
    (searchQuery (.int 7) (.text "Ann") (.int 1) (.int 7)).fragment.toSql
          .postgres =
        .ok ⟨searchText,
          [.text "Ann", .null, .int 1, .int 1, .int 7, .int 7]⟩ ∧
      (searchQuery (.text "7 OR 1 = 1") (.text "x') OR ('1' = '1") (.int 500)
          (.text "7 OR 1 = 1")).fragment.toSql .postgres =
        .ok ⟨searchText,
          [.text "x') OR ('1' = '1", .null, .int 500, .int 500,
            .text "7 OR 1 = 1", .text "7 OR 1 = 1"]⟩ ∧
      SameButValues searchedFor
        ((searchQuery (.int 7) (.text "Ann") (.int 1) (.int 7)).fragment.toSql
          .postgres)
        ((searchQuery (.text "7 OR 1 = 1") (.text "x') OR ('1' = '1")
          (.int 500) (.text "7 OR 1 = 1")).fragment.toSql .postgres) := by
  have sameNull : ∀ value value', searchedFor value value' →
      value.isNull = value'.isNull := by
    intro value value' listed
    simp only [searchedFor, List.mem_cons, Prod.mk.injEq, List.not_mem_nil,
      or_false] at listed
    rcases listed with ⟨rfl, rfl⟩ | ⟨rfl, rfl⟩ | ⟨rfl, rfl⟩ | ⟨rfl, rfl⟩ <;> rfl
  have empty : searchedFor .null .null := by simp [searchedFor]
  have shops : searchedFor (.int 7) (.text "7 OR 1 = 1") := by
    simp [searchedFor]
  have names : searchedFor (.text "Ann") (.text "x') OR ('1' = '1") := by
    simp [searchedFor]
  have lows : searchedFor (.int 1) (.int 500) := by simp [searchedFor]
  have models :
      List.Forall₂
        (Model.Related searchedFor
          (Fragment.Twins searchedFor fun _ _ => True)
          (Predicate.Twins searchedFor fun _ _ => True))
        librarySchema.models librarySchema.models :=
    .cons (.mk _ _ _ _ .nil)
      (.cons (.mk _ _ _ _ (.cons (.mk _ (.cons (.filterByContext _ _ _) .nil))
        .nil)) .nil)
  refine ⟨rfl, rfl,
    Fragment.Twins.toSql_sameButValues sameNull (.model models 0 ?_) _⟩
  refine .cons (.plain (.withContext (.cons ⟨rfl, shops⟩ .nil))) (.cons ?_
    (.cons ?_ .nil))
  · exact .plain (.filter _ (.nested _ (.cons
      (.inList _ _ _ (.cons names (.cons empty .nil)))
      (.cons (.compare _ _ _ empty) (.cons (.raw _ _ trivial (.cons lows .nil))
        .nil)))))
  · exact .has _ _ _ (.cons (.filter _ (.between _ lows shops)) .nil)

end RecordQuery
