import Bibliotheque.Api.GetPut

/-!
# The category requests that succeed

On which bodies `CategorieController::create` runs to its end, and the row it
then stores; its `update` is treated with the readers.
-/

namespace Bibliotheque

open Program Bibliotheque.Action

namespace CategorieController

variable {runtime : Runtime} {base : Base} {id : ℕ} {data : Value}

/-- The category a body describes. -/
def decrit (data : Value) : Option Categorie := do
  return {
    nom := ← received (data.field "nom") Value.toString
    description := ← received (data.field "description") Value.toString }

/-- The content after the flush of a creation. -/
def created (base : Base) (row : Categorie) : Tables :=
  { base.toTables with categorie := base.categorie.insert row }

theorem refuses_create : Refuses (create data) := by
  refine (refuses_php _).bind fun _ => (refuses_php _).bind fun _ => ?_
  refine (refuses_persist _).bind fun _ => refuses_flush.bind fun _ => ?_
  exact refuses_insertedId.bind fun _ => stops_pure _

theorem completes_optionalString_iff {Out : Type} {key : String}
    {next : Option String → Action Out} {post : Out → Session → Prop} {session : Session} :
    Completes (optionalString (data.field key) >>= next) post session ↔
      data.Converts key Value.toString ∧
        Completes (next (received (data.field key) Value.toString)) post session := by
  unfold Value.Converts optionalString
  rw [completes_php_iff]
  cases data.field key with
  | none => simp [Value.toNullableString, received]
  | some given =>
      cases hread : given.toString with
      | ok text => simp [Value.toNullableString, received, hread, Except.map, Except.toOption]
      | error throwable => simp [Value.toNullableString, hread, Except.map]

theorem store_created {row : Categorie} :
    (created base row).store = created base row.store := by
  rw [created, base.valid.store_categorie, Table.map_insert fun stored hstored =>
    (base.valid.categorie_fits stored hstored).store_eq]
  rfl

/-- A category is created exactly from a body with both texts, if the server
accepts the row. -/
theorem completes_create_iff {property : Response → Base → Prop} :
    Completes (create data) (fun sent final => property sent final.base)
        (Session.start base) ↔
      (data.Converts "nom" Value.toString ∧ data.Converts "description" Value.toString) ∧
        ∃ row, decrit data = some row ∧ ∃ hvalid : (created base row.store).Valid,
          property ⟨201, .object [("id", .int base.categorie.next)]⟩
            ⟨created base row.store, hvalid⟩ := by
  unfold create
  rw [completes_optionalString_iff, completes_optionalString_iff, and_assoc]
  refine and_congr Iff.rfl (and_congr Iff.rfl ?_)
  have hdecrit : decrit data = (CategorieDraft.row
      ⟨received (data.field "nom") Value.toString,
        received (data.field "description") Value.toString⟩) := rfl
  rw [hdecrit]
  cases hrow : CategorieDraft.row ⟨received (data.field "nom") Value.toString,
      received (data.field "description") Value.toString⟩ with
  | none =>
      simp only [reduceCtorEq, false_and, exists_false, iff_false]
      exact not_completes_persist fun _ => by simp [Entity.insert, hrow]
  | some row =>
      have hinsert : (Entity.categorie ⟨received (data.field "nom") Value.toString,
          received (data.field "description") Value.toString⟩).insert base.toTables =
            some (created base row, base.categorie.next) := by
        simp [Entity.insert, hrow, created]
      simp only [Option.some.injEq, exists_eq_left']
      rw [Completes, wp_bind, wp_persist, wp_bind]
      exact completes_flush_of_commit (Session.commit_persisted_alone base hinsert)
        store_created

/-- The server accepts the new category exactly if it fits its columns. -/
theorem valid_created_iff {row : Categorie} : (created base row).Valid ↔ row.Fits := by
  constructor
  · intro hvalid
    apply hvalid.categorie_fits (base.categorie.next, row)
    simp [created]
  · exact fun hfits => base.valid.insert_categorie hfits

end CategorieController

end Bibliotheque
