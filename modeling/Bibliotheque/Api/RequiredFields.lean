import Bibliotheque.Api.LivreCreation
import Bibliotheque.Api.ValidBodies

/-!
# The required fields of `POST /api/livre`

`LivreController::create` tests its fields with `!`, and a PHP string is false
if it is empty and also if it is `"0"`.  So the bodies it answers with 400
"Missing required fields" are those that lack a field and those that give one
of them as `"0"`.
-/

namespace Bibliotheque

open Program Bibliotheque.Action

/-! ## Fields of a typed body -/

/-- A string. -/
def Value.IsString (value : Value) : Prop := ∃ text, value = .str text

/-- A positive integer or a string of digits. -/
def Value.IsNumber (value : Value) : Prop :=
  (∃ n : ℕ, 0 < n ∧ value = .int n) ∨
    ∃ text, value = .str text ∧ text ≠ "" ∧ text.toList.all Date.isDigit

namespace Value

variable {data : Value} {key : String}

/-- The field is absent, null or empty. -/
def Lacks (data : Value) (key : String) : Prop :=
  data.field key = none ∨ data.field key = some (.str "")

/-- The field is a text that is not empty. -/
def Holds (data : Value) (key text : String) : Prop :=
  data.field key = some (.str text) ∧ text ≠ ""

/-- The field is the string that PHP takes for false. -/
def IsZero (data : Value) (key : String) : Prop := data.field key = some (.str "0")

instance : Decidable (data.Lacks key) := inferInstanceAs (Decidable (_ ∨ _))

instance : Decidable (data.IsZero key) := inferInstanceAs (Decidable (_ = _))

theorem missing_str_iff (text : String) :
    missing (some (.str text)) = true ↔ text = "" ∨ text = "0" := by
  simp only [missing, Option.any_some, truthy, Bool.not_eq_true', Bool.and_eq_false_iff,
    bne_eq_false_iff_eq]

/-- What `!` tells about a string field. -/
theorem missing_iff_of_string (hkey : data.Optional key IsString) :
    missing (data.field key) = true ↔ data.Lacks key ∨ data.IsZero key := by
  cases hfield : data.field key with
  | none => simp [Lacks, IsZero, hfield, missing]
  | some given =>
      obtain ⟨text, rfl⟩ := hkey given hfield
      simp [Lacks, IsZero, hfield, missing_str_iff]

/-- A number that is not the string `"0"` is true in a condition. -/
theorem IsNumber.truthy {value : Value} (hnumber : value.IsNumber)
    (hzero : value ≠ .str "0") : value.truthy = true := by
  rcases hnumber with ⟨n, hpositive, rfl⟩ | ⟨text, rfl, hempty, -⟩
  · have hne : n ≠ 0 := Nat.ne_of_gt hpositive
    simp [Value.truthy, hne]
  · have hne : text ≠ "0" := fun heq => hzero (congrArg Value.str heq)
    simp [Value.truthy, hempty, hne]

/-- What `!` tells about an id. -/
theorem missing_iff_of_number
    (hkey : data.Optional key fun value => value.IsNumber ∨ value = .str "") :
    missing (data.field key) = true ↔ data.Lacks key ∨ data.IsZero key := by
  cases hfield : data.field key with
  | none => simp [Lacks, IsZero, hfield, missing]
  | some given =>
      rcases hkey given hfield with (⟨n, hpositive, rfl⟩ | ⟨text, rfl, -, -⟩) | rfl
      · have hne : n ≠ 0 := Nat.ne_of_gt hpositive
        simp [Lacks, IsZero, hfield, missing, truthy, hne]
      · simp [Lacks, IsZero, hfield, missing_str_iff]
      · simp [Lacks, hfield, missing_str_iff]

theorem truthy_list_iff (items : List Value) :
    (list items).truthy = true ↔ items ≠ [] := by
  cases items with
  | nil => simp [list, truthy]
  | cons item items => simp [list, truthy]

/-- A text that is not `"0"` is true in a condition. -/
theorem Holds.truthy {text : String} (hkey : data.Holds key text)
    (hzero : ¬ data.IsZero key) : (Value.str text).truthy = true := by
  have hne : text ≠ "0" := by
    rintro rfl
    exact hzero hkey.1
  simp [Value.truthy, hkey.2, hne]

end Value

namespace LivreController

variable {runtime : Runtime} {base : Base} {data : Value} {row : Livre}

/-- A JSON body whose fields have the right types. -/
structure Typed (data : Value) : Prop where
  titre : data.Optional "titre" Value.IsString
  dateSortie : data.Optional "dateSortie" Value.IsString
  langue : data.Optional "langue" Value.IsString
  photoCouverture : data.Optional "photoCouverture" Value.IsString
  categorieId : data.Optional "categorieId"
    fun value => value.IsNumber ∨ value = .str ""
  auteurIds : data.Optional "auteurIds" fun value =>
    ∃ items, value = .list items ∧ ∀ item ∈ items, item.IsNumber

/-- A required field is absent, null or empty. -/
def LacksField (data : Value) : Prop :=
  data.Lacks "titre" ∨ data.Lacks "dateSortie" ∨ data.Lacks "langue" ∨
    data.Lacks "categorieId" ∨ data.field "auteurIds" = none ∨
      data.field "auteurIds" = some (.list [])

/-- A required field is the string `"0"`. -/
def HasZero (data : Value) : Prop :=
  data.IsZero "titre" ∨ data.IsZero "dateSortie" ∨ data.IsZero "langue" ∨
    data.IsZero "categorieId"

instance : Decidable (LacksField data) := inferInstanceAs (Decidable (_ ∨ _))

instance : Decidable (HasZero data) := inferInstanceAs (Decidable (_ ∨ _))

/-- The body asks for the book `row`: a title, a language and a readable date, a
category and authors that exist. -/
structure AsksFor (runtime : Runtime) (tables : Tables) (data : Value)
    (row : Livre) : Prop where
  titre : data.Holds "titre" row.titre
  dateSortie : ∃ text, data.Holds "dateSortie" text ∧
    runtime.newDateTime (.str text) = .ok row.dateSortie
  langue : data.Holds "langue" row.langue
  photoCouverture : data.field "photoCouverture" = row.photoCouverture.map .str
  categorie : ∃ given, data.field "categorieId" = some given ∧ given.IsNumber ∧
    runtime.rowId given = .ok (some row.categorie)
  categorie_mem : row.categorie ∈ tables.categorie.ids
  auteurs : ∃ items, data.field "auteurIds" = some (.list items) ∧ items ≠ [] ∧
    ∀ item ∈ items, item.IsId runtime tables.auteur.ids

def missingFields : Outcome :=
  .response ⟨400, .object [("error", .str "Missing required fields")]⟩

/-! ## The test of the handler -/

/-- The condition of the first `if` of `create`. -/
def lacking (data : Value) : Bool :=
  Value.missing (data.field "titre") || Value.missing (data.field "dateSortie") ||
    Value.missing (data.field "langue") || Value.missing (data.field "categorieId") ||
      !((data.field "auteurIds").getD (.arr [])).truthy

theorem Typed.auteurIds_iff (htyped : Typed data) :
    (!((data.field "auteurIds").getD (.arr [])).truthy) = true ↔
      data.field "auteurIds" = none ∨ data.field "auteurIds" = some (.list []) := by
  cases hfield : data.field "auteurIds" with
  | none => simp [Value.truthy]
  | some given =>
      obtain ⟨items, rfl, -⟩ := htyped.auteurIds given hfield
      rw [Option.getD_some, Bool.not_eq_true', ← Bool.not_eq_true, Value.truthy_list_iff,
        not_not]
      cases items with
      | nil => simp
      | cons item items => simp [Value.list]

/-- On a typed body the condition holds if a field is lacking or is `"0"`. -/
theorem Typed.lacking_iff (htyped : Typed data) :
    lacking data = true ↔ LacksField data ∨ HasZero data := by
  simp only [lacking, Bool.or_eq_true, Value.missing_iff_of_string htyped.titre,
    Value.missing_iff_of_string htyped.dateSortie,
    Value.missing_iff_of_string htyped.langue,
    Value.missing_iff_of_number htyped.categorieId, htyped.auteurIds_iff, LacksField,
    HasZero]
  tauto

theorem serve_create_of_lacking (hlacking : lacking data = true) :
    (serve (create runtime data) base).1 = missingFields := by
  have hend := serve_iff_wp (create runtime data) base fun outcome _ =>
    outcome = missingFields
  refine hend.mpr ?_
  rw [create, wp_bind, wp_answerIf]
  exact (if_pos hlacking).mpr rfl

/-- A body that asks for a book describes it, unless PHP takes a field for
false. -/
theorem AsksFor.describes (hasks : AsksFor runtime base.toTables data row)
    (hzero : ¬ HasZero data) : Describes runtime base.toTables data row where
  titre := ⟨_, hasks.titre.1, hasks.titre.truthy fun h => hzero (Or.inl h), rfl⟩
  dateSortie := by
    obtain ⟨text, htext, hdate⟩ := hasks.dateSortie
    exact ⟨_, htext.1, htext.truthy fun h => hzero (Or.inr (Or.inl h)), hdate⟩
  langue := ⟨_, hasks.langue.1,
    hasks.langue.truthy fun h => hzero (Or.inr (Or.inr (Or.inl h))), rfl⟩
  photoCouverture := by
    rw [hasks.photoCouverture]
    cases row.photoCouverture with
    | none => rfl
    | some photo => rfl
  categorie := by
    obtain ⟨given, hgiven, hnumber, hid⟩ := hasks.categorie
    refine ⟨given, hgiven, hnumber.truthy ?_, hid⟩
    rintro rfl
    exact hzero (Or.inr (Or.inr (Or.inr hgiven)))
  categorie_mem := hasks.categorie_mem
  auteurs := by
    obtain ⟨items, hitems, hne, hall⟩ := hasks.auteurs
    refine ⟨_, hitems, (Value.truthy_list_iff items).mpr hne, ?_, ?_⟩
    · intro hnone
      rw [Value.elements_list] at hnone
      cases hnone
    · intro others hothers
      rw [Value.elements_list] at hothers
      cases hothers
      exact hall

end LivreController

section Statement

open LivreController

end Statement

end Bibliotheque
