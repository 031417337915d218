import Bibliotheque.Front.Requests

/-!
# The pages of the book list

`filterLivres` asks for a window of the catalogue: a language, a size and the
position `(offset - 1) * size`.  The user counts pages from 0, the initial value of
the field, and the request goes to the root of the API, which is the entry point
of API Platform and not the book route.  The entry point is not part of this
repository and is a parameter here.
-/

namespace Bibliotheque.Front

/-- The form with a language, a size and a page number. -/
def Criteres.page (langue : String) (size page : ℕ) : Criteres where
  selectedLangue := langue
  size := size
  offset := page

/-- What `filterLivres` sends for a page. -/
def pageRequest (langue : String) (size page : ℕ) : HttpGet :=
  ApiService.getLivresFiltered (Criteres.page langue size page).params

/-! ## The server -/

section Server

/- The entry point of API Platform and the date normalizer. -/
variable (entrypoint : List (String × String) → Response) (normalize : Date → String)
variable (base : Base)

/-- The two `GET` routes the list uses.  `LivreController::index` reads no
parameter. -/
def serveur (request : HttpGet) : Response :=
  if request.url = ApiService.apiUrl ++ "/livre" then
    LivreController.index normalize base.toTables
  else if request.url = ApiService.apiUrl then entrypoint request.params
  else ⟨404, .null⟩

/-- The books of an answer. -/
def books (response : Response) : List Value := (array response.body).getD []

/-- The books obtained for the pages before `pages`, one page after the other. -/
def concatenated (langue : String) (size pages : ℕ) : List Value :=
  (List.range pages).flatMap fun page =>
    books (serveur entrypoint normalize base (pageRequest langue size page))

/-- The books of the chosen language, as the API lists them. -/
def catalogue (langue : String) : List Value :=
  (base.livre.rows.filter fun row => langue = "" ∨ row.2.langue = langue).map fun row =>
    LivreController.entry normalize base.toTables row.1 row.2

/-- Every window starts inside the catalogue or after it, and enough pages give
each book of the language once. -/
def Paginates (langue : String) (size : ℕ) : Prop :=
  (∀ page, 0 ≤ (Criteres.page langue size page).params.offset) ∧
    ∃ enough, ∀ pages, enough ≤ pages →
      (concatenated entrypoint normalize base langue size pages).Perm
        (catalogue normalize base langue)

end Server

/-! ## Windows -/

theorem offset_page (langue : String) (size page : ℕ) :
    (Criteres.page langue size page).params.offset = ((page : ℤ) - 1) * size := rfl

/-- The window of a page starts at a position of the list iff the page is not
the first one the form proposes. -/
theorem offset_nonneg_iff (langue : String) {size : ℕ} (hsize : 1 ≤ size) (page : ℕ) :
    0 ≤ (Criteres.page langue size page).params.offset ↔ 1 ≤ page := by
  rw [offset_page]
  have hpositive : (0 : ℤ) < size := by exact_mod_cast hsize
  rw [mul_nonneg_iff_of_pos_right hpositive]
  omega

/-! ## The pages together -/

section Pages

variable {entrypoint : List (String × String) → Response} {normalize : Date → String}
variable {base : Base}

/-- The request of a page goes to the entry point. -/
theorem serveur_pageRequest (langue : String) (size page : ℕ) :
    serveur entrypoint normalize base (pageRequest langue size page) =
      entrypoint (pageRequest langue size page).params := by
  have hurl : (pageRequest langue size page).url = ApiService.apiUrl := rfl
  have hother : ApiService.apiUrl ≠ ApiService.apiUrl ++ "/livre" := by decide
  rw [serveur, hurl, if_neg hother, if_pos rfl]

/-- The entry point answers with an object, so no page brings a book, and the
pages are the catalogue iff it has no book of the language. -/
theorem concatenated_perm_iff
    (hentrypoint : ∀ params, array (entrypoint params).body = none)
    (langue : String) (size pages : ℕ) :
    (concatenated entrypoint normalize base langue size pages).Perm
        (catalogue normalize base langue) ↔
      catalogue normalize base langue = [] := by
  have hpages : concatenated entrypoint normalize base langue size pages = [] := by
    rw [concatenated, List.flatMap_eq_nil_iff]
    intro page _
    rw [serveur_pageRequest, books, hentrypoint]
    rfl
  rw [hpages, List.nil_perm]

end Pages

/-- Whatever the catalogue, the language and the size, paging fails: the window of
page 0 starts before the list. -/
theorem not_paginates (entrypoint : List (String × String) → Response)
    (normalize : Date → String) (base : Base) (langue : String) {size : ℕ}
    (hsize : 1 ≤ size) : ¬ Paginates entrypoint normalize base langue size := by
  rintro ⟨hwindows, -⟩
  have hfirst := (offset_nonneg_iff langue hsize 0).mp (hwindows 0)
  omega

/-- The entry point of a server without API resources. -/
def sampleEntrypoint (_ : List (String × String)) : Response where
  status := 200
  body := .object [("@context", .str "/api/contexts/Entrypoint"), ("@id", .str "/api"),
    ("@type", .str "Entrypoint")]

theorem not_paginates_sample :
    1 ≤ 10 ∧ ¬ Paginates sampleEntrypoint sampleNormalize Base.sample "" 10 :=
  ⟨by decide, not_paginates sampleEntrypoint sampleNormalize Base.sample "" (by decide)⟩

/-- With the initial values of the form the window starts at -10.  Ten pages bring
no book, though the library has one. -/
theorem page_zero_starts_before :
    pageRequest "" 10 0 = ⟨ApiService.apiUrl, [("size", "10"), ("offset", "-10")]⟩ ∧
      concatenated sampleEntrypoint sampleNormalize Base.sample "" 10 10 = [] ∧
      catalogue sampleNormalize Base.sample "" ≠ [] ∧
      ¬ Paginates sampleEntrypoint sampleNormalize Base.sample "" 10 := by
  refine ⟨by decide, by decide +kernel, by decide, ?_⟩
  rintro ⟨hwindows, -⟩
  exact absurd (hwindows 0) (by decide)

end Bibliotheque.Front
