import Bibliotheque.Store.Session

/-!
# The listing routes of books and authors

`LivreController::index` and `AuteurController::index`: one entry per row, in
the order of `findAll`, with the names of the linked rows joined into one
text.  The repositories are given the linked entities themselves, and `find`
resolves an entity to the row it stands for.
-/

namespace Bibliotheque

/-- `implode(', ', $names)`. -/
def implode (names : List String) : String := String.intercalate ", " names

/-- A nullable string of the response. -/
def Value.ofNullable : Option String → Value
  | some text => .str text
  | none => .null

/-- Midnight of the day as an RFC 3339 text, `offset` being that of the server's
time zone on that day. -/
def Date.rfc3339 (offset : Date → String) (date : Date) : String :=
  let year := date.year.toNat
  String.ofList ([Date.digit (year / 1000), Date.digit (year / 100),
    Date.digit (year / 10), Date.digit year, '-',
    Date.digit (date.month / 10), Date.digit date.month, '-',
    Date.digit (date.day / 10), Date.digit date.day] ++ "T00:00:00".toList ++
    (offset date).toList)

namespace Tables

/-- `$livre->getAuteurs()`, each resolved by `find`. -/
def auteursDe (tables : Tables) (livre : ℕ) : List Auteur :=
  (tables.livreAuteur.filter (·.1 = livre)).filterMap fun link =>
    tables.auteur.find link.2

/-- `$auteur->getLivres()`, each resolved by `find`. -/
def livresDe (tables : Tables) (auteur : ℕ) : List Livre :=
  (tables.livreAuteur.filter (·.2 = auteur)).filterMap fun link =>
    tables.livre.find link.1

theorem Valid.auteursDe_eq_nil_iff {tables : Tables} (hvalid : tables.Valid)
    (livre : ℕ) :
    tables.auteursDe livre = [] ↔ ∀ link ∈ tables.livreAuteur, link.1 ≠ livre := by
  simp only [auteursDe, List.filterMap_eq_nil_iff, List.mem_filter, decide_eq_true_eq]
  constructor
  · intro hnone link hlink hlivre
    obtain ⟨row, hrow⟩ :=
      Table.exists_find_of_mem_ids (hvalid.livreAuteur_auteur link hlink)
    have hmissing := hnone link ⟨hlink, hlivre⟩
    rw [hrow] at hmissing
    cases hmissing
  · rintro hnone link ⟨hlink, hlivre⟩
    exact absurd hlivre (hnone link hlink)

theorem Valid.livresDe_eq_nil_iff {tables : Tables} (hvalid : tables.Valid)
    (auteur : ℕ) :
    tables.livresDe auteur = [] ↔ ∀ link ∈ tables.livreAuteur, link.2 ≠ auteur := by
  simp only [livresDe, List.filterMap_eq_nil_iff, List.mem_filter, decide_eq_true_eq]
  constructor
  · intro hnone link hlink hauteur
    obtain ⟨row, hrow⟩ :=
      Table.exists_find_of_mem_ids (hvalid.livreAuteur_livre link hlink)
    have hmissing := hnone link ⟨hlink, hauteur⟩
    rw [hrow] at hmissing
    cases hmissing
  · rintro hnone link ⟨hlink, hauteur⟩
    exact absurd hauteur (hnone link hlink)

end Tables

section Index

/- `DateTimeNormalizer` of the serializer: an RFC 3339 text with the offset of
the server. -/
variable (normalize : Date → String)

/-- The entry of one book. -/
def LivreController.entry (tables : Tables) (id : ℕ) (livre : Livre) : Value :=
  .object [
    ("id", .int id),
    ("titre", .str livre.titre),
    ("dateSortie", .str (normalize livre.dateSortie)),
    ("langue", .str livre.langue),
    ("photoCouverture", .ofNullable livre.photoCouverture),
    ("auteurs", .str (implode ((tables.auteursDe id).map (·.nom)))),
    ("categorie", .ofNullable ((tables.categorie.find livre.categorie).map (·.nom)))]

def LivreController.index (tables : Tables) : Response :=
  ⟨200, .list (tables.livre.rows.map fun row => entry normalize tables row.1 row.2)⟩

/-- `GET /api/livre/{id}`, a reader of its own. -/
def LivreController.show (tables : Tables) (id : ℕ) : Response :=
  match tables.livre.find id with
  | none => ⟨404, .object [("message", .str "Livre not found")]⟩
  | some livre =>
      let categorie := tables.categorie.find livre.categorie
      let auteursString := implode ((tables.auteursDe id).map (·.nom))
      ⟨200, .object [
        ("id", .int id),
        ("titre", .str livre.titre),
        ("dateSortie", .str (normalize livre.dateSortie)),
        ("langue", .str livre.langue),
        ("photoCouverture", .ofNullable livre.photoCouverture),
        ("auteurs", .str auteursString),
        ("categorie", .ofNullable (categorie.map (·.nom)))]⟩

/-- The two readers of a book agree. -/
theorem LivreController.show_of_find {tables : Tables} {id : ℕ} {livre : Livre}
    (hfind : tables.livre.find id = some livre) :
    LivreController.show normalize tables id =
      ⟨200, LivreController.entry normalize tables id livre⟩ := by
  simp only [LivreController.show, hfind]
  rfl

/-- The entry of one author. -/
def AuteurController.entry (tables : Tables) (id : ℕ) (auteur : Auteur) : Value :=
  .object [
    ("id", .int id),
    ("nom", .str auteur.nom),
    ("prenom", .str auteur.prenom),
    ("dateNaiss", .str (normalize auteur.dateNaiss)),
    ("dateDeces", .ofNullable (auteur.dateDeces.map normalize)),
    ("nationalite", .str auteur.nationalite),
    ("photo", .ofNullable auteur.photo),
    ("description", .str auteur.description),
    ("livres", .str (implode ((tables.livresDe id).map (·.titre))))]

def AuteurController.index (tables : Tables) : Response :=
  ⟨200, .list (tables.auteur.rows.map fun row => entry normalize tables row.1 row.2)⟩

end Index

end Bibliotheque
