import Bibliotheque.Store.Session

/-!
# Handlers of books, authors and categories

The create, update and delete methods of `LivreController`, `AuteurController`
and `CategorieController`, statement by statement.  `data` is the decoded body
of the request and `id` the number in its path.
-/

namespace Bibliotheque

open Bibliotheque.Action

namespace LivreController

/-- The body of the loop over `auteurIds`; `missing` is what the handler does
about an unknown author. -/
def linkAuteur (runtime : Runtime) (livre : Ref) (missing : Action Unit)
    (auteurId : Value) : Action Unit := do
  match ← find runtime Tables.auteur auteurId with
  | some auteur => addAuteur livre (.managed auteur)
  | none => missing

def create (runtime : Runtime) (data : Value) : Action Response := do
  let titre := data.field "titre"
  let dateSortie := data.field "dateSortie"
  let langue := data.field "langue"
  let photoCouverture := data.field "photoCouverture"
  let categorieId := data.field "categorieId"
  let auteurIds := (data.field "auteurIds").getD (.arr [])
  answerIf (Value.missing titre || Value.missing dateSortie ||
      Value.missing langue || Value.missing categorieId || !auteurIds.truthy)
    400 [("error", .str "Missing required fields")]
  let titre ← php (titre.getD .null).toString
  let dateSortie ← php (runtime.newDateTime (dateSortie.getD .null))
  let langue ← php (langue.getD .null).toString
  let photoCouverture ← php (Value.toNullableString photoCouverture)
  let some categorie ← find runtime Tables.categorie (categorieId.getD .null)
    | answer 404 [("error", .str "Category not found")]
  foreach runtime auteurIds
    (linkAuteur runtime .fresh (answer 404 [("error", .str "Author not found")]))
  persist (.livre {
    titre := some titre
    dateSortie := some dateSortie
    langue := some langue
    photoCouverture := photoCouverture
    categorie := some categorie })
  flush
  return ⟨201, .object [("message", .str "Livre created"), ("id", ← insertedId)]⟩

/-- `Response::HTTP_NOT_FOUND` in a file that does not import `Response`. -/
def notFoundConstant : Action Unit :=
  throw (.thrown (.error "Class \"App\\Controller\\Api\\Response\" not found"))

/-- The category of `update`: an unknown one is an error. -/
def changeCategorie (runtime : Runtime) (livre : ℕ) (categorieId : Value) :
    Action Unit := do
  match ← find runtime Tables.categorie categorieId with
  | some categorie => setLivre livre ({ · with categorie := categorie })
  | none => notFoundConstant

/-- The statements of `update` before its `flush`. -/
def updateFields (runtime : Runtime) (id : ℕ) (data : Value) : Action Unit := do
  let some livre ← find runtime Tables.livre (.int id)
    | answer 404 [("message", .str "Livre not found")]
  ifSet (data.field "titre") fun titre => do
    let titre ← php titre.toString
    setLivre livre ({ · with titre := titre })
  ifSet (data.field "dateSortie") fun dateSortie => do
    let dateSortie ← php (runtime.newDateTime dateSortie)
    setLivre livre ({ · with dateSortie := dateSortie })
  ifSet (data.field "langue") fun langue => do
    let langue ← php langue.toString
    setLivre livre ({ · with langue := langue })
  ifSet (data.field "photoCouverture") fun photoCouverture => do
    let photoCouverture ← php photoCouverture.toString
    setLivre livre ({ · with photoCouverture := some photoCouverture })
  ifSet (data.field "categorieId") (changeCategorie runtime livre)
  ifSet (data.field "auteurIds") fun auteurIds =>
    foreach runtime auteurIds
      (linkAuteur runtime (.managed livre) notFoundConstant)

def update (runtime : Runtime) (id : ℕ) (data : Value) : Action Response := do
  updateFields runtime id data
  flush
  return ⟨200, .object [("message", .str "Livre updated"), ("id", .int id)]⟩

def delete (runtime : Runtime) (id : ℕ) : Action Response := do
  let some livre ← find runtime Tables.livre (.int id)
    | answer 404 [("message", .str "Livre not found")]
  remove (.livre livre)
  flush
  return ⟨200, .object [("message", .str "Livre deleted")]⟩

end LivreController

namespace AuteurController

def delete (runtime : Runtime) (id : ℕ) : Action Response := do
  let some auteur ← find runtime Tables.auteur (.int id)
    | answer 404 [("message", .str "Auteur not found")]
  remove (.auteur auteur)
  flush
  return ⟨200, .object [("message", .str "Auteur deleted")]⟩

/-- A parameter declared `DateTimeInterface` rejects `false`. -/
def dateParameter : Option Date → Except Throwable Date
  | some date => .ok date
  | none => .error (.typeError "DateTimeInterface")

/-- `createFromFormat('d/m/Y', ...)` given to a setter. -/
def readDate (value : Value) : Action Date := do
  let date ← php (Runtime.createFromFormat DateTime.dmY value)
  php (dateParameter date)

/-- `$livreRepository` is not a parameter of `update`, so the loop fails at its
first element. -/
def undefinedRepository (_ : Value) : Action Unit :=
  throw (.thrown (.error "Call to a member function find() on null"))

def update (runtime : Runtime) (id : ℕ) (data : Value) : Action Response := do
  let some auteur ← find runtime Tables.auteur (.int id)
    | answer 404 [("message", .str "Auteur not found")]
  foreach runtime ((data.field "livres").getD (.arr [])) undefinedRepository
  ifSet (data.field "nom") fun nom => do
    let nom ← php nom.toString
    setAuteur auteur ({ · with nom := nom })
  ifSet (data.field "prenom") fun prenom => do
    let prenom ← php prenom.toString
    setAuteur auteur ({ · with prenom := prenom })
  ifSet (data.field "dateNaiss") fun dateNaiss => do
    let dateNaiss ← readDate dateNaiss
    setAuteur auteur ({ · with dateNaiss := dateNaiss })
  ifSet (data.field "dateDeces") fun dateDeces => do
    let dateDeces ← readDate dateDeces
    setAuteur auteur ({ · with dateDeces := some dateDeces })
  ifSet (data.field "nationalite") fun nationalite => do
    let nationalite ← php nationalite.toString
    setAuteur auteur ({ · with nationalite := nationalite })
  ifSet (data.field "photo") fun photo => do
    let photo ← php photo.toString
    setAuteur auteur ({ · with photo := some photo })
  ifSet (data.field "description") fun description => do
    let description ← php description.toString
    setAuteur auteur ({ · with description := description })
  flush
  return ⟨201, .object [("message", .str "Auteur updated"), ("id", .int id)]⟩

/-- The body of the loop over `livres`: an unknown book is skipped. -/
def linkLivre (runtime : Runtime) (livreId : Value) : Action Unit := do
  match ← find runtime Tables.livre livreId with
  | some livre => addLivre .fresh (.managed livre)
  | none => pure ()

/-- A date key of `create`: the property stays null without the key. -/
def optionalDate (value : Option Value) : Action (Option Date) :=
  match value with
  | some value => do return some (← readDate value)
  | none => pure none

def create (runtime : Runtime) (data : Value) : Action Response := do
  answerIf (!data.truthy)
    400 [("message", .str "Aucune donnée reçue ou données invalides.")]
  let nom ← php ((data.field "nom").getD .null).toString
  let prenom ← php ((data.field "prenom").getD .null).toString
  let dateNaiss ← optionalDate (data.field "dateNaiss")
  let dateDeces ← optionalDate (data.field "dateDeces")
  let nationalite ← php ((data.field "nationalite").getD .null).toString
  let photo ← php (Value.toNullableString (data.field "photo"))
  let description ← php ((data.field "description").getD .null).toString
  foreach runtime ((data.field "livres").getD (.arr [])) (linkLivre runtime)
  persist (.auteur {
    nom := some nom
    prenom := some prenom
    dateNaiss := dateNaiss
    dateDeces := dateDeces
    nationalite := some nationalite
    photo := photo
    description := some description })
  flush
  return ⟨201, .object [("message", .str "Auteur créé avec succès."),
    ("id", ← insertedId), ("nom", .str nom), ("prenom", .str prenom)]⟩

end AuteurController

namespace CategorieController

/-- A property that keeps its null default without the key. -/
def optionalString (value : Option Value) : Action (Option String) :=
  php (Value.toNullableString value)

def create (data : Value) : Action Response := do
  let nom ← optionalString (data.field "nom")
  let description ← optionalString (data.field "description")
  persist (.categorie { nom := nom, description := description })
  flush
  return ⟨201, .object [("id", ← insertedId)]⟩

def update (runtime : Runtime) (id : ℕ) (data : Value) : Action Response := do
  let some categorie ← find runtime Tables.categorie (.int id)
    | answer 404 [("message", .str "Categorie not found")]
  ifSet (data.field "nom") fun nom => do
    let nom ← php nom.toString
    setCategorie categorie ({ · with nom := nom })
  ifSet (data.field "description") fun description => do
    let description ← php description.toString
    setCategorie categorie ({ · with description := description })
  flush
  return ⟨201, .object [("message", .str "Categorie updated"), ("id", .int id)]⟩

/-- `$data` is undefined in `delete`, so both of its reads are null and neither
setter runs. -/
def delete (runtime : Runtime) (id : ℕ) : Action Response := do
  let some categorie ← find runtime Tables.categorie (.int id)
    | answer 404 [("message", .str "Categorie not found")]
  remove (.categorie categorie)
  flush
  return ⟨200, .object [("message", .str "Categorie deleted")]⟩

end CategorieController

end Bibliotheque
