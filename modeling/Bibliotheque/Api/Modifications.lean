import Bibliotheque.Api.AuteurSteps

/-!
# Updates in steps

The handlers that update a row, cut like those that create or delete one.  The row is
managed from the first read on, and the flush compares with what was read then, but
for dates: a date that was sent is an object of its own and always written.  What the
unit of work has is not read again: the category of a book, the user and the book of
a loan or a reservation, and the authors of a book once the first call of `addAuteur`
has loaded them.
-/

namespace Bibliotheque

open Program Bibliotheque.Action

/-! ## The snapshot of a row -/

namespace Date

/-- Some other day. -/
def autre (date : Date) : Date :=
  if date = sample then autreSample else sample

theorem autre_ne (date : Date) : date.autre ≠ date := by
  unfold autre
  split
  · rename_i hsample
    rw [hsample]
    decide
  · rename_i hsample
    exact fun heq => hsample heq.symm

/-- The same for a column that may be null. -/
def autreOuNul (date : Option Date) : Option Date := some (date.elim sample autre)

theorem autreOuNul_ne (date : Option Date) : autreOuNul date ≠ date := by
  cases date with
  | none => exact fun heq => nomatch heq
  | some date => exact fun heq => date.autre_ne (Option.some.inj heq)

end Date

/-- The snapshot of a date column.  Dates are compared as objects, and one that was sent
is not the one that was loaded, even on the same day: its snapshot is some other day. -/
def instantane {Valeur : Type} (data : Value) (key : String) (autre : Valeur → Valeur)
    (old new : Valeur) : Valeur :=
  if (data.field key).isSome then autre new else old

theorem column_instantane {Valeur : Type} [DecidableEq Valeur] {data : Value} {key : String}
    {autre : Valeur → Valeur} (hautre : ∀ value, autre value ≠ value) (old new stored : Valeur) :
    column (instantane data key autre old new) new stored =
      if (data.field key).isSome then new else column old new stored := by
  unfold instantane
  split
  · exact if_neg (hautre new).symm
  · rfl

def Livre.instantane (data : Value) (old new : Livre) : Livre :=
  { old with
    dateSortie := Bibliotheque.instantane data "dateSortie" Date.autre old.dateSortie
      new.dateSortie }

def Auteur.instantane (data : Value) (old new : Auteur) : Auteur :=
  { old with
    dateNaiss := Bibliotheque.instantane data "dateNaiss" Date.autre old.dateNaiss
      new.dateNaiss
    dateDeces := Bibliotheque.instantane data "dateDeces" Date.autreOuNul old.dateDeces
      new.dateDeces }

def Emprunt.instantane (data : Value) (old new : Emprunt) : Emprunt :=
  { old with
    dateEmprunt := Bibliotheque.instantane data "dateEmprunt" Date.autre old.dateEmprunt
      new.dateEmprunt
    dateRetour := Bibliotheque.instantane data "dateRetour" Date.autreOuNul old.dateRetour
      new.dateRetour }

def Reservations.instantane (data : Value) (old new : Reservations) : Reservations :=
  { old with
    dateResa := Bibliotheque.instantane data "dateResa" Date.autre old.dateResa
      new.dateResa }

def Utilisateur.instantane (data : Value) (old new : Utilisateur) : Utilisateur :=
  { old with
    dateAdhesion := Bibliotheque.instantane data "dateAdhesion" Date.autre old.dateAdhesion
      new.dateAdhesion
    dateNaiss := Bibliotheque.instantane data "dateNaiss" Date.autre old.dateNaiss
      new.dateNaiss }

namespace Ressource

/-- What the flush compares a row with that was loaded as `old` and set to `new`. -/
def instantane (data : Value) :
    (ressource : Ressource) → ressource.Contenu → ressource.Contenu → ressource.Contenu
  | livre => Livre.instantane data
  | categorie => fun old _ => old
  | auteur => Auteur.instantane data
  | emprunt => Emprunt.instantane data
  | reservations => Reservations.instantane data
  | adherent => Utilisateur.instantane data

/-- The `UPDATE` of one row. -/
def write : (ressource : Ressource) →
    ressource.Contenu → ressource.Contenu → ressource.Contenu → ressource.Contenu
  | livre => Livre.write
  | categorie => Categorie.write
  | auteur => Auteur.write
  | emprunt => Emprunt.write
  | reservations => Reservations.write
  | adherent => Utilisateur.write

/-- What the `UPDATE` of a row that was loaded as `old` and set to `new` makes of it. -/
def ecrit (data : Value) (ressource : Ressource) (old new : ressource.Contenu) :
    ressource.Contenu → ressource.Contenu :=
  ressource.write (ressource.instantane data old new) new

theorem write_unchanged (ressource : Ressource) (old row : ressource.Contenu) :
    ressource.write old old row = row := by
  cases ressource with
  | livre => exact Livre.write_unchanged old row
  | categorie => exact Categorie.write_unchanged old row
  | auteur => exact Auteur.write_unchanged old row
  | emprunt => exact Emprunt.write_unchanged old row
  | reservations => exact Reservations.write_unchanged old row
  | adherent => exact Utilisateur.write_unchanged old row

theorem write_loaded (ressource : Ressource) (old new : ressource.Contenu) :
    ressource.write old new old = new := by
  cases ressource with
  | livre => exact Livre.write_loaded old new
  | categorie => exact Categorie.write_loaded old new
  | auteur => exact Auteur.write_loaded old new
  | emprunt => exact Emprunt.write_loaded old new
  | reservations => exact Reservations.write_loaded old new
  | adherent => exact Utilisateur.write_loaded old new

/-- A row that is as it was loaded gets what was set, whichever way it is compared. -/
theorem ecrit_loaded (data : Value) (ressource : Ressource) (old new : ressource.Contenu) :
    ressource.ecrit data old new old = new := by
  have hdate : ∀ {key : String} (old new : Date),
      column (Bibliotheque.instantane data key Date.autre old new) new old = new := by
    intro key old new
    rw [column_instantane Date.autre_ne, column_loaded, ite_self]
  have hnull : ∀ {key : String} (old new : Option Date),
      column (Bibliotheque.instantane data key Date.autreOuNul old new) new old = new := by
    intro key old new
    rw [column_instantane Date.autreOuNul_ne, column_loaded, ite_self]
  cases ressource with
  | livre =>
      simp only [ecrit, write, instantane, Livre.write, Livre.instantane, hdate, column_loaded]
  | categorie => exact Categorie.write_loaded old new
  | auteur =>
      simp only [ecrit, write, instantane, Auteur.write, Auteur.instantane, hdate, hnull,
        column_loaded]
  | emprunt =>
      simp only [ecrit, write, instantane, Emprunt.write, Emprunt.instantane, hdate, hnull,
        column_loaded]
  | reservations =>
      simp only [ecrit, write, instantane, Reservations.write, Reservations.instantane, hdate,
        column_loaded]
  | adherent =>
      simp only [ecrit, write, instantane, Utilisateur.write, Utilisateur.instantane, hdate,
        column_loaded]

theorem table_write (loaded managed stored : Tables) (ressource : Ressource) :
    ressource.table (Tables.write loaded managed stored) =
      Table.write ressource.write (ressource.table loaded) (ressource.table managed)
        (ressource.table stored) := by
  cases ressource <;> rfl

theorem set_table (tables : Tables) (ressource : Ressource) :
    ressource.set tables (ressource.table tables) = tables := by
  cases ressource <;> rfl

theorem tables_ext {left right : Tables}
    (htables : ∀ ressource : Ressource, ressource.table left = ressource.table right)
    (hliens : left.livreAuteur = right.livreAuteur) : left = right := by
  cases left
  cases right
  cases htables .livre
  cases htables .categorie
  cases htables .auteur
  cases htables .emprunt
  cases htables .reservations
  cases htables .adherent
  cases hliens
  rfl

/-- The `UPDATE` statements of a session that changed one row. -/
theorem write_set {ressource : Ressource} {id : ℕ} (read current : Tables)
    {old : ressource.Contenu} (hold : (ressource.table read).find id = some old)
    (charge rewrite : ressource.Contenu → ressource.Contenu) :
    Tables.write (ressource.set read ((ressource.table read).modify id charge))
        (ressource.set read ((ressource.table read).modify id rewrite)) current =
      ressource.set current
        ((ressource.table current).modify id (ressource.write (charge old) (rewrite old))) := by
  apply tables_ext
  · intro other
    rw [table_write]
    by_cases hother : other = ressource
    · subst hother
      simp only [table_set_self]
      exact Table.write_modify_modify other.write_unchanged hold charge rewrite
    · simp only [table_set_of_ne _ hother]
      exact Table.write_unchanged other.write_unchanged _ _
  · cases ressource <;> rfl

/-- The session after setters of one row; `relu` is what later reads made of the row as
it was loaded. -/
def modifiant (base : Base) (ressource : Ressource) (id : ℕ) (data : Value)
    (relu rewrite : ressource.Contenu → ressource.Contenu) : Session :=
  { Session.start base with
    loaded := ressource.set base.toTables ((ressource.table base.toTables).modify id
      fun row => ressource.instantane data (relu row) (rewrite row))
    managed := ressource.set base.toTables
      ((ressource.table base.toTables).modify id rewrite) }

end Ressource

/-! ## The handlers in steps -/

namespace LivreController

/-- What `notFoundConstant` raises. -/
def classNotFound : Throwable :=
  .error "Class \"App\\Controller\\Api\\Response\" not found"

/-- The session of `update` at its flush: the book was read from `base` and its
collection from `charge`. -/
def liant (base charge : Base) (id : ℕ) (data : Value) (rewrite : Livre → Livre)
    (auteurs : List ℕ) : Session :=
  let session := Ressource.livre.modifiant base id data (fun row => row) rewrite
  { session with
    loaded := { session.loaded with livreAuteur := charge.livreAuteur }
    liens := addAuteurs (.managed id) auteurs charge.liens }

/-- The loop over `auteurIds`, with the authors that were found; those of the collection
are known. -/
def lierSteps (runtime : Runtime) (collection : List ℕ) (suite : List ℕ → Tache) :
    List Value → List ℕ → Tache
  | [], auteurs => suite auteurs
  | auteurId :: auteurIds, auteurs =>
      .obtenir runtime Tables.auteur (collection ++ auteurs) auteurId (.thrown classNotFound)
        fun _ auteur => lierSteps runtime collection suite auteurIds (auteurs ++ [auteur])

/-- The loop with the load of the collection, once the first author is found. -/
def collectionSteps (runtime : Runtime) (base : Base) (id : ℕ)
    (suite : Base → List ℕ → Tache) : List Value → Tache
  | [] => suite base []
  | auteurId :: auteurIds =>
      .obtenir runtime Tables.auteur [] auteurId (.thrown classNotFound) fun _ auteur =>
        .lecture fun charge =>
          lierSteps runtime ((charge.livreAuteur.filter (·.1 = id)).map Prod.snd)
            (suite charge) auteurIds [auteur]

/-- The category of `update`; that of the book is known. -/
def categorieSteps (runtime : Runtime) (base : Base) (id : ℕ) (data : Value)
    (suite : Option ℕ → Tache) : Tache :=
  match data.field "categorieId" with
  | none => suite none
  | some categorieId =>
      .obtenir runtime Tables.categorie ((base.livre.find id).toList.map Livre.categorie)
        categorieId (.thrown classNotFound) fun _ categorie => suite (some categorie)

/-- The authors of `update`. -/
def auteurIdsSteps (runtime : Runtime) (base : Base) (id : ℕ) (data : Value)
    (suite : Base → List ℕ → Tache) : Tache :=
  match data.field "auteurIds" with
  | none => suite base []
  | some auteurIds =>
      match auteurIds.elements with
      | some items => collectionSteps runtime base id suite items
      | none =>
          if runtime.debug then
            .terminee (.thrown (.warning "foreach() argument must be of type array|object"))
          else suite base []

def updateSteps (runtime : Runtime) (id : ℕ) (data : Value) : Tache :=
  .trouver runtime Tables.livre (.int id)
    ⟨404, .object [("message", .str "Livre not found")]⟩ fun base livre =>
  .siPresent (data.field "titre") Value.toString fun titre =>
  .siPresent (data.field "dateSortie") runtime.newDateTime fun dateSortie =>
  .siPresent (data.field "langue") Value.toString fun langue =>
  .siPresent (data.field "photoCouverture") Value.toString fun photoCouverture =>
  categorieSteps runtime base livre data fun categorie =>
  auteurIdsSteps runtime base livre data fun charge auteurs =>
  .ecriture
    (liant base charge livre data (fun row => {
      titre := titre.getD row.titre
      dateSortie := dateSortie.getD row.dateSortie
      langue := langue.getD row.langue
      photoCouverture := (photoCouverture.map some).getD row.photoCouverture
      categorie := categorie.getD row.categorie }) auteurs)
    fun _ => ⟨200, .object [("message", .str "Livre updated"), ("id", .int id)]⟩

end LivreController

namespace AuteurController

/-- The loop of `update` over the books. -/
def parcourir (runtime : Runtime) (livres : Value) : Except Throwable Unit :=
  match livres.elements with
  | some [] => .ok ()
  | some (_ :: _) => .error (.error "Call to a member function find() on null")
  | none =>
      if runtime.debug then
        .error (.warning "foreach() argument must be of type array|object")
      else .ok ()

def updateSteps (runtime : Runtime) (id : ℕ) (data : Value) : Tache :=
  .trouver runtime Tables.auteur (.int id)
    ⟨404, .object [("message", .str "Auteur not found")]⟩ fun base auteur =>
  .php (parcourir runtime ((data.field "livres").getD (.arr []))) fun _ =>
  .siPresent (data.field "nom") Value.toString fun nom =>
  .siPresent (data.field "prenom") Value.toString fun prenom =>
  .siPresent (data.field "dateNaiss") parseDate fun dateNaiss =>
  .siPresent (data.field "dateDeces") parseDate fun dateDeces =>
  .siPresent (data.field "nationalite") Value.toString fun nationalite =>
  .siPresent (data.field "photo") Value.toString fun photo =>
  .siPresent (data.field "description") Value.toString fun description =>
  .ecriture
    (Ressource.auteur.modifiant base auteur data (fun row => row) fun row => {
      nom := nom.getD row.nom
      prenom := prenom.getD row.prenom
      dateNaiss := dateNaiss.getD row.dateNaiss
      dateDeces := (dateDeces.map some).getD row.dateDeces
      nationalite := nationalite.getD row.nationalite
      photo := (photo.map some).getD row.photo
      description := description.getD row.description })
    fun _ => ⟨201, .object [("message", .str "Auteur updated"), ("id", .int id)]⟩

end AuteurController

namespace CategorieController

def updateSteps (runtime : Runtime) (id : ℕ) (data : Value) : Tache :=
  .trouver runtime Tables.categorie (.int id)
    ⟨404, .object [("message", .str "Categorie not found")]⟩ fun base categorie =>
  .siPresent (data.field "nom") Value.toString fun nom =>
  .siPresent (data.field "description") Value.toString fun description =>
  .ecriture
    (Ressource.categorie.modifiant base categorie data (fun row => row) fun row => {
      nom := nom.getD row.nom
      description := description.getD row.description })
    fun _ => ⟨201, .object [("message", .str "Categorie updated"), ("id", .int id)]⟩

end CategorieController

namespace EmpruntController

/-- The two dates, and then the two rows that are looked up before either is tested.
The user and the book of the loan are known, and the book that the user has reserved. -/
def updateSteps (runtime : Runtime) (id : ℕ) (data : Value) : Tache :=
  .trouver runtime Tables.emprunt (.int id)
    ⟨404, .object [("error", .str "Emprunt not found")]⟩ fun base emprunt =>
  let dateEmprunt := data.field "dateEmprunt"
  let dateRetour := data.field "dateRetour"
  let emprunteurId := data.field "emprunteurId"
  let livreId := data.field "livreId"
  if Value.missing dateEmprunt || Value.missing dateRetour ||
      Value.missing emprunteurId || Value.missing livreId then
    .terminee (.response ⟨400, .object [("error", .str "Missing required fields")]⟩)
  else
    .php (Runtime.createFromFormat DateTime.dmY (dateEmprunt.getD .null)) fun dateEmprunt =>
    .php (Runtime.createFromFormat DateTime.dmY (dateRetour.getD .null)) fun dateRetour =>
    match dateEmprunt, dateRetour with
    | some dateEmprunt, some dateRetour =>
        let row := (base.emprunt.find emprunt).toList
        .rechercher runtime Tables.utilisateur (row.map Emprunt.emprunteur)
          (emprunteurId.getD .null) fun lu emprunteur =>
        .rechercher runtime Tables.livre
          (row.map Emprunt.livre ++ lu.toList.flatMap fun lu =>
            emprunteur.toList.flatMap (lu.joints .reservateur))
          (livreId.getD .null) fun _ livre =>
          match emprunteur, livre with
          | none, _ => .terminee (.response ⟨404, .object
              [("error", .str "Emprunteur not found")]⟩)
          | some _, none => .terminee (.response ⟨404, .object
              [("error", .str "Livre not found")]⟩)
          | some emprunteur, some livre =>
              .ecriture
                (Ressource.emprunt.modifiant base emprunt data (fun row => row) fun _ =>
                  ⟨dateEmprunt, some dateRetour, emprunteur, livre⟩)
                fun _ => ⟨200, .object [("message", .str "Emprunt updated"),
                  ("id", .int id)]⟩
    | _, _ => .terminee (.response ⟨400, .object
        [("error", .str "Invalid date format. Please use dd/mm/yyyy format.")]⟩)

end EmpruntController

namespace ReservationsController

/-- The `SELECT` of a user or a book joins its reservation.  One that is already loaded
is set to that user or book. -/
def relire (bout : Bout) (reservation number : ℕ) (row : Reservations) :
    Option Base → Reservations
  | none => row
  | some lu =>
      if (bout.jointe lu.toTables number).any (·.1 = reservation) then bout.relie number row
      else row

/-- The book that the load of a user brings along, unless its reservation is the one
that is loaded already. -/
def joints (reservation reservateur : ℕ) : Option Base → List ℕ
  | none => []
  | some lu => ((Bout.reservateur.jointe lu.toTables reservateur).filter
      (·.1 ≠ reservation)).toList.map fun row => row.2.livre

/-- The user and the book of the reservation are known. -/
def updateTache (runtime : Runtime) (id : ℕ) (data : Value) : Tache :=
  .trouver runtime Tables.reservations (.int id)
    ⟨404, .object [("message", .str "Reservation not found")]⟩ fun base reservation =>
  let dateResa := data.field "dateResa"
  let reservateurId := data.field "reservateurId"
  let livreId := data.field "livreId"
  if dateResa.isNone || reservateurId.isNone || livreId.isNone then
    .terminee (.response ⟨400, .object [("message", .str "Missing required data")]⟩)
  else
    .php (Runtime.createFromFormat DateTime.dmY (dateResa.getD .null)) fun dateResa =>
    match dateResa with
    | none => .terminee (.response ⟨400, .object
        [("message", .str "Invalid date format. Please use dd/mm/yyyy format.")]⟩)
    | some dateResa =>
        let row := (base.reservations.find reservation).toList
        .obtenir runtime Tables.utilisateur (row.map Reservations.reservateur)
          (reservateurId.getD .null)
          (.response ⟨404, .object [("message", .str "Adherent not found")]⟩)
          fun luReservateur reservateur =>
        .obtenir runtime Tables.livre
          (row.map Reservations.livre ++ joints reservation reservateur luReservateur)
          (livreId.getD .null)
          (.response ⟨404, .object [("message", .str "Livre not found")]⟩)
          fun luLivre livre =>
        .ecriture
          (Ressource.reservations.modifiant base reservation data
            (fun row => relire .livre reservation livre
              (relire .reservateur reservation reservateur row luReservateur) luLivre)
            fun _ => ⟨dateResa, livre, reservateur⟩)
          fun _ => ⟨200, .object [("message", .str "Reservation updated")]⟩

end ReservationsController

namespace AdherentController

def updateSteps (runtime : Runtime) (id : ℕ) (data : Value) : Tache :=
  .trouver runtime Tables.utilisateur (.int id)
    ⟨404, .object [("message", .str "Adherent not found")]⟩ fun base adherent =>
  .siPresent (data.field "dateAdhesion") (parseDate runtime DateTime.dmY) fun dateAdhesion =>
  .siPresent (data.field "nom") Value.toString fun nom =>
  .siPresent (data.field "prenom") Value.toString fun prenom =>
  .siPresent (data.field "dateNaiss") (parseDate runtime DateTime.dmy) fun dateNaiss =>
  .siPresent (data.field "email") Value.toString fun email =>
  .siPresent (data.field "adressePostale") Value.toString fun adressePostale =>
  .siPresent (data.field "numTel") runtime.toInt fun numTel =>
  .siPresent (data.field "photo") Value.toString fun photo =>
  .siPresent (data.field "roles") Value.toArray fun roles =>
  .siPresent (data.field "password") Value.toString fun password =>
  .ecriture
    (Ressource.adherent.modifiant base adherent data (fun row => row) fun row => {
      email := email.getD row.email
      roles := roles.getD row.roles
      password := password.getD row.password
      dateAdhesion := dateAdhesion.getD row.dateAdhesion
      nom := nom.getD row.nom
      prenom := prenom.getD row.prenom
      dateNaiss := dateNaiss.getD row.dateNaiss
      adressePostale := adressePostale.getD row.adressePostale
      numTel := numTel.getD row.numTel
      photo := (photo.map some).getD row.photo })
    fun _ => ⟨200, .object [("message", .str "Adherent updated")]⟩

end AdherentController

namespace Ressource

/-- `PUT` of one row. -/
def update (id : ℕ) (data : Value) : Ressource → Requete
  | livre => .livreUpdate id data
  | categorie => .categorieUpdate id data
  | auteur => .auteurUpdate id data
  | emprunt => .empruntUpdate id data
  | reservations => .reservationsUpdate id data
  | adherent => .adherentUpdate id data

def updateSteps (runtime : Runtime) (id : ℕ) (data : Value) : Ressource → Tache
  | livre => LivreController.updateSteps runtime id data
  | categorie => CategorieController.updateSteps runtime id data
  | auteur => AuteurController.updateSteps runtime id data
  | emprunt => EmpruntController.updateSteps runtime id data
  | reservations => ReservationsController.updateTache runtime id data
  | adherent => AdherentController.updateSteps runtime id data

end Ressource

/-- A request of one of many clients. -/
inductive Client where
  | ecrire (commande : Commande)
  | creerAuteur (data : Value)
  | modifier (ressource : Ressource) (id : ℕ) (data : Value)

namespace Client

def requete : Client → Requete
  | ecrire commande => commande.requete
  | creerAuteur data => .auteurCreate data
  | modifier ressource id data => ressource.update id data

def steps (runtime : Runtime) : Client → Processus
  | ecrire commande => commande.steps runtime
  | creerAuteur data => .tache (AuteurController.createSteps runtime data)
  | modifier ressource id data => .tache (ressource.updateSteps runtime id data)

end Client

/-! ## The steps are those of the handlers -/

/-- The number of the linked row is that of a row in use. -/
theorem Table.mem_ids_of_lie {Row : Type} {table : Table Row} {number lie : ℕ}
    {column : Row → ℕ} {ids : List ℕ} (hvalid : ∀ row ∈ table.rows, column row.2 ∈ ids)
    (hlie : lie ∈ (table.find number).toList.map column) : lie ∈ ids := by
  obtain ⟨row, hrow, rfl⟩ := List.mem_map.mp hlie
  exact hvalid _ ((Table.find_eq_some_iff _ _ _).mp (Option.mem_toList.mp hrow))

namespace Client

open Commande Operation

section Alone

variable {runtime : Runtime} {base : Base} {session : Session}

/-! ### The setters -/

section Setters

variable {ressource : Ressource} {id : ℕ}

/-- A setter of a managed row. -/
def setter : (ressource : Ressource) → ℕ → (ressource.Contenu → ressource.Contenu) →
    Action Unit
  | .livre => setLivre
  | .categorie => setCategorie
  | .auteur => setAuteur
  | .emprunt => setEmprunt
  | .reservations => setReservations
  | .adherent => setUtilisateur

/-- The session of a handler after setters of one row. -/
def reglant (base : Base) (ressource : Ressource) (id : ℕ)
    (rewrite : ressource.Contenu → ressource.Contenu) : Session :=
  { Session.start base with
    managed := ressource.set base.toTables
      ((ressource.table base.toTables).modify id rewrite) }

theorem reglant_id : reglant base ressource id (fun row => row) = Session.start base := by
  rw [reglant, Table.modify_id]
  cases ressource <;> rfl

theorem setter_reglant (before rewrite : ressource.Contenu → ressource.Contenu) :
    setter ressource id rewrite (reglant base ressource id before) =
      .ok () (reglant base ressource id (rewrite ∘ before)) := by
  rw [reglant, reglant, ← Table.modify_modify]
  cases ressource <;> rfl

theorem conclure_set {before rewrite : ressource.Contenu → ressource.Contenu}
    {next : Unit → Action Response} :
    conclure ((setter ressource id rewrite >>= next) (reglant base ressource id before)) =
      conclure (next () (reglant base ressource id (rewrite ∘ before))) := by
  simp only [bind, EStateM.bind, setter_reglant]

/-- A setter that only runs when the key is present; `step` is what it makes of the
row. -/
theorem conclure_setter {Out : Type} {value : Option Value}
    {read : Value → Except Throwable Out} {set : Out → Action Unit}
    {before : ressource.Contenu → ressource.Contenu} {next : Unit → Action Response}
    {suite : Option Out → Tache}
    (step : Option Out → ressource.Contenu → ressource.Contenu)
    (hnone : step none = fun row => row)
    (hset : ∀ out, set out = setter ressource id (step (some out)))
    (hnext : ∀ out, conclure (next () (reglant base ressource id (step out ∘ before))) =
      (suite out).seule base) :
    conclure (((ifSet value fun given => Action.php (read given) >>= set) >>= next)
        (reglant base ressource id before)) =
      (Tache.siPresent value read suite).seule base := by
  cases value with
  | none =>
      have hend := hnext none
      rw [hnone] at hend
      exact hend
  | some given =>
      rw [Tache.siPresent, ifSet, bind_assoc]
      refine @conclure_php base _ _ _ _ _ rfl fun out => ?_
      calc conclure ((set out >>= next) (reglant base ressource id before))
        _ = conclure (next () (reglant base ressource id (step (some out) ∘ before))) := by
            rw [hset out, conclure_set]
        _ = (suite (some out)).seule base := hnext (some out)

/-! ### The flush -/

theorem conclure_flush_of_commit {other : Session} {after : Unit → Action Response}
    (hcommit : session.commit = other.commit) (hbase : session.base = other.base)
    (hpersisted : session.persisted = none) (hother : other.persisted = none) :
    conclure ((flush >>= after) session) = conclure ((flush >>= after) other) := by
  have hrolled : session.rolledBack = other.rolledBack := by
    rw [Session.rolledBack_of_not_persisted hpersisted,
      Session.rolledBack_of_not_persisted hother, hbase]
  simp only [bind, EStateM.bind, flush, hcommit]
  cases other.commit with
  | error throwable => simp only [conclure, hbase]
  | ok result =>
      obtain ⟨tables, fresh⟩ := result
      by_cases hvalid : tables.store.Valid
      · simp only [dif_pos hvalid]
      · simp only [dif_neg hvalid, conclure, hrolled]

/-- If nobody else wrote in between, the comparison makes no difference. -/
theorem write_modifiant_self {data : Value} {relu rewrite : ressource.Contenu → ressource.Contenu}
    (hrelu : ∀ row, (ressource.table base.toTables).find id = some row → relu row = row) :
    Tables.write (ressource.modifiant base id data relu rewrite).loaded
        (ressource.modifiant base id data relu rewrite).managed base.toTables =
      Tables.write base.toTables (reglant base ressource id rewrite).managed base.toTables := by
  cases hold : (ressource.table base.toTables).find id with
  | none =>
      have hsame : ∀ change : ressource.Contenu → ressource.Contenu, ressource.set base.toTables
          ((ressource.table base.toTables).modify id change) = base.toTables := by
        intro change
        rw [Table.modify_eq_self_iff.mpr (fun row hrow => nomatch hold.symm.trans hrow),
          Ressource.set_table]
      simp only [Ressource.modifiant, reglant, hsame]
  | some old =>
      have hsame : (ressource.table base.toTables).modify id (ressource.ecrit data (relu old)
          (rewrite old)) = (ressource.table base.toTables).modify id
            (ressource.write old (rewrite old)) := by
        refine Table.modify_congr fun row hrow => ?_
        cases hold.symm.trans hrow
        rw [hrelu old hold, Ressource.ecrit_loaded, Ressource.write_loaded]
      have hplain := Ressource.write_set base.toTables base.toTables hold (fun row => row) rewrite
      rw [Table.modify_id, Ressource.set_table] at hplain
      simp only [Ressource.modifiant, reglant]
      rw [Ressource.write_set base.toTables base.toTables hold, hplain]
      exact congrArg (ressource.set base.toTables) hsame

theorem conclure_flush_reglant {data : Value}
    {relu rewrite : ressource.Contenu → ressource.Contenu}
    {after : Unit → Action Response} {answer : Session → Response}
    (hrelu : ∀ row, (ressource.table base.toTables).find id = some row → relu row = row)
    (hafter : ∀ final, after () final = .ok (answer final) final) :
    conclure ((flush >>= after) (reglant base ressource id rewrite)) =
      (Tache.ecriture (ressource.modifiant base id data relu rewrite) answer).seule base := by
  have hliens : ∀ session : Session, session.liens = session.loaded.liens →
      session.newLinks 0 = [] := fun _ hliens => Session.newLinks_eq_nil hliens 0
  have hloaded : (ressource.modifiant base id data relu rewrite).liens =
      (ressource.modifiant base id data relu rewrite).loaded.liens := by
    cases ressource <;> rfl
  have hcommit : (reglant base ressource id rewrite).commit =
      (ressource.modifiant base id data relu rewrite).commit := by
    rw [Session.commit_update rfl rfl, Session.commit_update rfl rfl, Session.updated,
      Session.updated, hliens _ rfl, hliens _ hloaded]
    have hwrite := @write_modifiant_self base ressource id data relu rewrite hrelu
    simp only [List.append_nil]
    exact congrArg (fun written => Except.ok (written, 0)) hwrite.symm
  rw [conclure_flush_of_commit hcommit rfl rfl rfl]
  exact conclure_flush rfl hafter

end Setters

/-! ### The handlers -/

theorem serve_categorieUpdate (id : ℕ) (data : Value) :
    serve (CategorieController.update runtime id data) base =
      (CategorieController.updateSteps runtime id data).seule base := by
  refine serve_find (fun categorie => ?_) rfl
  rw [serve_eq_conclure, ← @reglant_id base .categorie categorie]
  refine conclure_setter (fun nom row => { row with nom := nom.getD row.nom }) rfl
    (fun _ => rfl) fun nom => ?_
  refine conclure_setter
    (fun description row => { row with description := description.getD row.description }) rfl
    (fun _ => rfl) fun description => ?_
  exact conclure_flush_reglant (fun _ _ => rfl) fun _ => rfl

/-- The loop over the books as a call into PHP. -/
theorem foreach_undefinedRepository (livres : Value) :
    foreach runtime livres AuteurController.undefinedRepository =
      Action.php (AuteurController.parcourir runtime livres) := by
  unfold foreach AuteurController.parcourir
  cases livres.elements with
  | none => cases runtime.debug <;> rfl
  | some items => cases items <;> rfl

theorem serve_auteurUpdate (id : ℕ) (data : Value) :
    serve (AuteurController.update runtime id data) base =
      (AuteurController.updateSteps runtime id data).seule base := by
  refine serve_find (fun auteur => ?_) rfl
  dsimp only
  rw [foreach_undefinedRepository]
  simp only [AuteurController.readDate_eq]
  refine serve_php fun _ => ?_
  rw [serve_eq_conclure, ← @reglant_id base .auteur auteur]
  refine conclure_setter (fun nom row => { row with nom := nom.getD row.nom }) rfl
    (fun _ => rfl) fun nom => ?_
  refine conclure_setter (fun prenom row => { row with prenom := prenom.getD row.prenom })
    rfl (fun _ => rfl) fun prenom => ?_
  refine conclure_setter
    (fun dateNaiss row => { row with dateNaiss := dateNaiss.getD row.dateNaiss }) rfl
    (fun _ => rfl) fun dateNaiss => ?_
  refine conclure_setter
    (fun dateDeces row => { row with dateDeces := (dateDeces.map some).getD row.dateDeces })
    rfl (fun _ => rfl) fun dateDeces => ?_
  refine conclure_setter
    (fun nationalite row => { row with nationalite := nationalite.getD row.nationalite }) rfl
    (fun _ => rfl) fun nationalite => ?_
  refine conclure_setter (fun photo row => { row with photo := (photo.map some).getD row.photo })
    rfl (fun _ => rfl) fun photo => ?_
  refine conclure_setter
    (fun description row => { row with description := description.getD row.description }) rfl
    (fun _ => rfl) fun description => ?_
  exact conclure_flush_reglant (fun _ _ => rfl) fun _ => rfl

theorem serve_adherentUpdate (id : ℕ) (data : Value) :
    serve (AdherentController.update runtime id data) base =
      (AdherentController.updateSteps runtime id data).seule base := by
  refine serve_find (fun adherent => ?_) rfl
  simp only [AdherentController.readDate_eq]
  rw [serve_eq_conclure, ← @reglant_id base .adherent adherent]
  refine conclure_setter
    (fun dateAdhesion row => { row with dateAdhesion := dateAdhesion.getD row.dateAdhesion })
    rfl (fun _ => rfl) fun dateAdhesion => ?_
  refine conclure_setter (fun nom row => { row with nom := nom.getD row.nom }) rfl
    (fun _ => rfl) fun nom => ?_
  refine conclure_setter (fun prenom row => { row with prenom := prenom.getD row.prenom })
    rfl (fun _ => rfl) fun prenom => ?_
  refine conclure_setter
    (fun dateNaiss row => { row with dateNaiss := dateNaiss.getD row.dateNaiss }) rfl
    (fun _ => rfl) fun dateNaiss => ?_
  refine conclure_setter (fun email row => { row with email := email.getD row.email }) rfl
    (fun _ => rfl) fun email => ?_
  refine conclure_setter (fun adressePostale row =>
      { row with adressePostale := adressePostale.getD row.adressePostale }) rfl
    (fun _ => rfl) fun adressePostale => ?_
  refine conclure_setter (fun numTel row => { row with numTel := numTel.getD row.numTel })
    rfl (fun _ => rfl) fun numTel => ?_
  refine conclure_setter (fun photo row => { row with photo := (photo.map some).getD row.photo })
    rfl (fun _ => rfl) fun photo => ?_
  refine conclure_setter (fun roles row => { row with roles := roles.getD row.roles }) rfl
    (fun _ => rfl) fun roles => ?_
  refine conclure_setter
    (fun password row => { row with password := password.getD row.password }) rfl
    (fun _ => rfl) fun password => ?_
  exact conclure_flush_reglant (fun _ _ => rfl) fun _ => rfl

theorem serve_empruntUpdate (id : ℕ) (data : Value) :
    serve (EmpruntController.update runtime id data) base =
      (EmpruntController.updateSteps runtime id data).seule base := by
  refine serve_find (fun emprunt => ?_) rfl
  simp only [EmpruntController.readBody, bind_assoc]
  rw [serve_answerIf]
  split
  · rfl
  · refine serve_php fun dateEmprunt => serve_php fun dateRetour => ?_
    cases dateEmprunt with
    | none => rfl
    | some dateEmprunt =>
        cases dateRetour with
        | none => rfl
        | some dateRetour =>
            rw [serve_eq_conclure]
            refine conclure_rechercher rfl rfl (fun emprunteur hconnu => ?_)
              fun emprunteur lu hemprunteur hlu => ?_
            · exact Table.mem_ids_of_lie base.valid.emprunt_emprunteur hconnu
            refine conclure_rechercher rfl rfl (fun livre hconnu => ?_) fun livre _ _ _ => ?_
            · rcases List.mem_append.mp hconnu with hown | hjoint
              · exact Table.mem_ids_of_lie base.valid.emprunt_livre hown
              · obtain ⟨other, hother, hjoint⟩ := List.mem_flatMap.mp hjoint
                cases hlu other (Option.mem_toList.mp hother)
                obtain ⟨number, -, hmember⟩ := List.mem_flatMap.mp hjoint
                exact Base.livre_of_mem_joints hmember
            cases emprunteur with
            | none => rfl
            | some emprunteur =>
                cases livre with
                | none => rfl
                | some livre =>
                    rw [← @reglant_id base .emprunt emprunt]
                    dsimp only
                    refine (@conclure_set base .emprunt emprunt _ _ _).trans ?_
                    refine (@conclure_set base .emprunt emprunt _ _ _).trans ?_
                    refine (@conclure_set base .emprunt emprunt _ _ _).trans ?_
                    refine (@conclure_set base .emprunt emprunt _ _ _).trans ?_
                    exact conclure_flush_reglant (fun _ _ => rfl) fun _ => rfl

theorem relire_self {bout : Bout} {reservation number : ℕ} {row : Reservations}
    (hrow : base.reservations.find reservation = some row) {lu : Option Base}
    (hlu : ∀ other ∈ lu, other = base) :
    ReservationsController.relire bout reservation number row lu = row := by
  cases lu with
  | none => rfl
  | some other =>
      cases hlu other rfl
      rw [ReservationsController.relire]
      split
      · rename_i hjointe
        obtain ⟨joint, hjoint, hsame⟩ := (Option.any_eq_true _ _).mp hjointe
        obtain ⟨hstored, rfl⟩ := Bout.jointe_mem hjoint
        have hfound := (Table.find_eq_some_iff _ _ _).mpr hstored
        rw [of_decide_eq_true hsame, hrow] at hfound
        rw [← Option.some.inj hfound, Bout.relie_de]
      · rfl

theorem serve_reservationsUpdate (id : ℕ) (data : Value) :
    serve (ReservationsController.update runtime id data) base =
      (ReservationsController.updateTache runtime id data).seule base := by
  refine serve_find (fun reservation => ?_) rfl
  unfold ReservationsController.readBody
  simp only [bind_assoc]
  rw [serve_answerIf]
  split
  · rfl
  · refine serve_php fun dateResa => ?_
    cases dateResa with
    | none => rfl
    | some dateResa =>
        simp only [bind_assoc]
        rw [serve_eq_conclure]
        refine conclure_obtenir rfl rfl (fun reservateur hconnu => ?_)
          (fun reservateur luReservateur _ hluReservateur => ?_) rfl
        · exact Table.mem_ids_of_lie base.valid.reservations_reservateur hconnu
        simp only [bind_assoc]
        refine conclure_obtenir rfl rfl (fun livre hconnu => ?_)
          (fun livre luLivre _ hluLivre => ?_) rfl
        · rcases List.mem_append.mp hconnu with hown | hjoint
          · exact Table.mem_ids_of_lie base.valid.reservations_livre hown
          · cases luReservateur with
            | none => cases hjoint
            | some other =>
                cases hluReservateur other rfl
                obtain ⟨row, hrow, rfl⟩ := List.mem_map.mp hjoint
                have hjointe := (Option.filter_eq_some_iff.mp (Option.mem_toList.mp hrow)).1
                exact base.valid.reservations_livre _ (Bout.jointe_mem hjointe).1
        rw [← @reglant_id base .reservations reservation]
        simp only [pure_bind]
        refine (@conclure_set base .reservations reservation _ _ _).trans ?_
        refine (@conclure_set base .reservations reservation _ _ _).trans ?_
        refine (@conclure_set base .reservations reservation _ _ _).trans ?_
        refine @conclure_flush_reglant base .reservations reservation data _ _ _ _
          (fun row hrow => ?_) fun _ => rfl
        rw [relire_self hrow hluReservateur, relire_self hrow hluLivre]

/-! ### Books -/

section Livre

variable {id : ℕ} {data : Value} {rewrite : Livre → Livre} {answer : Session → Response}

/-- An unknown category or author ends the request with an error. -/
theorem conclure_notFoundConstant {next : Unit → Action Response} (hbase : session.base = base) :
    conclure ((LivreController.notFoundConstant >>= next) session) =
      (.thrown LivreController.classNotFound, base) := by
  subst hbase
  rfl

/-- The session of `update` within the loop. -/
def liantReglant (base : Base) (id : ℕ) (rewrite : Livre → Livre) (auteurs : List ℕ) : Session :=
  { reglant base .livre id rewrite with
    liens := LivreController.addAuteurs (.managed id) auteurs base.liens }

theorem conclure_flush_liantReglant {auteurs : List ℕ} {after : Unit → Action Response}
    (hafter : ∀ final, after () final = .ok (answer final) final) :
    conclure ((flush >>= after) (liantReglant base id rewrite auteurs)) =
      (Tache.ecriture (LivreController.liant base base id data rewrite auteurs)
        answer).seule base := by
  have hwrite := @write_modifiant_self base .livre id data (fun row => row) rewrite fun _ _ => rfl
  have hcommit : (liantReglant base id rewrite auteurs).commit =
      (LivreController.liant base base id data rewrite auteurs).commit := by
    rw [Session.commit_update rfl rfl, Session.commit_update rfl rfl, Session.updated,
      Session.updated]
    exact congrArg (fun written : Tables => Except.ok ({ written with
      livreAuteur := written.livreAuteur ++
        (liantReglant base id rewrite auteurs).newLinks 0 }, 0)) hwrite.symm
  rw [conclure_flush_of_commit hcommit rfl rfl rfl]
  exact conclure_flush rfl hafter

theorem conclure_lierSteps {next : Unit → Action Response} {suite : List ℕ → Tache}
    {collection : List ℕ} (hcollection : ∀ auteur ∈ collection, auteur ∈ base.auteur.ids)
    (hnext : ∀ auteurs, conclure (next () (liantReglant base id rewrite auteurs)) =
      (suite auteurs).seule base) :
    ∀ (items : List Value) (auteurs : List ℕ), (∀ auteur ∈ auteurs, auteur ∈ base.auteur.ids) →
      conclure ((items.forM (LivreController.linkAuteur runtime (.managed id)
          LivreController.notFoundConstant) >>= next) (liantReglant base id rewrite auteurs)) =
        (LivreController.lierSteps runtime collection suite items auteurs).seule base := by
  intro items
  induction items with
  | nil => exact fun auteurs _ => hnext auteurs
  | cons item items ih =>
      intro auteurs hauteurs
      have hloop : ((item :: items).forM (LivreController.linkAuteur runtime (.managed id)
          LivreController.notFoundConstant) >>= next) = _ :=
        (bind_assoc (LivreController.linkAuteur runtime (.managed id) _ item) _ _).trans
          (bind_assoc (find runtime Tables.auteur item) _ _)
      rw [hloop, LivreController.lierSteps]
      refine conclure_obtenir rfl rfl (List.forall_mem_append.mpr ⟨hcollection, hauteurs⟩)
        (fun auteur _ hauteur _ => ?_) (conclure_notFoundConstant rfl)
      have hlinked : liantReglant base id rewrite (auteurs ++ [auteur]) =
          { liantReglant base id rewrite auteurs with
            liens := (liantReglant base id rewrite auteurs).liens.addAuteur
              (.managed id) (.managed auteur) } := by
        simp [liantReglant, LivreController.addAuteurs]
      rw [← ih (auteurs ++ [auteur]) (List.forall_mem_append.mpr
        ⟨hauteurs, by simpa using hauteur⟩), hlinked]
      rfl

theorem conclure_collectionSteps {next : Unit → Action Response}
    {suite : Base → List ℕ → Tache}
    (hnext : ∀ auteurs, conclure (next () (liantReglant base id rewrite auteurs)) =
      (suite base auteurs).seule base) (items : List Value) :
    conclure ((items.forM (LivreController.linkAuteur runtime (.managed id)
        LivreController.notFoundConstant) >>= next) (liantReglant base id rewrite [])) =
      (LivreController.collectionSteps runtime base id suite items).seule base := by
  cases items with
  | nil => exact hnext []
  | cons item items =>
      have hloop : ((item :: items).forM (LivreController.linkAuteur runtime (.managed id)
          LivreController.notFoundConstant) >>= next) = _ :=
        (bind_assoc (LivreController.linkAuteur runtime (.managed id) _ item) _ _).trans
          (bind_assoc (find runtime Tables.auteur item) _ _)
      rw [hloop, LivreController.collectionSteps]
      refine conclure_obtenir rfl rfl (fun _ hauteur => absurd hauteur List.not_mem_nil)
        (fun auteur _ hauteur _ => ?_) (conclure_notFoundConstant rfl)
      refine conclure_lierSteps (fun linked hlinked => ?_) hnext items [auteur]
        (by simpa using hauteur)
      obtain ⟨link, hlink, rfl⟩ := List.mem_map.mp hlinked
      exact base.valid.livreAuteur_auteur link (List.mem_of_mem_filter hlink)

theorem conclure_categorieSteps {next : Unit → Action Response}
    {suite : Option ℕ → Tache}
    (hnext : ∀ categorie : Option ℕ, conclure (next ()
        (reglant base .livre id fun row =>
          { rewrite row with categorie := categorie.getD (rewrite row).categorie })) =
      (suite categorie).seule base) :
    conclure ((ifSet (data.field "categorieId") (LivreController.changeCategorie runtime id) >>=
        next) (reglant base .livre id rewrite)) =
      (LivreController.categorieSteps runtime base id data suite).seule base := by
  unfold LivreController.categorieSteps
  cases data.field "categorieId" with
  | none => exact hnext none
  | some categorieId =>
      rw [ifSet, LivreController.changeCategorie, bind_assoc]
      refine conclure_obtenir rfl rfl (fun categorie hconnu => ?_) (fun categorie _ _ _ => ?_)
        (conclure_notFoundConstant rfl)
      · exact Table.mem_ids_of_lie base.valid.livre_categorie hconnu
      · exact (@conclure_set base .livre id _ _ _).trans (hnext (some categorie))

theorem conclure_auteurIdsSteps {next : Unit → Action Response}
    {suite : Base → List ℕ → Tache}
    (hnext : ∀ auteurs, conclure (next () (liantReglant base id rewrite auteurs)) =
      (suite base auteurs).seule base) :
    conclure ((ifSet (data.field "auteurIds") (fun auteurIds => foreach runtime auteurIds
        (LivreController.linkAuteur runtime (.managed id) LivreController.notFoundConstant)) >>=
          next) (reglant base .livre id rewrite)) =
      (LivreController.auteurIdsSteps runtime base id data suite).seule base := by
  unfold LivreController.auteurIdsSteps
  cases data.field "auteurIds" with
  | none => exact hnext []
  | some auteurIds =>
      rw [ifSet, foreach]
      dsimp only
      cases auteurIds.elements with
      | some items => exact conclure_collectionSteps hnext items
      | none =>
          dsimp only
          split
          · rfl
          · exact hnext []

theorem serve_livreUpdate (data : Value) :
    serve (LivreController.update runtime id data) base =
      (LivreController.updateSteps runtime id data).seule base := by
  unfold LivreController.update LivreController.updateFields
  simp only [bind_assoc]
  refine serve_find (fun livre => ?_) rfl
  simp only [bind_assoc]
  rw [serve_eq_conclure, ← @reglant_id base .livre livre]
  refine conclure_setter (fun titre row => { row with titre := titre.getD row.titre }) rfl
    (fun _ => rfl) fun titre => ?_
  refine conclure_setter
    (fun dateSortie row => { row with dateSortie := dateSortie.getD row.dateSortie }) rfl
    (fun _ => rfl) fun dateSortie => ?_
  refine conclure_setter (fun langue row => { row with langue := langue.getD row.langue }) rfl
    (fun _ => rfl) fun langue => ?_
  refine conclure_setter (fun photoCouverture row =>
      { row with photoCouverture := (photoCouverture.map some).getD row.photoCouverture }) rfl
    (fun _ => rfl) fun photoCouverture => ?_
  refine conclure_categorieSteps fun categorie => ?_
  refine conclure_auteurIdsSteps fun auteurs => ?_
  exact conclure_flush_liantReglant fun _ => rfl

end Livre

/-- Alone, the steps of an update do what its handler does. -/
theorem executer_update (ressource : Ressource) (id : ℕ) (data : Value) :
    (ressource.update id data).executer runtime base =
      (ressource.updateSteps runtime id data).seule base := by
  cases ressource with
  | livre => exact serve_livreUpdate data
  | categorie => exact serve_categorieUpdate id data
  | auteur => exact serve_auteurUpdate id data
  | emprunt => exact serve_empruntUpdate id data
  | reservations => exact serve_reservationsUpdate id data
  | adherent => exact serve_adherentUpdate id data

end Alone

/-- Alone, the steps of a request do what its handler does. -/
theorem finit_steps (runtime : Runtime) (client : Client) (base : Base) :
    (client.steps runtime).Finit base (client.requete.executer runtime base) := by
  cases client with
  | ecrire commande => exact commande.finit_steps runtime base
  | creerAuteur data =>
      have halone : (requete (.creerAuteur data)).executer runtime base =
          (AuteurController.createSteps runtime data).seule base :=
        AuteurController.serve_auteurCreate data
      rw [halone]
      exact Processus.finit_tache _ base
  | modifier ressource id data =>
      have halone : (requete (.modifier ressource id data)).executer runtime base =
          (ressource.updateSteps runtime id data).seule base := executer_update ressource id data
      rw [halone]
      exact Processus.finit_tache _ base

end Client

end Bibliotheque
