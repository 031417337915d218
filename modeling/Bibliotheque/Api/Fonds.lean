import Bibliotheque.Core.Archive
import Bibliotheque.Api.CategorieRequests
import Bibliotheque.Api.Deletion
import Bibliotheque.Api.LivreCreation

/-!
# The library apart from its storage

What the application is for: files about books, categories, authors, loans,
reservations and users under numbers that are given out once, and who wrote
which book.  A request that is accepted makes one entry in this archive, which
depends only on the request, the number in its answer and the archive itself.
The database, its change sets, cascades and deletion order refine that picture.
-/

namespace Bibliotheque

open Program Bibliotheque.Action Relation

deriving instance DecidableEq for Ressource

namespace Ressource

abbrev Contenu : Ressource → Type
  | livre => Livre
  | categorie => Categorie
  | auteur => Auteur
  | emprunt => Emprunt
  | reservations => Reservations
  | adherent => Utilisateur

def table (tables : Tables) : (ressource : Ressource) → Table ressource.Contenu
  | livre => tables.livre
  | categorie => tables.categorie
  | auteur => tables.auteur
  | emprunt => tables.emprunt
  | reservations => tables.reservations
  | adherent => tables.utilisateur

/-- The content with another table for one resource. -/
def set (tables : Tables) : (ressource : Ressource) → Table ressource.Contenu → Tables
  | livre, table => { tables with livre := table }
  | categorie, table => { tables with categorie := table }
  | auteur, table => { tables with auteur := table }
  | emprunt, table => { tables with emprunt := table }
  | reservations, table => { tables with reservations := table }
  | adherent, table => { tables with utilisateur := table }

theorem table_set_self (tables : Tables) (ressource : Ressource)
    (table : Table ressource.Contenu) :
    ressource.table (ressource.set tables table) = table := by
  cases ressource <;> rfl

theorem table_set_of_ne (tables : Tables) {ressource other : Ressource}
    (hother : other ≠ ressource) (table : Table ressource.Contenu) :
    other.table (ressource.set tables table) = other.table tables := by
  cases ressource <;> cases other <;> first | rfl | exact absurd rfl hother

/-- The links are in no table of a resource. -/
theorem table_livreAuteur (tables : Tables) (liens : List (ℕ × ℕ)) (ressource : Ressource) :
    ressource.table { tables with livreAuteur := liens } = ressource.table tables := by
  cases ressource <;> rfl

def ligne : Ressource → ℕ → Ligne
  | livre => .livre
  | categorie => .categorie
  | auteur => .auteur
  | emprunt => .emprunt
  | reservations => .reservations
  | adherent => .utilisateur

/-- `DELETE` of one row. -/
def delete (id : ℕ) : Ressource → Requete
  | livre => .livreDelete id
  | categorie => .categorieDelete id
  | auteur => .auteurDelete id
  | emprunt => .empruntDelete id
  | reservations => .reservationsDelete id
  | adherent => .adherentDelete id

theorem deletion_ligne (ressource : Ressource) (id : ℕ) :
    (ressource.ligne id).deletion = some (ressource.delete id) := by
  cases ressource <;> rfl

theorem mem_lignes_ligne (tables : Tables) (ressource : Ressource) (id : ℕ) :
    ressource.ligne id ∈ tables.lignes ↔ id ∈ (ressource.table tables).ids := by
  cases ressource <;> simp [ligne, table]

theorem ligne_injective {left right : Ressource} {id number : ℕ}
    (hligne : left.ligne id = right.ligne number) : left = right ∧ id = number := by
  cases left <;> cases right <;> simp_all [ligne]

theorem isEntity_ligne (ressource : Ressource) (id : ℕ) :
    (ressource.ligne id).isEntity = true := by
  cases ressource <;> rfl

theorem exists_ligne_of_isEntity {ligne : Ligne} (hentity : ligne.isEntity = true) :
    ∃ (ressource : Ressource) (id : ℕ), ligne = ressource.ligne id := by
  cases ligne with
  | livreAuteur livre auteur => cases hentity
  | livre id => exact ⟨livre, id, rfl⟩
  | auteur id => exact ⟨auteur, id, rfl⟩
  | categorie id => exact ⟨categorie, id, rfl⟩
  | emprunt id => exact ⟨emprunt, id, rfl⟩
  | reservations id => exact ⟨reservations, id, rfl⟩
  | utilisateur id => exact ⟨adherent, id, rfl⟩

end Ressource

/-! ## The abstract library -/

/-- The files of the library; the links tell who wrote which book. -/
abbrev Fonds := Archive Ressource.Contenu ℕ .livre .auteur

abbrev Inscription := Archive.Entry Ressource.Contenu ℕ

namespace Fonds

/-- A file that leaves takes the next one along: a loan or a reservation leaves
with its book and its user, a book with its category, and the book and the user
of a reservation leave with it. -/
inductive Suit (fonds : Fonds) : Ressource × ℕ → Ressource × ℕ → Prop where
  | emprunt_livre {id emprunt} : fonds.file .emprunt id = some emprunt →
      Suit fonds (.livre, emprunt.livre) (.emprunt, id)
  | emprunt_emprunteur {id emprunt} : fonds.file .emprunt id = some emprunt →
      Suit fonds (.adherent, emprunt.emprunteur) (.emprunt, id)
  | reservation_livre {id reservation} : fonds.file .reservations id = some reservation →
      Suit fonds (.livre, reservation.livre) (.reservations, id)
  | reservation_reservateur {id reservation} :
      fonds.file .reservations id = some reservation →
        Suit fonds (.adherent, reservation.reservateur) (.reservations, id)
  | livre_categorie {id livre} : fonds.file .livre id = some livre →
      Suit fonds (.categorie, livre.categorie) (.livre, id)
  | livre_reserve {id reservation} : fonds.file .reservations id = some reservation →
      Suit fonds (.reservations, id) (.livre, reservation.livre)
  | reservateur {id reservation} : fonds.file .reservations id = some reservation →
      Suit fonds (.reservations, id) (.adherent, reservation.reservateur)

/-- The files that leave when one is removed. -/
def emporte (fonds : Fonds) (ressource : Ressource) (id : ℕ) (other : Ressource) : Set ℕ :=
  {number | ReflTransGen fonds.Suit (ressource, id) (other, number)}

end Fonds

/-! ## What the bodies describe -/

def LivreController.decrit (runtime : Runtime) (data : Value) : Option Livre := do
  return {
    titre := ← received (data.field "titre") Value.toString
    dateSortie := ← received (data.field "dateSortie") runtime.newDateTime
    langue := ← received (data.field "langue") Value.toString
    photoCouverture := received (data.field "photoCouverture") Value.toString
    categorie := ← (received (data.field "categorieId") runtime.rowId).join }

def AuteurController.decrit (data : Value) : Option Auteur := do
  return {
    nom := ← received (data.field "nom") Value.toString
    prenom := ← received (data.field "prenom") Value.toString
    dateNaiss := ← received (data.field "dateNaiss") parseDate
    dateDeces := received (data.field "dateDeces") parseDate
    nationalite := ← received (data.field "nationalite") Value.toString
    photo := received (data.field "photo") Value.toString
    description := ← received (data.field "description") Value.toString }

def EmpruntController.decrit (runtime : Runtime) (data : Value) : Option Emprunt := do
  return {
    dateEmprunt := ← (received (data.field "dateEmprunt")
      (Runtime.createFromFormat DateTime.dmY)).join
    dateRetour := (received (data.field "dateRetour")
      (Runtime.createFromFormat DateTime.dmY)).join
    emprunteur := ← (received (data.field "emprunteurId") runtime.rowId).join
    livre := ← (received (data.field "livreId") runtime.rowId).join }

def ReservationsController.decrit (runtime : Runtime) (data : Value) :
    Option Reservations := do
  return {
    dateResa := ← (received (data.field "dateResa")
      (Runtime.createFromFormat DateTime.dmY)).join
    livre := ← (received (data.field "livreId") runtime.rowId).join
    reservateur := ← (received (data.field "reservateurId") runtime.rowId).join }

section Described

variable {data : Value} {key : String}

theorem Value.Gives.received_eq {Out : Type} {read : Value → Except Throwable Out} {out : Out}
    (hgives : data.Gives key read out) : received (data.field key) read = some out := by
  obtain ⟨given, hgiven, -, hread⟩ := hgives
  simp [received, hgiven, hread, Except.toOption]

theorem received_eq_of_toString {text : String}
    (htext : ((data.field key).getD .null).toString = .ok text) :
    received (data.field key) Value.toString = some text := by
  cases hfield : data.field key with
  | none =>
      rw [hfield] at htext
      cases htext
  | some given =>
      rw [hfield] at htext
      have hread : given.toString = .ok text := htext
      simp [received, hread, Except.toOption]

theorem received_eq_of_toNullableString {text : Option String}
    (htext : Value.toNullableString (data.field key) = .ok text) :
    received (data.field key) Value.toString = text := by
  cases hfield : data.field key with
  | none =>
      rw [hfield] at htext
      cases htext
      rfl
  | some given =>
      rw [hfield] at htext
      cases hread : given.toString with
      | ok found =>
          have hfound : some found = text := by
            simpa [Value.toNullableString, hread, Except.map] using htext
          simp [received, hread, Except.toOption, hfound]
      | error throwable =>
          simp [Value.toNullableString, hread, Except.map] at htext

theorem LivreController.Describes.decrit_eq {runtime : Runtime} {tables : Tables} {row : Livre}
    (hrow : Describes runtime tables data row) : decrit runtime data = some row := by
  simp only [decrit, hrow.titre.received_eq, hrow.dateSortie.received_eq,
    hrow.langue.received_eq, hrow.categorie.received_eq,
    received_eq_of_toNullableString hrow.photoCouverture]
  rfl

theorem AuteurController.Describes.decrit_eq {runtime : Runtime} {row : Auteur}
    (hrow : Describes runtime data row) : decrit data = some row := by
  obtain ⟨given, hgiven, hread⟩ := hrow.dateNaiss
  have hdate : received (data.field "dateNaiss") parseDate = some row.dateNaiss := by
    simp [received, hgiven, hread, Except.toOption]
  simp only [decrit, received_eq_of_toString hrow.nom, received_eq_of_toString hrow.prenom,
    hdate, ← hrow.dateDeces.2, received_eq_of_toString hrow.nationalite,
    received_eq_of_toNullableString hrow.photo, received_eq_of_toString hrow.description]
  rfl

theorem EmpruntController.Describes.decrit_eq {runtime : Runtime} {tables : Tables}
    {row : Emprunt} (hrow : Describes runtime tables data row) :
    decrit runtime data = some row := by
  obtain ⟨date, hdate, hretour⟩ := hrow.dateRetour
  simp only [decrit, hrow.dateEmprunt.received_eq, hretour.received_eq,
    hrow.emprunteur.received_eq, hrow.livre.received_eq]
  cases row
  cases hdate
  rfl

theorem ReservationsController.Describes.decrit_eq {runtime : Runtime} {tables : Tables}
    {row : Reservations} (hrow : Describes runtime tables data row) :
    decrit runtime data = some row := by
  have hreceived : ∀ {Out : Type} {key : String} {read : Value → Except Throwable Out}
      {out : Out}, (∃ given, data.field key = some given ∧ read given = .ok out) →
        received (data.field key) read = some out := by
    rintro Out key read out ⟨given, hgiven, hread⟩
    simp [received, hgiven, hread, Except.toOption]
  simp only [decrit, hreceived hrow.dateResa, hreceived hrow.livre,
    hreceived hrow.reservateur]
  rfl

end Described

/-! ## The entry of a request -/

/-- What the columns of a row keep of its content. -/
def Ressource.store : (ressource : Ressource) → ressource.Contenu → ressource.Contenu
  | livre => Livre.store
  | categorie => Categorie.store
  | auteur => Auteur.store
  | emprunt | reservations => id
  | adherent => Utilisateur.store

/-- What the setters of an update make of its row. -/
def Ressource.reecrit (runtime : Runtime) (data : Value) :
    (ressource : Ressource) → ressource.Contenu → ressource.Contenu
  | livre => (LivreController.sent runtime data).onRow
  | categorie => CategorieController.onRow data
  | auteur => AuteurController.onRow data
  | emprunt => (EmpruntController.decrit runtime data).getD
  | reservations => (ReservationsController.decrit runtime data).getD
  | adherent => AdherentController.rewritten runtime data

/-- What an accepted update makes of its row. -/
def Ressource.enregistre (runtime : Runtime) (data : Value) (ressource : Ressource) :
    ressource.Contenu → ressource.Contenu :=
  ressource.store ∘ ressource.reecrit runtime data

namespace Requete

/-- The entry an accepted request makes under the number of its answer. -/
def inscription (runtime : Runtime) (fonds : Fonds) (numero : ℕ) :
    Requete → Option Inscription
  | livreCreate data => do
      let livre ← LivreController.decrit runtime data
      return .add .livre numero livre.store
        {link | link.1 = numero ∧ LivreController.Names runtime data link.2}
  | livreUpdate id data =>
      some (.change .livre id (Ressource.livre.enregistre runtime data)
        {link | link.1 = id ∧ LivreController.Names runtime data link.2})
  | livreDelete id => some (.remove (fonds.emporte .livre id))
  | auteurCreate data => do
      let auteur ← AuteurController.decrit data
      return .add .auteur numero auteur.store
        {link | link.2 = numero ∧ (fonds.file .livre link.1).isSome ∧
          ∃ item ∈ AuteurController.livreIds data, runtime.rowId item = .ok (some link.1)}
  | auteurUpdate id data => some (.change .auteur id (Ressource.auteur.enregistre runtime data) ∅)
  | auteurDelete id => some (.remove (fonds.emporte .auteur id))
  | categorieCreate data => do
      let categorie ← CategorieController.decrit data
      return .add .categorie numero categorie.store ∅
  | categorieUpdate id data =>
      some (.change .categorie id (Ressource.categorie.enregistre runtime data) ∅)
  | categorieDelete id => some (.remove (fonds.emporte .categorie id))
  | empruntCreate data => do
      let emprunt ← EmpruntController.decrit runtime data
      return .add .emprunt numero emprunt ∅
  | empruntUpdate (.ofNat id) data =>
      some (.change .emprunt id (Ressource.emprunt.enregistre runtime data) ∅)
  | empruntDelete (.ofNat id) => some (.remove (fonds.emporte .emprunt id))
  | reservationsCreate data => do
      let reservation ← ReservationsController.decrit runtime data
      return .add .reservations numero reservation ∅
  | reservationsUpdate id data =>
      some (.change .reservations id (Ressource.reservations.enregistre runtime data) ∅)
  | reservationsDelete id => some (.remove (fonds.emporte .reservations id))
  | adherentCreate salt data => do
      let utilisateur ← (AdherentController.draft runtime salt data).row
      return .add .adherent numero utilisateur.store ∅
  | adherentUpdate id data =>
      some (.change .adherent id (Ressource.adherent.enregistre runtime data) ∅)
  | adherentDelete id => some (.remove (fonds.emporte .adherent id))
  -- no loan has a negative number
  | empruntUpdate (.negSucc _) _ | empruntDelete (.negSucc _) => none

end Requete

/-- The number that the answer of a creation carries. -/
def Outcome.numero : Outcome → ℕ
  | .response sent =>
      match sent.body.field "id" with
      | some (.int id) => id.toNat
      | _ => 0
  | .thrown _ => 0

end Bibliotheque
