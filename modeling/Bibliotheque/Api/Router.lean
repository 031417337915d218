import Bibliotheque.Api.Catalogue
import Bibliotheque.Api.Circulation
import Bibliotheque.Api.Adherents

/-!
# The writing requests of the API

One constructor per create, update and delete route.  Each request runs with
an entity manager of its own, so a request is a step from a committed state to
an outcome and the next committed state.
-/

namespace Bibliotheque

inductive Requete where
  | livreCreate (data : Value)
  | livreUpdate (id : ℕ) (data : Value)
  | livreDelete (id : ℕ)
  | auteurCreate (data : Value)
  | auteurUpdate (id : ℕ) (data : Value)
  | auteurDelete (id : ℕ)
  | categorieCreate (data : Value)
  | categorieUpdate (id : ℕ) (data : Value)
  | categorieDelete (id : ℕ)
  | empruntCreate (data : Value)
  | empruntUpdate (id : ℤ) (data : Value)
  | empruntDelete (id : ℤ)
  | reservationsCreate (data : Value)
  | reservationsUpdate (id : ℕ) (data : Value)
  | reservationsDelete (id : ℕ)
  | adherentCreate (salt : ℕ) (data : Value)
  | adherentUpdate (id : ℕ) (data : Value)
  | adherentDelete (id : ℕ)

namespace Requete

def handler (runtime : Runtime) : Requete → Action Response
  | livreCreate data => LivreController.create runtime data
  | livreUpdate id data => LivreController.update runtime id data
  | livreDelete id => LivreController.delete runtime id
  | auteurCreate data => AuteurController.create runtime data
  | auteurUpdate id data => AuteurController.update runtime id data
  | auteurDelete id => AuteurController.delete runtime id
  | categorieCreate data => CategorieController.create data
  | categorieUpdate id data => CategorieController.update runtime id data
  | categorieDelete id => CategorieController.delete runtime id
  | empruntCreate data => EmpruntController.create runtime data
  | empruntUpdate id data => EmpruntController.update runtime id data
  | empruntDelete id => EmpruntController.delete runtime id
  | reservationsCreate data => ReservationsController.create runtime data
  | reservationsUpdate id data => ReservationsController.update runtime id data
  | reservationsDelete id => ReservationsController.delete runtime id
  | adherentCreate salt data => AdherentController.create runtime salt data
  | adherentUpdate id data => AdherentController.update runtime id data
  | adherentDelete id => AdherentController.delete runtime id

/-- How a request ends, and the state it leaves. -/
def executer (runtime : Runtime) (base : Base) (requete : Requete) :
    Outcome × Base :=
  Action.serve (requete.handler runtime) base

/-- The state after a request. -/
def step (runtime : Runtime) (base : Base) (requete : Requete) : Base :=
  (requete.executer runtime base).2

end Requete

/-! ## A server and a small library to run requests on -/

/-- A server with `APP_DEBUG` set. -/
def Runtime.dev : Runtime where
  debug := true
  today := Date.sample
  strtotime _ := none
  identifier _ := .ok none
  numeric _ := none
  password_hash _ password := .ok (.ofList (("$2y$10$" ++ password).toList.take 60))
  length_password_hash := by
    rintro salt password hash ⟨⟩
    rw [String.length_ofList, List.length_take]
    omega

/-- A book with its category and author, borrowed and reserved by one user. -/
def Base.sample : Base where
  categorie := Table.empty.insert { nom := "Roman", description := "" }
  auteur := Table.empty.insert {
    nom := "Austen", prenom := "Jane", dateNaiss := Date.sample,
    dateDeces := none, nationalite := "GB", photo := none, description := "" }
  livre := Table.empty.insert {
    titre := "Emma", dateSortie := Date.sample, langue := "EN",
    photoCouverture := none, categorie := 1 }
  utilisateur := Table.empty.insert {
    email := "a@b.fr", roles := [], password := "$2y$10$x",
    dateAdhesion := Date.sample, nom := "Doe", prenom := "Ann",
    dateNaiss := Date.sample, adressePostale := "", numTel := 0, photo := none }
  emprunt := Table.empty.insert {
    dateEmprunt := Date.sample, dateRetour := none, emprunteur := 1, livre := 1 }
  reservations := Table.empty.insert {
    dateResa := Date.sample, livre := 1, reservateur := 1 }
  livreAuteur := [(1, 1)]
  valid := by decide

end Bibliotheque
