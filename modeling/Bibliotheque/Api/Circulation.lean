import Bibliotheque.Store.Session

/-!
# Handlers of loans and reservations

The create, update and delete methods of `EmpruntController` and
`ReservationsController`.  `AdherentRepository` is read as the repository of
`Utilisateur`.
-/

namespace Bibliotheque

open Bibliotheque.Action

namespace EmpruntController

/-- What both handlers read from the body: two dates and the two unresolved
ids. -/
def readBody (data : Value) : Action (Date × Date × Value × Value) := do
  let dateEmprunt := data.field "dateEmprunt"
  let dateRetour := data.field "dateRetour"
  let emprunteurId := data.field "emprunteurId"
  let livreId := data.field "livreId"
  answerIf (Value.missing dateEmprunt || Value.missing dateRetour ||
      Value.missing emprunteurId || Value.missing livreId)
    400 [("error", .str "Missing required fields")]
  let dateEmprunt ← php
    (Runtime.createFromFormat DateTime.dmY (dateEmprunt.getD .null))
  let dateRetour ← php
    (Runtime.createFromFormat DateTime.dmY (dateRetour.getD .null))
  match dateEmprunt, dateRetour with
  | some dateEmprunt, some dateRetour =>
      return (dateEmprunt, dateRetour, emprunteurId.getD .null, livreId.getD .null)
  | _, _ =>
      answer 400
        [("error", .str "Invalid date format. Please use dd/mm/yyyy format.")]

def create (runtime : Runtime) (data : Value) : Action Response := do
  let (dateEmprunt, dateRetour, emprunteurId, livreId) ← readBody data
  let emprunteur ← find runtime Tables.utilisateur emprunteurId
  let livre ← find runtime Tables.livre livreId
  answerIf (emprunteur.isNone || livre.isNone)
    404 [("error", .str "Emprunteur or Livre not found")]
  persist (.emprunt {
    dateEmprunt := some dateEmprunt
    dateRetour := some dateRetour
    emprunteur := emprunteur
    livre := livre })
  flush
  return ⟨201, .object [("message", .str "Emprunt created"), ("id", ← insertedId)]⟩

def update (runtime : Runtime) (id : ℤ) (data : Value) : Action Response := do
  let some emprunt ← find runtime Tables.emprunt (.int id)
    | answer 404 [("error", .str "Emprunt not found")]
  let (dateEmprunt, dateRetour, emprunteurId, livreId) ← readBody data
  let emprunteur ← find runtime Tables.utilisateur emprunteurId
  let livre ← find runtime Tables.livre livreId
  let some emprunteur := emprunteur
    | answer 404 [("error", .str "Emprunteur not found")]
  let some livre := livre
    | answer 404 [("error", .str "Livre not found")]
  setEmprunt emprunt ({ · with dateEmprunt := dateEmprunt })
  setEmprunt emprunt ({ · with dateRetour := some dateRetour })
  setEmprunt emprunt ({ · with emprunteur := emprunteur })
  setEmprunt emprunt ({ · with livre := livre })
  flush
  return ⟨200, .object [("message", .str "Emprunt updated"), ("id", .int id)]⟩

def delete (runtime : Runtime) (id : ℤ) : Action Response := do
  let some emprunt ← find runtime Tables.emprunt (.int id)
    | answer 404 [("error", .str "Emprunt not found")]
  remove (.emprunt emprunt)
  flush
  return ⟨200, .object [("message", .str "Emprunt deleted")]⟩

end EmpruntController

namespace ReservationsController

/-- What both handlers read and resolve: the date, the user and the book. -/
def readBody (runtime : Runtime) (data : Value) : Action (Date × ℕ × ℕ) := do
  let dateResa := data.field "dateResa"
  let reservateurId := data.field "reservateurId"
  let livreId := data.field "livreId"
  answerIf (dateResa.isNone || reservateurId.isNone || livreId.isNone)
    400 [("message", .str "Missing required data")]
  let dateResa ← php (Runtime.createFromFormat DateTime.dmY (dateResa.getD .null))
  let some dateResa := dateResa
    | answer 400
        [("message", .str "Invalid date format. Please use dd/mm/yyyy format.")]
  let some reservateur ← find runtime Tables.utilisateur (reservateurId.getD .null)
    | answer 404 [("message", .str "Adherent not found")]
  let some livre ← find runtime Tables.livre (livreId.getD .null)
    | answer 404 [("message", .str "Livre not found")]
  return (dateResa, reservateur, livre)

def create (runtime : Runtime) (data : Value) : Action Response := do
  let (dateResa, reservateur, livre) ← readBody runtime data
  persist (.reservations {
    dateResa := some dateResa
    livre := some livre
    reservateur := some reservateur })
  flush
  return ⟨201, .object
    [("message", .str "Reservation created"), ("id", ← insertedId)]⟩

def update (runtime : Runtime) (id : ℕ) (data : Value) : Action Response := do
  let some reservation ← find runtime Tables.reservations (.int id)
    | answer 404 [("message", .str "Reservation not found")]
  let (dateResa, reservateur, livre) ← readBody runtime data
  setReservations reservation ({ · with dateResa := dateResa })
  setReservations reservation ({ · with reservateur := reservateur })
  setReservations reservation ({ · with livre := livre })
  flush
  return ⟨200, .object [("message", .str "Reservation updated")]⟩

def delete (runtime : Runtime) (id : ℕ) : Action Response := do
  let some reservation ← find runtime Tables.reservations (.int id)
    | answer 404 [("message", .str "Reservation not found")]
  remove (.reservations reservation)
  flush
  return ⟨200, .object [("message", .str "Reservation deleted")]⟩

end ReservationsController

end Bibliotheque
