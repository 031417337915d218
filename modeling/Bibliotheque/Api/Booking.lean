import Bibliotheque.Api.Atomicity
import Bibliotheque.Api.CirculationRequests
import Bibliotheque.Core.Run

/-!
# Reservations made by many clients at once

Any number of clients create, move and delete reservations, and delete books and
users.  Every `find` of a handler reads the database as it is at that moment, and
the flush comes later, when the rows it relied on may have changed.  No handler
looks for a reservation that is already there; only the constraints of the
server, checked at each flush, keep the shape of the table.
-/

namespace Bibliotheque

open Program Bibliotheque.Action

/-- At most one reservation for a book and for a user, each for an existing book
and an existing user. -/
structure Tables.OneToOne (tables : Tables) : Prop where
  livre : ∀ left ∈ tables.reservations.rows, ∀ right ∈ tables.reservations.rows,
    left.2.livre = right.2.livre → left = right
  reservateur : ∀ left ∈ tables.reservations.rows, ∀ right ∈ tables.reservations.rows,
    left.2.reservateur = right.2.reservateur → left = right
  livre_mem : ∀ row ∈ tables.reservations.rows, row.2.livre ∈ tables.livre.ids
  reservateur_mem : ∀ row ∈ tables.reservations.rows,
    row.2.reservateur ∈ tables.utilisateur.ids

/-- The columns of other tables have no part in it. -/
theorem Tables.oneToOne_of_store {tables : Tables} (hstore : tables.store.OneToOne) :
    tables.OneToOne where
  livre := hstore.livre
  reservateur := hstore.reservateur
  livre_mem := fun row hrow => by simpa [store] using hstore.livre_mem row hrow
  reservateur_mem := fun row hrow => by simpa [store] using hstore.reservateur_mem row hrow

theorem Base.oneToOne (base : Base) : base.toTables.OneToOne where
  livre := fun _ hleft _ hright heq =>
    List.inj_on_of_nodup_map base.valid.livre_unique hleft hright heq
  reservateur := fun _ hleft _ hright heq =>
    List.inj_on_of_nodup_map base.valid.reservateur_unique hleft hright heq
  livre_mem := base.valid.reservations_livre
  reservateur_mem := base.valid.reservations_reservateur

/-! ## Requests in steps -/

/-- What is left of a request: nothing but its outcome, a read of the database
with what follows, or the flush of an entity manager and the answer after it. -/
inductive Tache where
  | terminee (outcome : Outcome)
  | lecture (suite : Base → Tache)
  | ecriture (session : Session) (answer : Session → Response)

namespace Tache

/-- The next step of a request, on the database as it is now. -/
def avancer (base : Base) : Tache → Tache × Base
  | terminee outcome => (terminee outcome, base)
  | lecture suite => (suite base, base)
  | ecriture session answer =>
      match flush { session with base := base } with
      | .ok _ final => (terminee (.response (answer final)), final.base)
      | .error outcome final => (terminee outcome, final.base)

/-- The request when nobody else is there. -/
def seule (base : Base) : Tache → Outcome × Base
  | terminee outcome => (outcome, base)
  | lecture suite => (suite base).seule base
  | ecriture session answer =>
      match flush { session with base := base } with
      | .ok _ final => (.response (answer final), final.base)
      | .error outcome final => (outcome, final.base)

/-- `$repository->find($id)`, and the answer if there is no such row. -/
def trouver {Row : Type} (runtime : Runtime) (table : Tables → Table Row) (id : Value)
    (missing : Response) (suite : Base → ℕ → Tache) : Tache :=
  lecture fun base =>
    match runtime.rowId id with
    | .error throwable => terminee (.thrown throwable)
    | .ok number =>
        match number.filter fun id => id ∈ (table base.toTables).ids with
        | none => terminee (.response missing)
        | some number => suite base number

end Tache

namespace ReservationsController

/-- The reads of both handlers once the reservation itself is found. -/
def readBodySteps (runtime : Runtime) (data : Value) (suite : Base → Reservations → Tache) :
    Tache :=
  let dateResa := data.field "dateResa"
  let reservateurId := data.field "reservateurId"
  let livreId := data.field "livreId"
  if dateResa.isNone || reservateurId.isNone || livreId.isNone then
    .terminee (.response ⟨400, .object [("message", .str "Missing required data")]⟩)
  else
    match Runtime.createFromFormat DateTime.dmY (dateResa.getD .null) with
    | .error throwable => .terminee (.thrown throwable)
    | .ok none => .terminee (.response ⟨400, .object
        [("message", .str "Invalid date format. Please use dd/mm/yyyy format.")]⟩)
    | .ok (some dateResa) =>
        .trouver runtime Tables.utilisateur (reservateurId.getD .null)
          ⟨404, .object [("message", .str "Adherent not found")]⟩ fun _ reservateur =>
            .trouver runtime Tables.livre (livreId.getD .null)
              ⟨404, .object [("message", .str "Livre not found")]⟩ fun base livre =>
                suite base ⟨dateResa, livre, reservateur⟩

def createSteps (runtime : Runtime) (data : Value) : Tache :=
  readBodySteps runtime data fun base row =>
    .ecriture { Session.start base with persisted := some (newReservations row) }
      fun final => ⟨201, .object [("message", .str "Reservation created"),
        ("id", .int final.insertId)]⟩

/-- The reservation is managed from the first read on, the setters run after the
last one. -/
def updateSteps (runtime : Runtime) (id : ℕ) (data : Value) : Tache :=
  .trouver runtime Tables.reservations (.int id)
    ⟨404, .object [("message", .str "Reservation not found")]⟩ fun base reservation =>
      readBodySteps runtime data fun _ row =>
        .ecriture { Session.start base with managed := modified base reservation row }
          fun _ => ⟨200, .object [("message", .str "Reservation updated")]⟩

end ReservationsController

/-- The three `delete` methods: the row is found and `remove` walks the
associations, then comes the flush. -/
def deleteSteps {Row : Type} (runtime : Runtime) (table : Tables → Table Row)
    (ligne : ℕ → Ligne) (missing deleted : Response) (id : ℕ) : Tache :=
  .trouver runtime table (.int id) missing fun base found =>
    match base.doRemove (ligne found) with
    | none => .terminee (.thrown (.error "Maximum function nesting level reached"))
    | some removed =>
        .ecriture { Session.start base with removed := removed } fun _ => deleted

/-- The requests of the clients. -/
inductive Operation where
  | reservationsCreate (data : Value)
  | reservationsUpdate (id : ℕ) (data : Value)
  | reservationsDelete (id : ℕ)
  | livreDelete (id : ℕ)
  | adherentDelete (id : ℕ)

namespace Operation

def requete : Operation → Requete
  | reservationsCreate data => .reservationsCreate data
  | reservationsUpdate id data => .reservationsUpdate id data
  | reservationsDelete id => .reservationsDelete id
  | livreDelete id => .livreDelete id
  | adherentDelete id => .adherentDelete id

def steps (runtime : Runtime) : Operation → Tache
  | reservationsCreate data => ReservationsController.createSteps runtime data
  | reservationsUpdate id data => ReservationsController.updateSteps runtime id data
  | reservationsDelete id => deleteSteps runtime Tables.reservations .reservations
      ⟨404, .object [("message", .str "Reservation not found")]⟩
      ⟨200, .object [("message", .str "Reservation deleted")]⟩ id
  | livreDelete id => deleteSteps runtime Tables.livre .livre
      ⟨404, .object [("message", .str "Livre not found")]⟩
      ⟨200, .object [("message", .str "Livre deleted")]⟩ id
  | adherentDelete id => deleteSteps runtime Tables.utilisateur .utilisateur
      ⟨404, .object [("message", .str "Adherent not found")]⟩
      ⟨200, .object [("message", .str "Adherent deleted")]⟩ id

/-! ## The steps are those of the handlers -/

section Alone

variable {runtime : Runtime} {base : Base}

theorem serve_find {Row : Type} {table : Tables → Table Row} {id : Value}
    {next : Option ℕ → Action Response} {missing : Response} {suite : Base → ℕ → Tache}
    (hfound : ∀ number, serve (next (some number)) base = (suite base number).seule base)
    (hmissing : serve (next none) base = (.response missing, base)) :
    serve (find runtime table id >>= next) base =
      (Tache.trouver runtime table id missing suite).seule base := by
  rw [Tache.trouver, Tache.seule]
  cases hrow : runtime.rowId id with
  | error throwable =>
      have hfind : (find runtime table id >>= next) (Session.start base) =
          .error (.thrown throwable) (Session.start base) := by
        simp only [find, hrow]
        rfl
      simp only [serve, hfind]
      rfl
  | ok number =>
      have hfind : (find runtime table id >>= next) (Session.start base) =
          next (number.filter fun id => id ∈ (table base.toTables).ids)
            (Session.start base) := by
        simp only [find, hrow]
        rfl
      have hserve : serve (find runtime table id >>= next) base =
          serve (next (number.filter fun id => id ∈ (table base.toTables).ids)) base := by
        simp only [serve, hfind]
      rw [hserve]
      dsimp only
      cases number.filter fun id => id ∈ (table base.toTables).ids with
      | none => exact hmissing
      | some found => exact hfound found

theorem serve_answerIf {condition : Bool} {status : ℕ} {body : List (String × Value)}
    {next : Unit → Action Response} :
    serve (answerIf condition status body >>= next) base =
      if condition then (.response ⟨status, .object body⟩, base)
      else serve (next ()) base := by
  cases condition with
  | true => rfl
  | false => rfl

theorem serve_php_error {Out : Type} {throwable : Throwable} {next : Out → Action Response} :
    serve (php (.error throwable) >>= next) base = (.thrown throwable, base) := rfl

theorem serve_php_ok {Out : Type} {value : Out} {next : Out → Action Response} :
    serve (php (.ok value) >>= next) base = serve (next value) base := rfl

theorem serve_readBody {data : Value} {next : Date × ℕ × ℕ → Action Response}
    {suite : Base → Reservations → Tache}
    (hnext : ∀ row : Reservations,
      serve (next (row.dateResa, row.reservateur, row.livre)) base =
        (suite base row).seule base) :
    serve (ReservationsController.readBody runtime data >>= next) base =
      (ReservationsController.readBodySteps runtime data suite).seule base := by
  unfold ReservationsController.readBody ReservationsController.readBodySteps
  simp only [bind_assoc]
  rw [serve_answerIf]
  split
  · rfl
  · cases Runtime.createFromFormat DateTime.dmY ((data.field "dateResa").getD .null) with
    | error throwable => exact serve_php_error
    | ok read =>
        rw [serve_php_ok]
        cases read with
        | none => rfl
        | some dateResa =>
            simp only [bind_assoc]
            refine serve_find (fun reservateur => ?_) rfl
            simp only [bind_assoc]
            exact serve_find (fun livre => hnext ⟨dateResa, livre, reservateur⟩) rfl

/-- The end of every handler: what precedes the flush prepares a session. -/
theorem serve_flush {prepare : Action Unit} {after : Unit → Action Response}
    {session : Session} {answer : Session → Response}
    (hprepare : prepare (Session.start base) = .ok () session)
    (hbase : session.base = base)
    (hafter : ∀ final, after () final = .ok (answer final) final) :
    serve (prepare >>= fun _ => flush >>= after) base =
      (Tache.ecriture session answer).seule base := by
  have hsession : { session with base := base } = session := by
    rw [← hbase]
  have hrun : (prepare >>= fun _ => flush >>= after) (Session.start base) =
      (flush >>= after) session := by
    simp only [bind, EStateM.bind, hprepare]
  rw [Tache.seule, hsession, serve, hrun]
  cases hflush : flush session with
  | ok value final => simp only [bind, EStateM.bind, hflush, hafter]
  | error outcome final => simp only [bind, EStateM.bind, hflush]

theorem serve_createSteps (data : Value) :
    serve (ReservationsController.create runtime data) base =
      (ReservationsController.createSteps runtime data).seule base :=
  serve_readBody fun _ => serve_flush rfl rfl fun _ => rfl

theorem serve_updateSteps (id : ℕ) (data : Value) :
    serve (ReservationsController.update runtime id data) base =
      (ReservationsController.updateSteps runtime id data).seule base := by
  refine serve_find (fun reservation => serve_readBody fun row => ?_) rfl
  refine @serve_flush base (do
    setReservations reservation ({ · with dateResa := row.dateResa })
    setReservations reservation ({ · with reservateur := row.reservateur })
    setReservations reservation ({ · with livre := row.livre })) _ _ _ ?_ rfl fun _ => rfl
  have htable : base.reservations.modify reservation (fun _ => row) =
      ((base.reservations.modify reservation
        fun stored => { stored with dateResa := row.dateResa }).modify reservation
        fun stored => { stored with reservateur := row.reservateur }).modify reservation
        fun stored => { stored with livre := row.livre } := by
    simp only [Table.modify_modify, Function.comp_def]
  rw [ReservationsController.modified, htable]
  rfl

theorem remove_of_some {ligne : Ligne} {removed : List Ligne}
    (hwalk : base.doRemove ligne = some removed) :
    remove ligne (Session.start base) =
      .ok () { Session.start base with removed := removed } := by
  obtain ⟨value, final, hrun, rfl⟩ := wp_stop_false_iff.mp
    ((@wp_remove_of_eq (fun _ _ => False) (Session.start base)
      (fun _ final => final = { Session.start base with removed := removed }) ligne removed
      hwalk).mpr rfl)
  exact hrun

theorem serve_remove_of_none {ligne : Ligne} {next : Unit → Action Response}
    (hwalk : base.doRemove ligne = none) :
    serve (remove ligne >>= next) base =
      (.thrown (.error "Maximum function nesting level reached"), base) := by
  have hmanaged : (Session.start base).managed.doRemove ligne = none := hwalk
  apply (serve_iff_wp (remove ligne >>= next) base fun outcome final =>
    (outcome, final) = (.thrown (.error "Maximum function nesting level reached"),
      base)).mpr
  rw [wp_bind, wp_remove, hmanaged]
  rfl

theorem serve_deleteSteps {Row : Type} {table : Tables → Table Row} {ligne : ℕ → Ligne}
    {missing deleted : Response} {id : ℕ} {next : Option ℕ → Action Response}
    (hfound : ∀ found, next (some found) = (do
      remove (ligne found)
      flush
      return deleted))
    (hmissing : next none = throw (.response missing)) :
    serve (find runtime table (.int id) >>= next) base =
      (deleteSteps runtime table ligne missing deleted id).seule base := by
  refine serve_find (fun found => ?_) ?_
  · rw [hfound]
    cases hwalk : base.doRemove (ligne found) with
    | none => exact serve_remove_of_none hwalk
    | some removed => exact serve_flush (remove_of_some hwalk) rfl fun _ => rfl
  · rw [hmissing]
    rfl

/-- Alone, the steps of a request do what its handler does. -/
theorem executer_eq_seule (operation : Operation) :
    operation.requete.executer runtime base = (operation.steps runtime).seule base := by
  cases operation with
  | reservationsCreate data => exact serve_createSteps data
  | reservationsUpdate id data => exact serve_updateSteps id data
  | reservationsDelete id => exact serve_deleteSteps (fun _ => rfl) rfl
  | livreDelete id => exact serve_deleteSteps (fun _ => rfl) rfl
  | adherentDelete id => exact serve_deleteSteps (fun _ => rfl) rfl

end Alone

end Operation

/-! ## Flushes on a database that has changed -/

/-- A flush that fails is rolled back. -/
theorem Action.flush_error {session final : Session} {outcome : Outcome}
    (hflush : flush session = .error outcome final) :
    final.base = session.base ∨ final.base = session.rolledBack := by
  unfold flush at hflush
  split at hflush
  · split at hflush
    · cases hflush
    · cases hflush
      exact Or.inr rfl
  · cases hflush
    exact Or.inl rfl

/-- The statements of a flush that succeeds. -/
theorem Action.exists_commit_of_flush {session final : Session}
    (hflush : flush session = .ok () final) :
    ∃ tables fresh, session.commit = .ok (tables, fresh) ∧ tables.store.Valid := by
  have hcompletes : Completes flush (fun _ _ => True) session :=
    wp_stop_false_iff.mpr ⟨(), final, hflush, trivial⟩
  obtain ⟨tables, fresh, hcommit, hvalid, -⟩ := completes_flush_iff.mp hcompletes
  exact ⟨tables, fresh, hcommit, hvalid⟩

/-- Nothing but a number is lost. -/
theorem Action.sameRows_of_flush_error {session final : Session} {outcome : Outcome}
    (hflush : flush session = .error outcome final) :
    final.base.SameRows session.base.toTables := by
  rcases flush_error hflush with hsame | hlost
  · rw [hsame]
    exact session.base.sameRows_refl
  · rw [hlost]
    exact session.skipped_rolledBack.sameRows

namespace Tache

/-- The request is about to flush statements that the server cannot carry out, or
that leave the table of reservations in another shape. -/
def Breaks (base : Base) : Tache → Prop
  | ecriture session _ => ∀ tables fresh,
      Session.commit { session with base := base } = .ok (tables, fresh) →
        ¬ tables.OneToOne
  | terminee _ | lecture _ => False

/-- A step that changes the database commits a content of the right shape; a
flush that would break the shape ends the request and changes no row. -/
theorem avancer_of_breaks {base : Base} {tache : Tache} (hbreaks : tache.Breaks base) :
    (tache.avancer base).2.SameRows base.toTables ∧
      ∃ outcome : Outcome, (tache.avancer base).1 = terminee outcome ∧
        ¬ outcome.Success := by
  cases tache with
  | terminee outcome => exact hbreaks.elim
  | lecture suite => exact hbreaks.elim
  | ecriture session answer =>
      cases hflush : flush { session with base := base } with
      | ok value final =>
          obtain ⟨tables, fresh, hcommit, hvalid⟩ := exists_commit_of_flush hflush
          exact absurd (Tables.oneToOne_of_store (Base.mk tables.store hvalid).oneToOne)
            (hbreaks tables fresh hcommit)
      | error outcome final =>
          rw [avancer, hflush]
          exact ⟨sameRows_of_flush_error hflush, outcome, rfl, refuses_flush.of_error hflush⟩

end Tache

namespace ReservationsController

variable {read current : Base} {row : Reservations}

/-- The insertion of a reservation, whatever was read before. -/
theorem commit_stale_creation :
    Session.commit { Session.start read with
        base := current, persisted := some (newReservations row) } =
      .ok (created current row, current.reservations.next) := by
  have hinsert : (newReservations row).insert current.toTables =
      some (created current row, current.reservations.next) := rfl
  exact Session.commit_persisted_alone read hinsert

/-- A creation breaks the shape exactly if the book or the user is gone by now, or
has got a reservation. -/
theorem breaks_creation_iff {answer : Session → Response} :
    (Tache.ecriture { Session.start read with persisted := some (newReservations row) }
        answer).Breaks current ↔
      row.livre ∉ current.livre.ids ∨ row.reservateur ∉ current.utilisateur.ids ∨
        ¬ Free current none row := by
  have hcontent : (Tache.ecriture { Session.start read with
      persisted := some (newReservations row) } answer).Breaks current ↔
        ¬ (created current row).OneToOne := by
    simp only [Tache.Breaks, commit_stale_creation, Except.ok.injEq, Prod.mk.injEq]
    constructor
    · exact fun hbreaks => hbreaks _ _ ⟨rfl, rfl⟩
    · rintro hbreaks tables fresh ⟨rfl, rfl⟩
      exact hbreaks
  rw [hcontent, ← not_and_or, ← not_and_or, not_iff_not]
  have hold := current.oneToOne
  constructor
  · intro hshape
    have hnew : (current.reservations.next, row) ∈ (created current row).reservations.rows :=
      Table.mem_rows_insert.mpr (Or.inr rfl)
    refine ⟨hshape.livre_mem _ hnew, hshape.reservateur_mem _ hnew, ?_⟩
    intro stored hstored _
    exact ⟨(Table.distinct_insert_iff hold.livre).mp hshape.livre stored hstored,
      (Table.distinct_insert_iff hold.reservateur).mp hshape.reservateur stored hstored⟩
  · rintro ⟨hlivre, hreservateur, hfree⟩
    refine ⟨?_, ?_, ?_, ?_⟩
    · exact (Table.distinct_insert_iff hold.livre).mpr fun stored hstored =>
        (hfree stored hstored (by simp)).1
    · exact (Table.distinct_insert_iff hold.reservateur).mpr fun stored hstored =>
        (hfree stored hstored (by simp)).2
    · intro stored hstored
      rcases Table.mem_rows_insert.mp hstored with hstored | rfl
      · exact hold.livre_mem stored hstored
      · exact hlivre
    · intro stored hstored
      rcases Table.mem_rows_insert.mp hstored with hstored | rfl
      · exact hold.reservateur_mem stored hstored
      · exact hreservateur

end ReservationsController

/-! ## Runs -/

namespace Tache

/-- Before its flush a request only stops without success, and after it answers
with success. -/
def Honest : Tache → Prop
  | terminee outcome => ¬ outcome.Success
  | lecture suite => ∀ base, (suite base).Honest
  | ecriture _ answer => ∀ final, (Outcome.response (answer final)).Success

theorem honest_trouver {Row : Type} {runtime : Runtime} {table : Tables → Table Row}
    {id : Value} {missing : Response} {suite : Base → ℕ → Tache}
    (hmissing : ¬ (Outcome.response missing).Success)
    (hsuite : ∀ base number, (suite base number).Honest) :
    (trouver runtime table id missing suite).Honest := by
  intro base
  dsimp only
  cases runtime.rowId id with
  | error throwable => exact fun hsuccess => hsuccess
  | ok number =>
      dsimp only
      cases number.filter fun id => id ∈ (table base.toTables).ids with
      | none => exact hmissing
      | some found => exact hsuite base found

end Tache

theorem honest_deleteSteps {Row : Type} {runtime : Runtime} {table : Tables → Table Row}
    {ligne : ℕ → Ligne} {missing deleted : Response} {id : ℕ}
    (hmissing : ¬ (Outcome.response missing).Success)
    (hdeleted : (Outcome.response deleted).Success) :
    (deleteSteps runtime table ligne missing deleted id).Honest := by
  refine Tache.honest_trouver hmissing fun base found => ?_
  cases base.doRemove (ligne found) with
  | none => exact fun hsuccess => hsuccess
  | some removed => exact fun _ => hdeleted

theorem ReservationsController.honest_readBodySteps {runtime : Runtime} {data : Value}
    {suite : Base → Reservations → Tache} (hsuite : ∀ base row, (suite base row).Honest) :
    (readBodySteps runtime data suite).Honest := by
  have hrefused : ∀ {status : ℕ} {body : Value}, 300 ≤ status →
      ¬ (Outcome.response ⟨status, body⟩).Success :=
    fun hstatus hsuccess => absurd hsuccess.2 (by simpa using hstatus)
  unfold readBodySteps
  dsimp only
  split
  · exact hrefused (by simp)
  · cases Runtime.createFromFormat DateTime.dmY ((data.field "dateResa").getD .null) with
    | error throwable => exact fun hsuccess => hsuccess
    | ok read =>
        cases read with
        | none => exact hrefused (by simp)
        | some dateResa =>
            refine Tache.honest_trouver (hrefused (by simp)) fun _ reservateur => ?_
            exact Tache.honest_trouver (hrefused (by simp)) fun base livre =>
              hsuite base ⟨dateResa, livre, reservateur⟩

theorem Operation.honest_steps (runtime : Runtime) (operation : Operation) :
    (operation.steps runtime).Honest := by
  cases operation with
  | reservationsCreate data =>
      rw [steps, ReservationsController.createSteps]
      apply ReservationsController.honest_readBodySteps
      intro base row final
      exact Outcome.success_of_status (by simp)
  | reservationsUpdate id data =>
      rw [steps, ReservationsController.updateSteps]
      refine Tache.honest_trouver ?_ fun base reservation => ?_
      · decide
      · apply ReservationsController.honest_readBodySteps
        intro base row final
        exact Outcome.success_of_status (by simp)
  | reservationsDelete id => exact honest_deleteSteps (by decide) (by decide)
  | livreDelete id => exact honest_deleteSteps (by decide) (by decide)
  | adherentDelete id => exact honest_deleteSteps (by decide) (by decide)

/-- The database and what is left of the request of each client. -/
structure Serveur where
  base : Base
  taches : ℕ → Tache

namespace Serveur

def initial (runtime : Runtime) (operations : ℕ → Operation) (base : Base) : Serveur :=
  ⟨base, fun who => (operations who).steps runtime⟩

/-- The next step of one client. -/
def avancer (serveur : Serveur) (who : ℕ) : Serveur where
  base := ((serveur.taches who).avancer serveur.base).2
  taches := Function.update serveur.taches who
    ((serveur.taches who).avancer serveur.base).1

theorem taches_avancer_self (serveur : Serveur) (who : ℕ) :
    (serveur.avancer who).taches who = ((serveur.taches who).avancer serveur.base).1 :=
  Function.update_self who _ _

theorem taches_avancer_of_ne (serveur : Serveur) {who other : ℕ} (hother : other ≠ who) :
    (serveur.avancer who).taches other = serveur.taches other :=
  Function.update_of_ne hother _ _

/-- The shape of the reservations is there.  Whoever takes the next step, a flush
that would break it answers no success and changes no row, and whatever changes a
row answers success. -/
structure Safe (serveur : Serveur) : Prop where
  shape : serveur.base.toTables.OneToOne
  refused : ∀ who, (serveur.taches who).Breaks serveur.base →
    (serveur.avancer who).base.SameRows serveur.base.toTables ∧
      ∃ outcome : Outcome, (serveur.avancer who).taches who = .terminee outcome ∧
        ¬ outcome.Success
  changed : ∀ who, ¬ (serveur.avancer who).base.SameRows serveur.base.toTables →
    ∃ outcome : Outcome, (serveur.avancer who).taches who = .terminee outcome ∧
      outcome.Success

/-- Each request has ended, or is honest. -/
def Running (serveur : Serveur) : Prop :=
  ∀ who, (serveur.taches who).Honest ∨ ∃ outcome, serveur.taches who = .terminee outcome

theorem running_initial (runtime : Runtime) (operations : ℕ → Operation) (base : Base) :
    (initial runtime operations base).Running :=
  fun who => Or.inl ((operations who).honest_steps runtime)

/-- The step lemma: a request stays honest until it ends. -/
theorem Running.avancer {serveur : Serveur} (hrunning : serveur.Running) (who : ℕ) :
    (serveur.avancer who).Running := by
  intro other
  by_cases hother : other = who
  · subst hother
    rw [taches_avancer_self]
    cases htache : serveur.taches other with
    | terminee outcome => exact Or.inr ⟨outcome, rfl⟩
    | lecture suite =>
        rcases hrunning other with hhonest | ⟨outcome, hended⟩
        · rw [htache] at hhonest
          exact Or.inl (hhonest serveur.base)
        · rw [htache] at hended
          cases hended
    | ecriture session answer =>
        rw [Tache.avancer]
        split
        · exact Or.inr ⟨_, rfl⟩
        · exact Or.inr ⟨_, rfl⟩
  · rw [taches_avancer_of_ne serveur hother]
    exact hrunning other

theorem Running.safe {serveur : Serveur} (hrunning : serveur.Running) : serveur.Safe where
  shape := serveur.base.oneToOne
  refused := by
    intro who hbreaks
    obtain ⟨hbase, outcome, htache, hfailed⟩ := Tache.avancer_of_breaks hbreaks
    refine ⟨hbase, outcome, ?_, hfailed⟩
    rw [taches_avancer_self, htache]
  changed := by
    intro who hchanged
    change ¬ ((serveur.taches who).avancer serveur.base).2.SameRows serveur.base.toTables
      at hchanged
    rw [taches_avancer_self]
    cases htache : serveur.taches who with
    | terminee outcome =>
        rw [htache] at hchanged
        exact absurd serveur.base.sameRows_refl hchanged
    | lecture suite =>
        rw [htache] at hchanged
        exact absurd serveur.base.sameRows_refl hchanged
    | ecriture session answer =>
        have hhonest : ∀ final, (Outcome.response (answer final)).Success := by
          rcases hrunning who with hhonest | ⟨outcome, hended⟩
          · rwa [htache] at hhonest
          · rw [htache] at hended
            cases hended
        rw [htache] at hchanged
        rw [Tache.avancer] at hchanged ⊢
        cases hflush : flush { session with base := serveur.base } with
        | ok value final => exact ⟨_, rfl, hhonest final⟩
        | error outcome final =>
            rw [hflush] at hchanged
            exact absurd (sameRows_of_flush_error hflush) hchanged

/-- In every run of any number of clients, every state that is reached is safe. -/
theorem run_safe (runtime : Runtime) (operations : ℕ → Operation) (base : Base)
    (schedule : List ℕ) :
    (Run.run avancer (initial runtime operations base) schedule).Safe := by
  apply Running.safe
  exact Run.invariant_run Running (fun _ who hrunning _ => hrunning.avancer who) schedule
    _ (running_initial runtime operations base) (Run.permitted_true schedule _)

end Serveur

end Bibliotheque
