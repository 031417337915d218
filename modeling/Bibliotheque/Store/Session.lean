import Bibliotheque.Core.Merge
import Bibliotheque.Core.Program
import Bibliotheque.Entity.ManyToMany
import Bibliotheque.Store.Removal

/-!
# The entity manager of a request

A request works on managed copies of the rows it has read.  Setters change the
copies, `persist` and `remove` schedule insertions and deletions, and `flush`
is the only statement that writes: it sends the columns that differ from what
was read, the scheduled insertions and deletions and the newly added author
links, in one transaction.  An action keeps the session it has reached even
when it stops early, so nothing about atomicity is built into the monad.
-/

namespace Bibliotheque

/-! ## Entities that are not rows yet -/

structure LivreDraft where
  titre : Option String := none
  dateSortie : Option Date := none
  langue : Option String := none
  photoCouverture : Option String := none
  categorie : Option ℕ := none

structure AuteurDraft where
  nom : Option String := none
  prenom : Option String := none
  dateNaiss : Option Date := none
  dateDeces : Option Date := none
  nationalite : Option String := none
  photo : Option String := none
  description : Option String := none

structure CategorieDraft where
  nom : Option String := none
  description : Option String := none

structure EmpruntDraft where
  dateEmprunt : Option Date := none
  dateRetour : Option Date := none
  emprunteur : Option ℕ := none
  livre : Option ℕ := none

structure ReservationsDraft where
  dateResa : Option Date := none
  livre : Option ℕ := none
  reservateur : Option ℕ := none

structure UtilisateurDraft where
  email : Option String := none
  roles : List (Key × Value) := []
  password : Option String := none
  dateAdhesion : Option Date := none
  nom : Option String := none
  prenom : Option String := none
  dateNaiss : Option Date := none
  adressePostale : Option String := none
  numTel : Option ℤ := none
  photo : Option String := none

/-- An object given to `persist`. -/
inductive Entity where
  | livre (draft : LivreDraft)
  | auteur (draft : AuteurDraft)
  | categorie (draft : CategorieDraft)
  | emprunt (draft : EmpruntDraft)
  | reservations (draft : ReservationsDraft)
  | utilisateur (draft : UtilisateurDraft)

/-! A draft becomes a row once every `NOT NULL` column has a value. -/

def LivreDraft.row (draft : LivreDraft) : Option Livre := do
  return {
    titre := ← draft.titre
    dateSortie := ← draft.dateSortie
    langue := ← draft.langue
    photoCouverture := draft.photoCouverture
    categorie := ← draft.categorie }

def AuteurDraft.row (draft : AuteurDraft) : Option Auteur := do
  return {
    nom := ← draft.nom
    prenom := ← draft.prenom
    dateNaiss := ← draft.dateNaiss
    dateDeces := draft.dateDeces
    nationalite := ← draft.nationalite
    photo := draft.photo
    description := ← draft.description }

def CategorieDraft.row (draft : CategorieDraft) : Option Categorie := do
  return { nom := ← draft.nom, description := ← draft.description }

def EmpruntDraft.row (draft : EmpruntDraft) : Option Emprunt := do
  return {
    dateEmprunt := ← draft.dateEmprunt
    dateRetour := draft.dateRetour
    emprunteur := ← draft.emprunteur
    livre := ← draft.livre }

def ReservationsDraft.row (draft : ReservationsDraft) : Option Reservations := do
  return {
    dateResa := ← draft.dateResa
    livre := ← draft.livre
    reservateur := ← draft.reservateur }

def UtilisateurDraft.row (draft : UtilisateurDraft) : Option Utilisateur := do
  return {
    email := ← draft.email
    roles := draft.roles
    password := ← draft.password
    dateAdhesion := ← draft.dateAdhesion
    nom := ← draft.nom
    prenom := ← draft.prenom
    dateNaiss := ← draft.dateNaiss
    adressePostale := ← draft.adressePostale
    numTel := ← draft.numTel
    photo := draft.photo }

/-- `INSERT` of an entity, with the number it receives. -/
def Entity.insert (tables : Tables) : Entity → Option (Tables × ℕ)
  | .livre draft => draft.row.map fun row =>
      ({ tables with livre := tables.livre.insert row }, tables.livre.next)
  | .auteur draft => draft.row.map fun row =>
      ({ tables with auteur := tables.auteur.insert row }, tables.auteur.next)
  | .categorie draft => draft.row.map fun row =>
      ({ tables with categorie := tables.categorie.insert row },
        tables.categorie.next)
  | .emprunt draft => draft.row.map fun row =>
      ({ tables with emprunt := tables.emprunt.insert row }, tables.emprunt.next)
  | .reservations draft => draft.row.map fun row =>
      ({ tables with reservations := tables.reservations.insert row },
        tables.reservations.next)
  | .utilisateur draft => draft.row.map fun row =>
      ({ tables with utilisateur := tables.utilisateur.insert row },
        tables.utilisateur.next)

/-- The rows are the same; numbers may have been lost. -/
structure Tables.Skipped (before after : Tables) : Prop where
  livre : after.livre.rows = before.livre.rows ∧ before.livre.next ≤ after.livre.next
  auteur : after.auteur.rows = before.auteur.rows ∧ before.auteur.next ≤ after.auteur.next
  categorie : after.categorie.rows = before.categorie.rows ∧
    before.categorie.next ≤ after.categorie.next
  emprunt : after.emprunt.rows = before.emprunt.rows ∧
    before.emprunt.next ≤ after.emprunt.next
  reservations : after.reservations.rows = before.reservations.rows ∧
    before.reservations.next ≤ after.reservations.next
  utilisateur : after.utilisateur.rows = before.utilisateur.rows ∧
    before.utilisateur.next ≤ after.utilisateur.next
  livreAuteur : after.livreAuteur = before.livreAuteur

theorem Tables.skipped_refl (tables : Tables) : tables.Skipped tables where
  livre := ⟨rfl, le_rfl⟩
  auteur := ⟨rfl, le_rfl⟩
  categorie := ⟨rfl, le_rfl⟩
  emprunt := ⟨rfl, le_rfl⟩
  reservations := ⟨rfl, le_rfl⟩
  utilisateur := ⟨rfl, le_rfl⟩
  livreAuteur := rfl

/-- A lost number is in no column. -/
theorem Tables.Skipped.ids_eq {before after : Tables} (hskipped : before.Skipped after) :
    after.livre.ids = before.livre.ids ∧ after.auteur.ids = before.auteur.ids ∧
      after.categorie.ids = before.categorie.ids ∧
      after.utilisateur.ids = before.utilisateur.ids :=
  ⟨congrArg (List.map Prod.fst) hskipped.livre.1,
    congrArg (List.map Prod.fst) hskipped.auteur.1,
    congrArg (List.map Prod.fst) hskipped.categorie.1,
    congrArg (List.map Prod.fst) hskipped.utilisateur.1⟩

/-- The counters once an `INSERT` is rolled back.  A row that the columns take has
got its number before its keys are checked, and that number is lost; a row with a
missing or an unfit column is refused before. -/
def Entity.reserve (tables : Tables) : Entity → Tables
  | .livre draft =>
      if ∃ row ∈ draft.row, row.store.Fits then
        { tables with livre := tables.livre.skip } else tables
  | .auteur draft =>
      if ∃ row ∈ draft.row, row.store.Fits then
        { tables with auteur := tables.auteur.skip } else tables
  | .categorie draft =>
      if ∃ row ∈ draft.row, row.store.Fits then
        { tables with categorie := tables.categorie.skip } else tables
  | .emprunt draft =>
      if ∃ row ∈ draft.row, row.Fits then
        { tables with emprunt := tables.emprunt.skip } else tables
  | .reservations draft =>
      if ∃ row ∈ draft.row, row.Fits then
        { tables with reservations := tables.reservations.skip } else tables
  | .utilisateur draft =>
      if ∃ row ∈ draft.row, row.store.Fits then
        { tables with utilisateur := tables.utilisateur.skip } else tables

/-- A lost number breaks no constraint. -/
theorem Tables.Valid.reserve {tables : Tables} (hvalid : tables.Valid) (entity : Entity) :
    (entity.reserve tables).Valid := by
  have hkept : ∀ {condition : Prop} [Decidable condition] {counted : Tables}, counted.Valid →
      (if condition then counted else tables).Valid :=
    fun hcounted => iteInduction (motive := Valid) (fun _ => hcounted) fun _ => hvalid
  cases entity with
  | livre draft => exact hkept { hvalid with }
  | auteur draft => exact hkept { hvalid with }
  | categorie draft => exact hkept { hvalid with }
  | emprunt draft => exact hkept { hvalid with }
  | reservations draft => exact hkept { hvalid with }
  | utilisateur draft => exact hkept { hvalid with }

theorem Entity.skipped_reserve (tables : Tables) (entity : Entity) :
    tables.Skipped (entity.reserve tables) := by
  have hkept : ∀ {condition : Prop} [Decidable condition] {counted : Tables},
      tables.Skipped counted → tables.Skipped (if condition then counted else tables) :=
    fun hcounted => iteInduction (motive := tables.Skipped) (fun _ => hcounted)
      fun _ => tables.skipped_refl
  cases entity with
  | livre draft => exact hkept { tables.skipped_refl with livre := ⟨rfl, Nat.le_succ _⟩ }
  | auteur draft => exact hkept { tables.skipped_refl with auteur := ⟨rfl, Nat.le_succ _⟩ }
  | categorie draft =>
      exact hkept { tables.skipped_refl with categorie := ⟨rfl, Nat.le_succ _⟩ }
  | emprunt draft =>
      exact hkept { tables.skipped_refl with emprunt := ⟨rfl, Nat.le_succ _⟩ }
  | reservations draft =>
      exact hkept { tables.skipped_refl with reservations := ⟨rfl, Nat.le_succ _⟩ }
  | utilisateur draft =>
      exact hkept { tables.skipped_refl with utilisateur := ⟨rfl, Nat.le_succ _⟩ }

/-! ## Change sets -/

def Livre.write (loaded managed stored : Livre) : Livre where
  titre := column loaded.titre managed.titre stored.titre
  dateSortie := column loaded.dateSortie managed.dateSortie stored.dateSortie
  langue := column loaded.langue managed.langue stored.langue
  photoCouverture :=
    column loaded.photoCouverture managed.photoCouverture stored.photoCouverture
  categorie := column loaded.categorie managed.categorie stored.categorie

def Auteur.write (loaded managed stored : Auteur) : Auteur where
  nom := column loaded.nom managed.nom stored.nom
  prenom := column loaded.prenom managed.prenom stored.prenom
  dateNaiss := column loaded.dateNaiss managed.dateNaiss stored.dateNaiss
  dateDeces := column loaded.dateDeces managed.dateDeces stored.dateDeces
  nationalite := column loaded.nationalite managed.nationalite stored.nationalite
  photo := column loaded.photo managed.photo stored.photo
  description := column loaded.description managed.description stored.description

def Categorie.write (loaded managed stored : Categorie) : Categorie where
  nom := column loaded.nom managed.nom stored.nom
  description := column loaded.description managed.description stored.description

def Emprunt.write (loaded managed stored : Emprunt) : Emprunt where
  dateEmprunt := column loaded.dateEmprunt managed.dateEmprunt stored.dateEmprunt
  dateRetour := column loaded.dateRetour managed.dateRetour stored.dateRetour
  emprunteur := column loaded.emprunteur managed.emprunteur stored.emprunteur
  livre := column loaded.livre managed.livre stored.livre

def Reservations.write (loaded managed stored : Reservations) : Reservations where
  dateResa := column loaded.dateResa managed.dateResa stored.dateResa
  livre := column loaded.livre managed.livre stored.livre
  reservateur := column loaded.reservateur managed.reservateur stored.reservateur

def Utilisateur.write (loaded managed stored : Utilisateur) : Utilisateur where
  email := column loaded.email managed.email stored.email
  roles := column loaded.roles managed.roles stored.roles
  password := column loaded.password managed.password stored.password
  dateAdhesion := column loaded.dateAdhesion managed.dateAdhesion stored.dateAdhesion
  nom := column loaded.nom managed.nom stored.nom
  prenom := column loaded.prenom managed.prenom stored.prenom
  dateNaiss := column loaded.dateNaiss managed.dateNaiss stored.dateNaiss
  adressePostale :=
    column loaded.adressePostale managed.adressePostale stored.adressePostale
  numTel := column loaded.numTel managed.numTel stored.numTel
  photo := column loaded.photo managed.photo stored.photo

/-- `UPDATE` of the managed rows of one table. -/
def Table.write {Row : Type*} (merge : Row → Row → Row → Row)
    (loaded managed stored : Table Row) : Table Row :=
  stored.mapRows fun id row =>
    match loaded.find id, managed.find id with
    | some old, some new => merge old new row
    | _, _ => row

/-- The `UPDATE` statements of a flush. -/
def Tables.write (loaded managed stored : Tables) : Tables where
  livre := Table.write Livre.write loaded.livre managed.livre stored.livre
  auteur := Table.write Auteur.write loaded.auteur managed.auteur stored.auteur
  categorie := Table.write Categorie.write loaded.categorie managed.categorie
    stored.categorie
  emprunt := Table.write Emprunt.write loaded.emprunt managed.emprunt stored.emprunt
  reservations := Table.write Reservations.write loaded.reservations
    managed.reservations stored.reservations
  utilisateur := Table.write Utilisateur.write loaded.utilisateur
    managed.utilisateur stored.utilisateur
  livreAuteur := stored.livreAuteur

/-! ## The session -/

/-- An object of the request: a managed row, or the object made by `new`. -/
inductive Ref where
  | managed (id : ℕ)
  | fresh
  deriving DecidableEq

/-- The row number of an object, once the new one has got its number. -/
def Ref.number (fresh : ℕ) : Ref → ℕ
  | .managed id => id
  | .fresh => fresh

/-- The collections `Livre::$auteurs` and `Auteur::$livres` as loaded. -/
def Tables.liens (tables : Tables) : Liens Ref Ref where
  auteurs
    | .managed livre => (tables.livreAuteur.filter (·.1 = livre)).map (.managed ·.2)
    | .fresh => []
  livres
    | .managed auteur => (tables.livreAuteur.filter (·.2 = auteur)).map (.managed ·.1)
    | .fresh => []

/-- The database and the entity manager of one request. -/
structure Session where
  base : Base
  /-- The rows as they were read. -/
  loaded : Tables
  /-- The same entities after the setters. -/
  managed : Tables
  liens : Liens Ref Ref
  persisted : Option Entity
  removed : List Ligne
  /-- The number given by the last insertion. -/
  insertId : ℕ

namespace Session

def start (base : Base) : Session where
  base := base
  loaded := base.toTables
  managed := base.toTables
  liens := base.toTables.liens
  persisted := none
  removed := []
  insertId := 0

/-- The author links that were not there when the collections were loaded.
Only the owning side `Livre::$auteurs` is written. -/
def newLinks (session : Session) (fresh : ℕ) : List (ℕ × ℕ) :=
  (session.managed.livre.ids.map Ref.managed ++ [Ref.fresh]).flatMap fun livre =>
    ((session.liens.auteurs livre).filter
      (· ∉ session.loaded.liens.auteurs livre)).map
        fun auteur => (livre.number fresh, auteur.number fresh)

/-- The statements of a flush, in their order. -/
def commit (session : Session) : Except Throwable (Tables × ℕ) := do
  let written := Tables.write session.loaded session.managed session.base.toTables
  let (inserted, fresh) ←
    match session.persisted with
    | none => .ok (written, 0)
    | some entity =>
        match entity.insert written with
        | some result => .ok result
        | none => .error .integrityViolation
  let linked :=
    { inserted with livreAuteur := inserted.livreAuteur ++ session.newLinks fresh }
  let deleted ← linked.executeDeletions (Tables.commitOrder session.removed)
  return (deleted, fresh)

/-- The database after the transaction of a flush is rolled back. -/
def rolledBack (session : Session) : Base :=
  match session.persisted with
  | none => session.base
  | some entity =>
      ⟨entity.reserve session.base.toTables, session.base.valid.reserve entity⟩

/-- Only an insertion loses a number. -/
theorem rolledBack_of_not_persisted {session : Session}
    (hpersisted : session.persisted = none) : session.rolledBack = session.base := by
  rw [rolledBack, hpersisted]

theorem skipped_rolledBack (session : Session) :
    session.base.Skipped session.rolledBack.toTables := by
  unfold rolledBack
  cases session.persisted with
  | none => exact session.base.skipped_refl
  | some entity => exact entity.skipped_reserve session.base.toTables

end Session

/-! ## Answers and actions -/

structure Response where
  status : ℕ
  body : Value

/-- How a handler ends: with a response, or with an uncaught throwable. -/
inductive Outcome where
  | response (response : Response)
  | thrown (throwable : Throwable)

/-- The request succeeded. -/
def Outcome.Success : Outcome → Prop
  | .response sent => 200 ≤ sent.status ∧ sent.status < 300
  | .thrown _ => False

instance (outcome : Outcome) : Decidable outcome.Success :=
  match outcome with
  | .response _ => inferInstanceAs (Decidable (_ ∧ _))
  | .thrown _ => inferInstanceAs (Decidable False)

theorem Outcome.success_of_status {status : ℕ} {body : Value}
    (hstatus : 200 ≤ status ∧ status < 300) :
    (Outcome.response ⟨status, body⟩).Success := hstatus

/-- A statement of a handler.  An early `return` stops the handler as an
exception does. -/
abbrev Action := EStateM Outcome Session

namespace Action

variable {Out : Type}

/-- A call into PHP itself. -/
def php : Except Throwable Out → Action Out
  | .ok value => pure value
  | .error throwable => throw (.thrown throwable)

/-- `return new JsonResponse(...)` before the end of the handler. -/
def answer (status : ℕ) (body : List (String × Value)) : Action Out :=
  throw (.response ⟨status, .object body⟩)

/-- `if (...) { return ...; }`. -/
def answerIf (condition : Bool) (status : ℕ) (body : List (String × Value)) :
    Action Unit :=
  if condition then answer status body else pure ()

/-- `if (isset($data[...])) { ... }`. -/
def ifSet {In : Type} (value : Option In) (body : In → Action Unit) : Action Unit :=
  match value with
  | some value => body value
  | none => pure ()

/-- `foreach ($values as $value) { ... }`. -/
def foreach (runtime : Runtime) (values : Value) (body : Value → Action Unit) :
    Action Unit :=
  match values.elements with
  | some items => items.forM body
  | none =>
      if runtime.debug then
        throw (.thrown (.warning "foreach() argument must be of type array|object"))
      else pure ()

/-- `$repository->find($id)`. -/
def find {Row : Type} (runtime : Runtime) (table : Tables → Table Row)
    (id : Value) : Action (Option ℕ) := do
  let number ← php (runtime.rowId id)
  let session ← get
  return number.filter fun id => id ∈ (table session.managed).ids

/-- `$entityManager->persist($entity)`. -/
def persist (entity : Entity) : Action Unit :=
  modify fun session => { session with persisted := some entity }

/-- `$entityManager->remove($entity)`. -/
def remove (entity : Ligne) : Action Unit := do
  let session ← get
  match session.managed.doRemove entity with
  | some removed => modify fun session => { session with removed := removed }
  | none => throw (.thrown (.error "Maximum function nesting level reached"))

/-- `$entityManager->flush()`: one transaction, rolled back as a whole. -/
def flush : Action Unit := fun session =>
  match session.commit with
  | .ok (tables, fresh) =>
      if hvalid : tables.store.Valid then
        .ok () { Session.start ⟨tables.store, hvalid⟩ with insertId := fresh }
      else
        .error (.thrown .integrityViolation) { session with base := session.rolledBack }
  | .error throwable => .error (.thrown throwable) session

/-- `getId()` of the object that was just inserted. -/
def insertedId : Action Value := do
  let session ← get
  return .int session.insertId

/-- `$livre->addAuteur($auteur)`. -/
def addAuteur (livre auteur : Ref) : Action Unit :=
  modify fun session =>
    { session with liens := session.liens.addAuteur livre auteur }

/-- `$auteur->addLivre($livre)`. -/
def addLivre (auteur livre : Ref) : Action Unit :=
  modify fun session =>
    { session with liens := session.liens.addLivre auteur livre }

/-! Setters of a managed entity. -/

def setLivre (id : ℕ) (rewrite : Livre → Livre) : Action Unit :=
  modify fun session => { session with managed :=
    { session.managed with livre := session.managed.livre.modify id rewrite } }

def setAuteur (id : ℕ) (rewrite : Auteur → Auteur) : Action Unit :=
  modify fun session => { session with managed :=
    { session.managed with auteur := session.managed.auteur.modify id rewrite } }

def setCategorie (id : ℕ) (rewrite : Categorie → Categorie) : Action Unit :=
  modify fun session => { session with managed :=
    { session.managed with
      categorie := session.managed.categorie.modify id rewrite } }

def setEmprunt (id : ℕ) (rewrite : Emprunt → Emprunt) : Action Unit :=
  modify fun session => { session with managed :=
    { session.managed with emprunt := session.managed.emprunt.modify id rewrite } }

def setReservations (id : ℕ) (rewrite : Reservations → Reservations) :
    Action Unit :=
  modify fun session => { session with managed :=
    { session.managed with
      reservations := session.managed.reservations.modify id rewrite } }

def setUtilisateur (id : ℕ) (rewrite : Utilisateur → Utilisateur) : Action Unit :=
  modify fun session => { session with managed :=
    { session.managed with
      utilisateur := session.managed.utilisateur.modify id rewrite } }

/-- Run a handler on a committed state: how it ends, and the state it leaves. -/
def serve (handler : Action Response) (base : Base) : Outcome × Base :=
  match handler (Session.start base) with
  | .ok response session => (.response response, session.base)
  | .error outcome session => (outcome, session.base)

/-! ## Rules for the statements -/

section Rules

open Program

variable {post : Out → Session → Prop} {stop : Outcome → Session → Prop}
variable {session : Session}

/-- What a handler guarantees about its end and the state it leaves is a
precondition of the fresh session. -/
theorem serve_iff_wp (handler : Action Response) (base : Base)
    (property : Outcome → Base → Prop) :
    property (serve handler base).1 (serve handler base).2 ↔
      wp handler (fun response final => property (.response response) final.base)
        (fun outcome final => property outcome final.base) (Session.start base) := by
  unfold serve wp
  cases handler (Session.start base) with
  | ok response final => rfl
  | error outcome final => rfl

/-- A handler that runs to its end. -/
theorem serve_of_wp {handler : Action Response} {base final : Base}
    {response : Response}
    (hwp : wp handler (fun sent session => sent = response ∧ session.base = final)
      (fun _ _ => False) (Session.start base)) :
    serve handler base = (.response response, final) := by
  obtain ⟨sent, session, hrun, rfl, rfl⟩ := wp_stop_false_iff.mp hwp
  unfold serve
  rw [hrun]

@[simp]
theorem wp_php_ok (value : Out) :
    wp (php (.ok value)) post stop session ↔ post value session := Iff.rfl

@[simp]
theorem wp_php_error (throwable : Throwable) :
    wp (php (.error throwable) : Action Out) post stop session ↔
      stop (.thrown throwable) session := Iff.rfl

@[simp]
theorem wp_answer (status : ℕ) (body : List (String × Value)) :
    wp (answer status body : Action Out) post stop session ↔
      stop (.response ⟨status, .object body⟩) session := Iff.rfl

@[simp]
theorem wp_answerIf {post : Unit → Session → Prop} (condition : Bool) (status : ℕ)
    (body : List (String × Value)) :
    wp (answerIf condition status body) post stop session ↔
      if condition then stop (.response ⟨status, .object body⟩) session
      else post () session := by
  cases condition <;> rfl

@[simp]
theorem wp_ifSet_some {In : Type} {post : Unit → Session → Prop} (value : In)
    (body : In → Action Unit) :
    wp (ifSet (some value) body) post stop session ↔
      wp (body value) post stop session := Iff.rfl

@[simp]
theorem wp_ifSet_none {In : Type} {post : Unit → Session → Prop}
    (body : In → Action Unit) :
    wp (ifSet none body) post stop session ↔ post () session := Iff.rfl

@[simp]
theorem wp_persist {post : Unit → Session → Prop} (entity : Entity) :
    wp (persist entity) post stop session ↔
      post () { session with persisted := some entity } := Iff.rfl

@[simp]
theorem wp_insertedId {post : Value → Session → Prop} :
    wp insertedId post stop session ↔ post (.int session.insertId) session :=
  Iff.rfl

theorem wp_find {Row : Type} {post : Option ℕ → Session → Prop}
    (runtime : Runtime) (table : Tables → Table Row) (id : Value) :
    wp (find runtime table id) post stop session ↔
      match runtime.rowId id with
      | .ok number =>
          post (number.filter fun id => id ∈ (table session.managed).ids) session
      | .error throwable => stop (.thrown throwable) session := by
  rw [find, wp_bind]
  cases runtime.rowId id with
  | ok number => rfl
  | error throwable => rfl

/-- `find` with the number of an existing row. -/
theorem wp_find_of_mem {Row : Type} {post : Option ℕ → Session → Prop}
    (runtime : Runtime) {table : Tables → Table Row} {value : Value} {id : ℕ}
    (hvalue : runtime.rowId value = .ok (some id))
    (hid : id ∈ (table session.managed).ids) :
    wp (find runtime table value) post stop session ↔ post (some id) session := by
  rw [wp_find, hvalue]
  simp [Option.filter_some, hid]

/-- `find` with the number in the path, which a row has. -/
theorem wp_findPath_of_mem {Row Next : Type} {next : Option ℕ → Action Next}
    {post : Next → Session → Prop} (runtime : Runtime) {table : Tables → Table Row}
    {id : ℕ} (hid : id ∈ (table session.managed).ids) :
    wp (find runtime table (.int id) >>= next) post stop session ↔
      wp (next (some id)) post stop session := by
  rw [wp_bind, wp_find_of_mem runtime (runtime.rowId_int id) hid]

/-- `find` with a number no row has. -/
theorem wp_find_of_not_mem {Row : Type} {post : Option ℕ → Session → Prop}
    (runtime : Runtime) {table : Tables → Table Row} {value : Value} {id : ℕ}
    (hvalue : runtime.rowId value = .ok (some id))
    (hid : id ∉ (table session.managed).ids) :
    wp (find runtime table value) post stop session ↔ post none session := by
  rw [wp_find, hvalue]
  simp [Option.filter_some, hid]

theorem wp_remove {post : Unit → Session → Prop} (entity : Ligne) :
    wp (remove entity) post stop session ↔
      match session.managed.doRemove entity with
      | some removed => post () { session with removed := removed }
      | none => stop (.thrown (.error "Maximum function nesting level reached"))
          session := by
  rw [remove, wp_bind, wp_get]
  cases session.managed.doRemove entity with
  | some removed => rfl
  | none => rfl

theorem wp_remove_of_eq {post : Unit → Session → Prop} {entity : Ligne}
    {removed : List Ligne}
    (hremoved : session.managed.doRemove entity = some removed) :
    wp (remove entity) post stop session ↔
      post () { session with removed := removed } := by
  rw [wp_remove, hremoved]

theorem wp_flush {post : Unit → Session → Prop} :
    wp flush post stop session ↔
      match session.commit with
      | .ok (tables, fresh) =>
          if hvalid : tables.store.Valid then
            post () { Session.start ⟨tables.store, hvalid⟩ with insertId := fresh }
          else
            stop (.thrown .integrityViolation) { session with base := session.rolledBack }
      | .error throwable => stop (.thrown throwable) session := by
  unfold wp flush
  cases session.commit with
  | ok result =>
      dsimp only
      split <;> rename_i hrun <;> split at hrun <;> simp_all
  | error throwable => rfl

/-- A flush whose statements the server accepts. -/
theorem wp_flush_of_commit {post : Unit → Session → Prop} {tables : Tables}
    {fresh : ℕ} (hcommit : session.commit = .ok (tables, fresh))
    (hvalid : tables.Valid) :
    wp flush post stop session ↔
      post () { Session.start ⟨tables, hvalid⟩ with insertId := fresh } := by
  rw [wp_flush, hcommit]
  dsimp only
  rw [hvalid.store_eq, dif_pos hvalid]

end Rules

/-! ## Statements that only compute

They maintain any property of the session. -/

section Maintains

open Program

variable {invariant : Session → Prop}

theorem maintains_php (result : Except Throwable Out) :
    Maintains invariant (php result) := by
  cases result with
  | ok value => exact maintains_pure value
  | error throwable => exact maintains_throw _

/-- A call into PHP returns what PHP returns. -/
theorem yields_php (result : Except Throwable Out) :
    Yields invariant (fun value => result = .ok value) (php result) := by
  intro session hsession
  cases result with
  | ok value => exact ⟨rfl, hsession⟩
  | error throwable => exact hsession

theorem maintains_answer (status : ℕ) (body : List (String × Value)) :
    Maintains invariant (answer status body : Action Out) :=
  maintains_throw _

theorem maintains_answerIf (condition : Bool) (status : ℕ)
    (body : List (String × Value)) :
    Maintains invariant (answerIf condition status body) :=
  Maintains.ite (maintains_answer status body) (maintains_pure _)

/-- Past a test that answers, the test was false. -/
theorem yields_answerIf (condition : Bool) (status : ℕ)
    (body : List (String × Value)) :
    Yields invariant (fun _ => condition = false)
      (answerIf condition status body) := by
  intro session hsession
  cases condition with
  | true => exact hsession
  | false => exact ⟨rfl, hsession⟩

theorem maintains_ifSet {In : Type} {value : Option In} {body : In → Action Unit}
    (hbody : ∀ given, value = some given → Maintains invariant (body given)) :
    Maintains invariant (ifSet value body) := by
  cases value with
  | some value => exact hbody value rfl
  | none => exact maintains_pure _

/-- `if (isset($data['key'])) { $entity->setKey($data['key']); }`. -/
theorem maintains_setter {value : Option Value}
    {read : Value → Except Throwable Out} {set : Out → Action Unit}
    (hset : ∀ given out, value = some given → read given = .ok out →
      Maintains invariant (set out)) :
    Maintains invariant (ifSet value fun given => php (read given) >>= set) :=
  maintains_ifSet fun given hgiven =>
    (yields_php _).bind fun out hout => hset given out hgiven hout

theorem maintains_foreach (runtime : Runtime) (values : Value)
    {body : Value → Action Unit} (hbody : ∀ value, Maintains invariant (body value)) :
    Maintains invariant (foreach runtime values body) := by
  unfold foreach
  split
  · exact Maintains.forM hbody _
  · exact Maintains.ite (maintains_throw _) (maintains_pure _)

theorem maintains_find {Row : Type} (runtime : Runtime)
    (table : Tables → Table Row) (id : Value) :
    Maintains invariant (find runtime table id) :=
  (maintains_php _).bind fun _ => maintains_get.bind fun _ => maintains_pure _

theorem maintains_insertedId : Maintains invariant insertedId :=
  maintains_get.bind fun _ => maintains_pure _

/-- What a handler maintains holds of the state it leaves. -/
theorem exists_session_of_maintains {handler : Action Response}
    (hhandler : Maintains invariant handler) {base : Base}
    (hstart : invariant (Session.start base)) :
    ∃ session, invariant session ∧ (serve handler base).2 = session.base := by
  have hend := (serve_iff_wp handler base fun _ final =>
    ∃ session, invariant session ∧ final = session.base).mpr
  refine hend (wp_mono (hhandler _ hstart) ?_ ?_)
  · exact fun _ final hfinal => ⟨final, hfinal, rfl⟩
  · exact fun _ final hfinal => ⟨final, hfinal, rfl⟩

/-- `find`, the answer for an unknown row, and the rest of the handler. -/
theorem maintains_findOr {Row : Type} (runtime : Runtime)
    (table : Tables → Table Row) (id : Value) {status : ℕ}
    {body : List (String × Value)} {next : ℕ → Action Out}
    (hnext : ∀ found, Maintains invariant (next found)) :
    Maintains invariant (do
      let some found ← find runtime table id | answer status body
      next found) := by
  refine (maintains_find runtime table id).bind ?_
  intro found
  cases found with
  | some found => exact hnext found
  | none => exact maintains_answer status body

end Maintains

/-! ## Statements that do not write -/

section Calme

open Program

/-- The statement leaves the committed state and the object to insert alone. -/
abbrev Calme (program : Action Out) : Prop :=
  Preserves (fun session => (session.base, session.persisted)) program

theorem calme_php (result : Except Throwable Out) : Calme (php result) :=
  fun _ => maintains_php result

theorem calme_answer (status : ℕ) (body : List (String × Value)) :
    Calme (answer status body : Action Out) :=
  fun _ => maintains_answer status body

theorem calme_answerIf (condition : Bool) (status : ℕ)
    (body : List (String × Value)) : Calme (answerIf condition status body) :=
  fun _ => maintains_answerIf condition status body

theorem calme_ifSet {In : Type} (value : Option In) {body : In → Action Unit}
    (hbody : ∀ value, Calme (body value)) : Calme (ifSet value body) :=
  fun shown => maintains_ifSet fun given _ => hbody given shown

theorem calme_setter (value : Option Value) (read : Value → Except Throwable Out)
    {set : Out → Action Unit} (hset : ∀ out, Calme (set out)) :
    Calme (ifSet value fun given => php (read given) >>= set) :=
  fun shown => maintains_setter fun _ out _ _ => hset out shown

theorem calme_foreach (runtime : Runtime) (values : Value)
    {body : Value → Action Unit} (hbody : ∀ value, Calme (body value)) :
    Calme (foreach runtime values body) :=
  fun shown => maintains_foreach runtime values fun value => hbody value shown

theorem calme_find {Row : Type} (runtime : Runtime) (table : Tables → Table Row)
    (id : Value) : Calme (find runtime table id) :=
  fun _ => maintains_find runtime table id

theorem calme_modify {rewrite : Session → Session}
    (hrewrite : ∀ session, (rewrite session).base = session.base ∧
      (rewrite session).persisted = session.persisted) :
    Calme (modify rewrite) :=
  preserves_modify fun session => Prod.ext (hrewrite session).1 (hrewrite session).2

theorem calme_remove (entity : Ligne) : Calme (remove entity) := by
  refine preserves_get.bind ?_
  intro session
  cases session.managed.doRemove entity with
  | some removed => exact calme_modify fun _ => ⟨rfl, rfl⟩
  | none => exact preserves_throw _

end Calme

end Action

end Bibliotheque
