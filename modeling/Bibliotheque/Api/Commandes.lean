import Bibliotheque.Api.Booking
import Bibliotheque.Api.Fonds
import Bibliotheque.Store.Walk

/-!
# Creations and deletions in steps

The handlers that create or delete a row, cut at every read of the database and
before the flush, so that the requests of many clients can overlap.  What the unit of
work has already is not read again.  `POST /api/auteur` is not among them: it skips
unknown books instead of refusing them, so what it does depends on when each of them
was looked up.
-/

namespace Bibliotheque

open Program Bibliotheque.Action

namespace Tache

/-- A call into PHP. -/
def php {Out : Type} (result : Except Throwable Out) (suite : Out → Tache) : Tache :=
  match result with
  | .error throwable => terminee (.thrown throwable)
  | .ok out => suite out

/-- A setter that only runs when the key is present. -/
def siPresent {Out : Type} (value : Option Value) (read : Value → Except Throwable Out)
    (suite : Option Out → Tache) : Tache :=
  match value with
  | none => suite none
  | some given => php (read given) fun out => suite (some out)

/-- `$repository->find($id)`, tested later. -/
def chercher {Row : Type} (runtime : Runtime) (table : Tables → Table Row) (id : Value)
    (suite : Base → Option ℕ → Tache) : Tache :=
  lecture fun base =>
    php (runtime.rowId id) fun number =>
      suite base (number.filter fun id => id ∈ (table base.toTables).ids)

/-- The identity map has an object under this argument of `find`. -/
def connu (connus : List ℕ) (id : Value) (number : ℕ) : Bool :=
  number ∈ connus ∧ id.toString.toOption = some (toString number)

/-- `find` in a unit of work that has objects already, with the state that was read if
there is a read. -/
def rechercher {Row : Type} (runtime : Runtime) (table : Tables → Table Row)
    (connus : List ℕ) (id : Value) (suite : Option Base → Option ℕ → Tache) : Tache :=
  php (runtime.rowId id) fun number =>
    if number.any (connu connus id) then suite none number
    else lecture fun base =>
      suite (some base) (number.filter fun id => id ∈ (table base.toTables).ids)

/-- `find`, and how the request ends if there is no such row. -/
def obtenir {Row : Type} (runtime : Runtime) (table : Tables → Table Row)
    (connus : List ℕ) (id : Value) (sinon : Outcome) (suite : Option Base → ℕ → Tache) :
    Tache :=
  rechercher runtime table connus id fun lu found =>
    match found with
    | some number => suite lu number
    | none => terminee sinon

end Tache

/-- What the load of a book or a user brings along: the other side of its
reservation. -/
def Base.joints (base : Base) (bout : Bout) (id : ℕ) : List ℕ :=
  ((bout.jointe base.toTables id).map fun row => bout.autre.de row.2).toList

theorem Base.mem_of_mem_joints {base : Base} {bout : Bout} {id number : ℕ}
    (hmember : number ∈ base.joints bout id) : bout.autre.ligne number ∈ base.lignes := by
  obtain ⟨row, hjointe, rfl⟩ := Option.map_eq_some_iff.mp (Option.mem_toList.mp hmember)
  exact Bout.de_mem_lignes base.valid bout.autre
    ((Table.find_eq_some_iff _ _ _).mpr (Bout.jointe_mem hjointe).1)

theorem Base.livre_of_mem_joints {base : Base} {reservateur livre : ℕ}
    (hmember : livre ∈ base.joints .reservateur reservateur) : livre ∈ base.livre.ids :=
  (Tables.mem_lignes_livre _ _).mp (mem_of_mem_joints hmember)

namespace LivreController

/-- The loop over `auteurIds`, with the authors that were found. -/
def auteursSteps (runtime : Runtime) (suite : List ℕ → Tache) :
    List Value → List ℕ → Tache
  | [], auteurs => suite auteurs
  | auteurId :: auteurIds, auteurs =>
      .obtenir runtime Tables.auteur auteurs auteurId
        (.response ⟨404, .object [("error", .str "Author not found")]⟩) fun _ auteur =>
          auteursSteps runtime suite auteurIds (auteurs ++ [auteur])

/-- The new book with its authors, before the flush. -/
def creatingWith (base : Base) (row : Livre) (auteurs : List ℕ) : Session :=
  { Session.start base with
    liens := addAuteurs .fresh auteurs base.liens
    persisted := some (newLivre row) }

def createSteps (runtime : Runtime) (data : Value) : Tache :=
  let auteurIds := (data.field "auteurIds").getD (.arr [])
  if Value.missing (data.field "titre") || Value.missing (data.field "dateSortie") ||
      Value.missing (data.field "langue") || Value.missing (data.field "categorieId") ||
      !auteurIds.truthy then
    .terminee (.response ⟨400, .object [("error", .str "Missing required fields")]⟩)
  else
    .php ((data.field "titre").getD .null).toString fun titre =>
    .php (runtime.newDateTime ((data.field "dateSortie").getD .null)) fun dateSortie =>
    .php ((data.field "langue").getD .null).toString fun langue =>
    .php (Value.toNullableString (data.field "photoCouverture")) fun photoCouverture =>
    .trouver runtime Tables.categorie ((data.field "categorieId").getD .null)
      ⟨404, .object [("error", .str "Category not found")]⟩ fun base categorie =>
        let suite := fun auteurs => .ecriture
          (creatingWith base ⟨titre, dateSortie, langue, photoCouverture, categorie⟩ auteurs)
          fun final => ⟨201, .object [("message", .str "Livre created"),
            ("id", .int final.insertId)]⟩
        match auteurIds.elements with
        | some items => auteursSteps runtime suite items []
        | none =>
            if runtime.debug then
              .terminee (.thrown
                (.warning "foreach() argument must be of type array|object"))
            else suite []

end LivreController

namespace CategorieController

/-- Nothing is read from the database before the flush. -/
def createSteps (data : Value) : Tache :=
  .php (Value.toNullableString (data.field "nom")) fun nom =>
  .php (Value.toNullableString (data.field "description")) fun description =>
  .lecture fun base => .ecriture
    { Session.start base with
      persisted := some (.categorie { nom := nom, description := description }) }
    fun final => ⟨201, .object [("id", .int final.insertId)]⟩

end CategorieController

namespace EmpruntController

def createSteps (runtime : Runtime) (data : Value) : Tache :=
  let dateEmprunt := data.field "dateEmprunt"
  let dateRetour := data.field "dateRetour"
  let emprunteurId := data.field "emprunteurId"
  let livreId := data.field "livreId"
  if Value.missing dateEmprunt || Value.missing dateRetour ||
      Value.missing emprunteurId || Value.missing livreId then
    .terminee (.response ⟨400, .object [("error", .str "Missing required fields")]⟩)
  else
    .php (Runtime.createFromFormat DateTime.dmY (dateEmprunt.getD .null)) fun dateEmprunt =>
    .php (Runtime.createFromFormat DateTime.dmY (dateRetour.getD .null)) fun dateRetour =>
    match dateEmprunt, dateRetour with
    | some dateEmprunt, some dateRetour =>
        .chercher runtime Tables.utilisateur (emprunteurId.getD .null) fun base emprunteur =>
        .rechercher runtime Tables.livre (emprunteur.toList.flatMap (base.joints .reservateur))
            (livreId.getD .null) fun _ livre =>
          if emprunteur.isNone || livre.isNone then
            .terminee (.response ⟨404, .object
              [("error", .str "Emprunteur or Livre not found")]⟩)
          else
            .ecriture
              { Session.start base with persisted := some (.emprunt {
                  dateEmprunt := some dateEmprunt
                  dateRetour := some dateRetour
                  emprunteur := emprunteur
                  livre := livre }) }
              fun final => ⟨201, .object [("message", .str "Emprunt created"),
                ("id", .int final.insertId)]⟩
    | _, _ => .terminee (.response ⟨400, .object
        [("error", .str "Invalid date format. Please use dd/mm/yyyy format.")]⟩)

end EmpruntController

namespace ReservationsController

def createTache (runtime : Runtime) (data : Value) : Tache :=
  let dateResa := data.field "dateResa"
  let reservateurId := data.field "reservateurId"
  let livreId := data.field "livreId"
  if dateResa.isNone || reservateurId.isNone || livreId.isNone then
    .terminee (.response ⟨400, .object [("message", .str "Missing required data")]⟩)
  else
    .php (Runtime.createFromFormat DateTime.dmY (dateResa.getD .null)) fun dateResa =>
    match dateResa with
    | none => .terminee (.response ⟨400, .object
        [("message", .str "Invalid date format. Please use dd/mm/yyyy format.")]⟩)
    | some dateResa =>
        .trouver runtime Tables.utilisateur (reservateurId.getD .null)
          ⟨404, .object [("message", .str "Adherent not found")]⟩ fun base reservateur =>
        .obtenir runtime Tables.livre (base.joints .reservateur reservateur)
          (livreId.getD .null)
          (.response ⟨404, .object [("message", .str "Livre not found")]⟩) fun _ livre =>
        .ecriture
          { Session.start base with
            persisted := some (newReservations ⟨dateResa, livre, reservateur⟩) }
          fun final => ⟨201, .object [("message", .str "Reservation created"),
            ("id", .int final.insertId)]⟩

end ReservationsController

namespace AdherentController

def createSteps (runtime : Runtime) (salt : ℕ) (data : Value) : Tache :=
  .siPresent (data.field "dateAdhesion") (parseDate runtime DateTime.dmY) fun dateAdhesion =>
  .siPresent (data.field "nom") Value.toString fun nom =>
  .siPresent (data.field "prenom") Value.toString fun prenom =>
  .siPresent (data.field "dateNaiss") (parseDate runtime DateTime.dmy) fun dateNaiss =>
  .siPresent (data.field "email") Value.toString fun email =>
  .siPresent (data.field "adressePostale") Value.toString fun adressePostale =>
  .siPresent (data.field "numTel") runtime.toInt fun numTel =>
  .siPresent (data.field "photo") Value.toString fun photo =>
  .siPresent (data.field "roles") Value.toArray fun roles =>
  .siPresent (data.field "password") (parsePassword runtime salt) fun password =>
  .lecture fun base => .ecriture
    { Session.start base with persisted := some (.utilisateur {
        email := email
        roles := roles.getD []
        password := password
        dateAdhesion := dateAdhesion
        nom := nom
        prenom := prenom
        dateNaiss := dateNaiss
        adressePostale := adressePostale
        numTel := numTel
        photo := photo }) }
    fun final => ⟨201, .object [("message", .str "Adherent created"),
      ("id", .int final.insertId)]⟩

end AdherentController

namespace Ressource

/-- What `DELETE` answers for an unknown number. -/
def missing : Ressource → Response
  | livre => ⟨404, .object [("message", .str "Livre not found")]⟩
  | categorie => ⟨404, .object [("message", .str "Categorie not found")]⟩
  | auteur => ⟨404, .object [("message", .str "Auteur not found")]⟩
  | emprunt => ⟨404, .object [("error", .str "Emprunt not found")]⟩
  | reservations => ⟨404, .object [("message", .str "Reservation not found")]⟩
  | adherent => ⟨404, .object [("message", .str "Adherent not found")]⟩

def deleted : Ressource → Response
  | livre => ⟨200, .object [("message", .str "Livre deleted")]⟩
  | categorie => ⟨200, .object [("message", .str "Categorie deleted")]⟩
  | auteur => ⟨200, .object [("message", .str "Auteur deleted")]⟩
  | emprunt => ⟨200, .object [("message", .str "Emprunt deleted")]⟩
  | reservations => ⟨200, .object [("message", .str "Reservation deleted")]⟩
  | adherent => ⟨200, .object [("message", .str "Adherent deleted")]⟩

theorem not_success_missing (ressource : Ressource) :
    ¬ (Outcome.response ressource.missing).Success := by
  cases ressource <;> decide

theorem success_deleted (ressource : Ressource) :
    (Outcome.response ressource.deleted).Success := by
  cases ressource <;> decide

end Ressource

/-! ## Requests among others -/

/-- What is left of a request: a task, a removal that has not found its row yet, or a
removal on its walk. -/
inductive Processus where
  | tache (reste : Tache)
  | suppression (ressource : Ressource) (id : ℕ)
  | marche (ressource : Ressource) (etat : Marche)

namespace Processus

@[match_pattern]
abbrev terminee (outcome : Outcome) : Processus := tache (.terminee outcome)

/-- The next step of a request, on the database as it is now.  After the walk comes the
flush. -/
def avancer (base : Base) : Processus → Processus × Base
  | tache reste => (tache (reste.avancer base).1, (reste.avancer base).2)
  | suppression ressource id =>
      if id ∈ (ressource.table base.toTables).ids then
        (marche ressource (.debut base.toTables (ressource.ligne id)), base)
      else (terminee (.response ressource.missing), base)
  | marche ressource etat =>
      if etat.pile.isEmpty then
        (tache (.ecriture { Session.start base with removed := etat.vus }
          fun _ => ressource.deleted), base)
      else
        match etat.avancer base.toTables with
        | some suivante => (marche ressource suivante, base)
        | none => (terminee (.thrown (.exception "Entity was not found")), base)

end Processus

/-- The database, and what is left of the request of each client. -/
structure Systeme where
  base : Base
  taches : ℕ → Processus

namespace Systeme

/-- One client takes its next step. -/
def avancer (systeme : Systeme) (who : ℕ) : Systeme where
  base := ((systeme.taches who).avancer systeme.base).2
  taches := Function.update systeme.taches who ((systeme.taches who).avancer systeme.base).1

theorem taches_avancer_self (systeme : Systeme) (who : ℕ) :
    (systeme.avancer who).taches who = ((systeme.taches who).avancer systeme.base).1 :=
  Function.update_self _ _ _

theorem taches_avancer_of_ne (systeme : Systeme) {who other : ℕ} (hother : other ≠ who) :
    (systeme.avancer who).taches other = systeme.taches other :=
  Function.update_of_ne hother _ _

end Systeme

/-- The requests that create or delete. -/
inductive Commande where
  | livreCreate (data : Value)
  | categorieCreate (data : Value)
  | empruntCreate (data : Value)
  | reservationsCreate (data : Value)
  | adherentCreate (salt : ℕ) (data : Value)
  | delete (ressource : Ressource) (id : ℕ)

namespace Commande

def requete : Commande → Requete
  | livreCreate data => .livreCreate data
  | categorieCreate data => .categorieCreate data
  | empruntCreate data => .empruntCreate data
  | reservationsCreate data => .reservationsCreate data
  | adherentCreate salt data => .adherentCreate salt data
  | delete ressource id => ressource.delete id

def steps (runtime : Runtime) : Commande → Processus
  | livreCreate data => .tache (LivreController.createSteps runtime data)
  | categorieCreate data => .tache (CategorieController.createSteps data)
  | empruntCreate data => .tache (EmpruntController.createSteps runtime data)
  | reservationsCreate data => .tache (ReservationsController.createTache runtime data)
  | adherentCreate salt data => .tache (AdherentController.createSteps runtime salt data)
  | delete ressource id => .suppression ressource id

/-! ## The steps are those of the handlers -/

section Alone

open Operation

variable {runtime : Runtime} {base : Base}

theorem serve_php {Out : Type} {result : Except Throwable Out} {next : Out → Action Response}
    {suite : Out → Tache}
    (hnext : ∀ out, serve (next out) base = (suite out).seule base) :
    serve (Action.php result >>= next) base = (Tache.php result suite).seule base := by
  cases result with
  | error throwable => exact serve_php_error
  | ok out => exact serve_php_ok.trans (hnext out)

theorem serve_whenSet {Out : Type} {value : Option Value}
    {read : Value → Except Throwable Out} {next : Option Out → Action Response}
    {suite : Option Out → Tache}
    (hnext : ∀ out, serve (next out) base = (suite out).seule base) :
    serve (AdherentController.whenSet value (fun given => Action.php (read given)) >>= next)
        base = (Tache.siPresent value read suite).seule base := by
  cases value with
  | none => exact hnext none
  | some given =>
      have hread : (AdherentController.whenSet (some given)
          (fun given => Action.php (read given)) >>= next) =
            (Action.php (read given) >>= fun out => next (some out)) := by
        simp only [AdherentController.whenSet, bind_assoc, pure_bind]
      rw [hread]
      exact serve_php fun out => hnext (some out)

theorem serve_chercher {Row : Type} {table : Tables → Table Row} {id : Value}
    {next : Option ℕ → Action Response} {suite : Base → Option ℕ → Tache}
    (hnext : ∀ found, serve (next found) base = (suite base found).seule base) :
    serve (find runtime table id >>= next) base =
      (Tache.chercher runtime table id suite).seule base := by
  have hfind : (find runtime table id >>= next) = (Action.php (runtime.rowId id) >>=
      fun number => get >>= fun session =>
        next (number.filter fun id => id ∈ (table session.managed).ids)) := by
    simp only [find, bind_assoc, pure_bind]
  rw [hfind, Tache.chercher, Tache.seule]
  exact serve_php fun number => hnext _

/-! ### In the middle of a handler -/

/-- How a handler ends that is at some statement. -/
def conclure : EStateM.Result Outcome Session Response → Outcome × Base
  | .ok response session => (.response response, session.base)
  | .error outcome session => (outcome, session.base)

theorem serve_eq_conclure (handler : Action Response) :
    serve handler base = conclure (handler (Session.start base)) := by
  unfold serve conclure
  cases handler (Session.start base) <;> rfl

/-- A `find` in the middle of a handler. -/
theorem find_of_error {Row Out : Type} {table : Tables → Table Row} {id : Value}
    {next : Option ℕ → Action Out} {session : Session} {throwable : Throwable}
    (hrow : runtime.rowId id = .error throwable) :
    (find runtime table id >>= next) session = .error (.thrown throwable) session := by
  simp only [find, hrow]
  rfl

theorem find_of_ok {Row Out : Type} {table : Tables → Table Row} {id : Value}
    {next : Option ℕ → Action Out} {session : Session} {number : Option ℕ}
    (hrow : runtime.rowId id = .ok number) :
    (find runtime table id >>= next) session =
      next (number.filter fun id => id ∈ (table session.managed).ids) session := by
  simp only [find, hrow]
  rfl

theorem conclure_php {Out : Type} {session : Session} {result : Except Throwable Out}
    {next : Out → Action Response} {suite : Out → Tache} (hbase : session.base = base)
    (hnext : ∀ out, conclure (next out session) = (suite out).seule base) :
    conclure ((Action.php result >>= next) session) =
      (Tache.php result suite).seule base := by
  cases result with
  | error throwable =>
      subst hbase
      rfl
  | ok out => exact hnext out

theorem conclure_flush {session : Session} {after : Unit → Action Response}
    {answer : Session → Response} (hbase : session.base = base)
    (hafter : ∀ final, after () final = .ok (answer final) final) :
    conclure ((flush >>= after) session) = (Tache.ecriture session answer).seule base := by
  subst hbase
  rw [Tache.seule]
  cases hflush : flush session with
  | ok value final => simp only [bind, EStateM.bind, hflush, hafter, conclure]
  | error outcome final => simp only [bind, EStateM.bind, hflush, conclure]

/-- What the unit of work has is in the database, as long as nobody else is there. -/
theorem conclure_rechercher {Row : Type} {table : Tables → Table Row} {id : Value}
    {connus : List ℕ} {session : Session} {next : Option ℕ → Action Response}
    {suite : Option Base → Option ℕ → Tache} (hbase : session.base = base)
    (hids : (table session.managed).ids = (table base.toTables).ids)
    (hconnus : ∀ number ∈ connus, number ∈ (table base.toTables).ids)
    (hnext : ∀ found lu,
      (∀ number ∈ found, number ∈ (table base.toTables).ids ∧ (lu = none → number ∈ connus)) →
        (∀ other ∈ lu, other = base) →
          conclure (next found session) = (suite lu found).seule base) :
    conclure ((find runtime table id >>= next) session) =
      (Tache.rechercher runtime table connus id suite).seule base := by
  rw [Tache.rechercher]
  cases hrow : runtime.rowId id with
  | error throwable =>
      rw [find_of_error hrow]
      subst hbase
      rfl
  | ok number =>
      rw [find_of_ok hrow, hids, Tache.php]
      by_cases hknown : number.any (Tache.connu connus id)
      · rw [if_pos hknown]
        obtain ⟨known, rfl, hconnu⟩ := (Option.any_eq_true _ _).mp hknown
        have hknown := (of_decide_eq_true hconnu).1
        have hmember : known ∈ (table base.toTables).ids := hconnus known hknown
        rw [Option.filter_some, if_pos (by simpa using hmember)]
        refine hnext (some known) none (fun found hfound => ?_)
          fun other hother => absurd hother (Option.not_mem_none other)
        cases hfound
        exact ⟨hmember, fun _ => hknown⟩
      · rw [if_neg hknown, Tache.seule]
        refine hnext _ (some base) (fun found hfound =>
          ⟨?_, fun hnone => absurd hnone (Option.some_ne_none base)⟩) fun other hother => ?_
        · simpa using (Option.filter_eq_some_iff.mp hfound).2
        · exact (Option.some.inj hother).symm

theorem conclure_obtenir {Row : Type} {table : Tables → Table Row} {id : Value}
    {connus : List ℕ} {session : Session} {sinon : Outcome}
    {next : Option ℕ → Action Response} {suite : Option Base → ℕ → Tache}
    (hbase : session.base = base)
    (hids : (table session.managed).ids = (table base.toTables).ids)
    (hconnus : ∀ number ∈ connus, number ∈ (table base.toTables).ids)
    (hfound : ∀ number lu, number ∈ (table base.toTables).ids → (∀ other ∈ lu, other = base) →
      conclure (next (some number) session) = (suite lu number).seule base)
    (hmissing : conclure (next none session) = (sinon, base)) :
    conclure ((find runtime table id >>= next) session) =
      (Tache.obtenir runtime table connus id sinon suite).seule base := by
  refine conclure_rechercher hbase hids hconnus fun found lu hmember hlu => ?_
  cases found with
  | some number => exact hfound number lu (hmember number rfl).1 hlu
  | none => exact hmissing

/-! ### The loop over the authors -/

/-- The session of `create` within the loop. -/
def linking (base : Base) (auteurs : List ℕ) : Session :=
  { Session.start base with
    liens := LivreController.addAuteurs .fresh auteurs base.liens }

/-- The end of `create`, after the loop. -/
theorem conclure_persist {entity : Entity} {auteurs : List ℕ}
    {after : Unit → Action Response} {answer : Session → Response}
    (hafter : ∀ final, after () final = .ok (answer final) final) :
    conclure ((persist entity >>= fun _ => flush >>= after) (linking base auteurs)) =
      (Tache.ecriture { linking base auteurs with persisted := some entity }
        answer).seule base :=
  @conclure_flush base { linking base auteurs with persisted := some entity } after answer rfl
    hafter

theorem conclure_forM {next : Unit → Action Response} {suite : List ℕ → Tache}
    (hnext : ∀ auteurs, conclure (next () (linking base auteurs)) =
      (suite auteurs).seule base) :
    ∀ (items : List Value) (auteurs : List ℕ), (∀ auteur ∈ auteurs, auteur ∈ base.auteur.ids) →
      conclure ((items.forM (LivreController.linkAuteur runtime .fresh
          (answer 404 [("error", .str "Author not found")])) >>= next)
        (linking base auteurs)) =
        (LivreController.auteursSteps runtime suite items auteurs).seule base := by
  intro items
  induction items with
  | nil => exact fun auteurs _ => hnext auteurs
  | cons item items ih =>
      intro auteurs hauteurs
      have hloop : ((item :: items).forM (LivreController.linkAuteur runtime .fresh
          (answer 404 [("error", .str "Author not found")])) >>= next) = _ :=
        (bind_assoc (LivreController.linkAuteur runtime .fresh _ item) _ _).trans
          (bind_assoc (find runtime Tables.auteur item) _ _)
      rw [hloop, LivreController.auteursSteps]
      refine conclure_obtenir rfl rfl hauteurs (fun auteur _ hauteur _ => ?_) rfl
      have hlinked : linking base (auteurs ++ [auteur]) =
          { linking base auteurs with liens :=
            (linking base auteurs).liens.addAuteur .fresh (.managed auteur) } := by
        simp [linking, LivreController.addAuteurs]
      rw [← ih (auteurs ++ [auteur]) (List.forall_mem_append.mpr
        ⟨hauteurs, by simpa using hauteur⟩), hlinked]
      rfl

/-! ### The handlers -/

theorem serve_livreCreate (data : Value) :
    serve (LivreController.create runtime data) base =
      (LivreController.createSteps runtime data).seule base := by
  unfold LivreController.create LivreController.createSteps
  dsimp only
  rw [serve_answerIf]
  split
  · rfl
  · refine serve_php fun titre => serve_php fun dateSortie => ?_
    refine serve_php fun langue => serve_php fun photoCouverture => ?_
    refine serve_find (fun categorie => ?_) rfl
    dsimp only
    rw [foreach]
    cases ((data.field "auteurIds").getD (.arr [])).elements with
    | some items =>
        rw [serve_eq_conclure]
        exact conclure_forM (fun _ => conclure_persist fun _ => rfl) items []
          fun _ hauteur => absurd hauteur List.not_mem_nil
    | none =>
        dsimp only
        split
        · rfl
        · rw [serve_eq_conclure]
          exact @conclure_persist base _ [] _ _ fun _ => rfl

theorem serve_categorieCreate (data : Value) :
    serve (CategorieController.create data) base =
      (CategorieController.createSteps data).seule base :=
  serve_php fun _ => serve_php fun _ => serve_flush rfl rfl fun _ => rfl

theorem serve_empruntCreate (data : Value) :
    serve (EmpruntController.create runtime data) base =
      (EmpruntController.createSteps runtime data).seule base := by
  unfold EmpruntController.create EmpruntController.readBody EmpruntController.createSteps
  simp only [bind_assoc]
  rw [serve_answerIf]
  split
  · rfl
  · refine serve_php fun dateEmprunt => serve_php fun dateRetour => ?_
    cases dateEmprunt with
    | none => rfl
    | some dateEmprunt =>
        cases dateRetour with
        | none => rfl
        | some dateRetour =>
            refine serve_chercher fun emprunteur => ?_
            rw [serve_eq_conclure]
            refine conclure_rechercher rfl rfl (fun livre hlivre => ?_) fun livre _ _ _ => ?_
            · obtain ⟨reservateur, -, hjoint⟩ := List.mem_flatMap.mp hlivre
              exact Base.livre_of_mem_joints hjoint
            · rw [← serve_eq_conclure, serve_answerIf]
              dsimp only
              split
              · rfl
              · exact serve_flush rfl rfl fun _ => rfl

theorem serve_reservationsCreate (data : Value) :
    serve (ReservationsController.create runtime data) base =
      (ReservationsController.createTache runtime data).seule base := by
  unfold ReservationsController.create ReservationsController.readBody
    ReservationsController.createTache
  simp only [bind_assoc]
  rw [serve_answerIf]
  split
  · rfl
  · refine serve_php fun dateResa => ?_
    cases dateResa with
    | none => rfl
    | some dateResa =>
        simp only [bind_assoc]
        refine serve_find (fun reservateur => ?_) rfl
        simp only [bind_assoc]
        rw [serve_eq_conclure]
        refine conclure_obtenir rfl rfl (fun livre => Base.livre_of_mem_joints)
          (fun livre _ _ _ => ?_) rfl
        rw [← serve_eq_conclure]
        simp only [pure_bind]
        exact serve_flush rfl rfl fun _ => rfl

theorem serve_adherentCreate (salt : ℕ) (data : Value) :
    serve (AdherentController.create runtime salt data) base =
      (AdherentController.createSteps runtime salt data).seule base := by
  rw [AdherentController.create_eq]
  refine serve_whenSet fun dateAdhesion => serve_whenSet fun nom => ?_
  refine serve_whenSet fun prenom => serve_whenSet fun dateNaiss => ?_
  refine serve_whenSet fun email => serve_whenSet fun adressePostale => ?_
  refine serve_whenSet fun numTel => serve_whenSet fun photo => ?_
  refine serve_whenSet fun roles => serve_whenSet fun password => ?_
  exact serve_flush rfl rfl fun _ => rfl

theorem executer_delete (ressource : Ressource) (id : ℕ) :
    (ressource.delete id).executer runtime base =
      (deleteSteps runtime (fun tables => ressource.table tables) ressource.ligne
        ressource.missing ressource.deleted id).seule base := by
  cases ressource <;> exact serve_deleteSteps (fun _ => rfl) rfl

end Alone

end Commande

namespace Processus

/-- One step, on a database that nobody else changes. -/
def Suit (avant apres : Processus × Base) : Prop := avant.1.avancer avant.2 = apres

/-- The request ends so when nobody else is there. -/
def Finit (processus : Processus) (base : Base) (fin : Outcome × Base) : Prop :=
  Relation.ReflTransGen Suit (processus, base) (terminee fin.1, fin.2)

theorem finit_tache (tache : Tache) (base : Base) :
    (Processus.tache tache).Finit base (tache.seule base) := by
  induction tache with
  | terminee outcome => exact .refl
  | lecture suite ih => exact .head rfl (ih base)
  | ecriture session answer =>
      refine .single ?_
      rw [Suit, avancer, Tache.avancer, Tache.seule]
      cases flush { session with base := base } with
      | ok value final => rfl
      | error outcome final => rfl

theorem finit_suppression (runtime : Runtime) (ressource : Ressource) (id : ℕ) (base : Base) :
    (suppression ressource id).Finit base ((ressource.delete id).executer runtime base) := by
  rw [Commande.executer_delete, deleteSteps, Tache.trouver, Tache.seule]
  simp only [Runtime.rowId_int]
  by_cases hid : id ∈ (ressource.table base.toTables).ids
  · have hligne : ressource.ligne id ∈ base.lignes := (Ressource.mem_lignes_ligne _ _ _).mpr hid
    obtain ⟨removed, hremoved⟩ := Tables.exists_removed base.valid hligne
    obtain ⟨memoire, hwalk⟩ := Marche.debut_doRemove base.valid hligne hremoved
    rw [Option.filter_some, if_pos (by simpa using hid)]
    simp only [hremoved]
    have hfound : Suit (suppression ressource id, base)
        (marche ressource (.debut base.toTables (ressource.ligne id)), base) := if_pos hid
    have hsteps : Relation.ReflTransGen Suit
        (marche ressource (.debut base.toTables (ressource.ligne id)), base)
        (marche ressource ⟨memoire, removed, []⟩, base) := by
      refine hwalk.lift (fun etat => (marche ressource etat, base)) ?_
      rintro etat suivante ⟨hpile, hstep⟩
      change avancer base (marche ressource etat) = _
      rw [avancer, if_neg (by simpa using hpile), hstep]
    exact .head hfound (hsteps.trans (.head rfl (finit_tache _ base)))
  · rw [Option.filter_some, if_neg (by simpa using hid)]
    exact .single (if_neg hid)

end Processus

/-- Alone, the steps of a request do what its handler does. -/
theorem Commande.finit_steps (runtime : Runtime) (commande : Commande) (base : Base) :
    (commande.steps runtime).Finit base (commande.requete.executer runtime base) := by
  have hseule : ∀ {tache : Tache} {fin : Outcome × Base}, fin = tache.seule base →
      (Processus.tache tache).Finit base fin := by
    rintro tache _ rfl
    exact Processus.finit_tache tache base
  cases commande with
  | livreCreate data => exact hseule (serve_livreCreate data)
  | categorieCreate data => exact hseule (serve_categorieCreate data)
  | empruntCreate data => exact hseule (serve_empruntCreate data)
  | reservationsCreate data => exact hseule (serve_reservationsCreate data)
  | adherentCreate salt data => exact hseule (serve_adherentCreate salt data)
  | delete ressource id => exact Processus.finit_suppression runtime ressource id base

end Bibliotheque
