import Bibliotheque.Api.Router
import Bibliotheque.Core.Run
import Bibliotheque.Store.Flush

/-!
# Stored passwords

Four paths write `utilisateur.password`: the API create and update handlers,
the two admin forms, and the password upgrader that Symfony calls at a login.
A run is any sequence of such writes.
-/

namespace Bibliotheque

open Program Bibliotheque.Action

/-- A write to the user table.  The salt is the randomness its hash draws. -/
inductive Ecriture where
  | adherentCreate (salt : ℕ) (data : Value)
  | adherentUpdate (id : ℕ) (data : Value)
  | createNew (salt : ℕ) (form : UtilisateurCrudController.Form)
  | edit (salt : ℕ) (id : ℕ) (form : UtilisateurCrudController.Form)
  | upgradePassword (salt : ℕ) (id : ℕ) (plaintext : String)

namespace Ecriture

/-- The upgrader receives the hash of the password given at the login. -/
def handler (runtime : Runtime) : Ecriture → Action Response
  | adherentCreate salt data => AdherentController.create runtime salt data
  | adherentUpdate id data => AdherentController.update runtime id data
  | createNew salt form => UtilisateurCrudController.createNew runtime salt form
  | edit salt id form => UtilisateurCrudController.edit runtime salt id form
  | upgradePassword salt id plaintext => do
      let newHashedPassword ← php (runtime.password_hash salt plaintext)
      UtilisateurRepository.upgradePassword id newHashedPassword

def step (runtime : Runtime) (base : Base) (ecriture : Ecriture) : Base :=
  (serve (ecriture.handler runtime) base).2

/-- The password of a JSON body, as the string parameter it is passed to
receives it. -/
def bodyPassword (data : Value) : Option String :=
  (data.field "password").bind fun password => password.toString.toOption

/-- The plaintext that the write submits. -/
def submitted : Ecriture → Option String
  | adherentCreate _ data => bodyPassword data
  | adherentUpdate _ data => bodyPassword data
  | createNew _ form => form.password
  | edit _ _ form => form.password
  | upgradePassword _ _ plaintext => some plaintext

/-- The plaintexts submitted in a run. -/
def plaintexts (run : List Ecriture) : List String :=
  run.filterMap submitted

end Ecriture

/-- A hash of one of the given plaintexts. -/
def Runtime.Hashed (runtime : Runtime) (plaintexts : List String)
    (password : String) : Prop :=
  ∃ salt, ∃ plaintext ∈ plaintexts,
    runtime.password_hash salt plaintext = .ok password

/-- A PUT of an existing user either sends no password or sends a hash. -/
def Ecriture.Permise (runtime : Runtime) (plaintexts : List String) (base : Base) :
    Ecriture → Prop
  | adherentUpdate id data => id ∈ base.utilisateur.ids →
      ∀ password ∈ bodyPassword data, runtime.Hashed plaintexts password
  | _ => True

/-! ## The session of a write -/

/-- Every password in the session, committed or about to be, is `good`, and no
row is about to be deleted. -/
structure Session.Passwords (good : String → Prop) (session : Session) : Prop where
  base : ∀ row ∈ session.base.utilisateur.rows, good row.2.password
  managed : ∀ row ∈ session.managed.utilisateur.rows, good row.2.password
  persisted : ∀ draft, session.persisted = some (.utilisateur draft) →
    ∀ password ∈ draft.password, good password
  removed : session.removed = []

theorem UtilisateurDraft.password_eq_of_row {draft : UtilisateurDraft}
    {row : Utilisateur} (hrow : draft.row = some row) :
    draft.password = some row.password := by
  simp only [UtilisateurDraft.row, Option.bind_eq_bind, Option.bind_eq_some_iff] at hrow
  obtain ⟨email, -, password, hpassword, dateAdhesion, -, nom, -, prenom, -,
    dateNaiss, -, adressePostale, -, numTel, -, hrow⟩ := hrow
  cases hrow
  exact hpassword

/-- The users after an insertion: the old ones, and the inserted one. -/
theorem Entity.utilisateur_insert {entity : Entity} {tables inserted : Tables}
    {fresh : ℕ} (hinsert : entity.insert tables = some (inserted, fresh))
    {row : ℕ × Utilisateur} (hrow : row ∈ inserted.utilisateur.rows) :
    row ∈ tables.utilisateur.rows ∨
      ∃ draft, entity = .utilisateur draft ∧ draft.row = some row.2 := by
  cases entity with
  | utilisateur draft =>
      obtain ⟨new, hnew, heq⟩ := Option.map_eq_some_iff.mp hinsert
      cases heq
      rcases List.mem_append.mp hrow with hold | hnewRow
      · exact Or.inl hold
      · rw [List.mem_singleton.mp hnewRow]
        exact Or.inr ⟨draft, rfl, hnew⟩
  | _ =>
      obtain ⟨new, -, heq⟩ := Option.map_eq_some_iff.mp hinsert
      cases heq
      exact Or.inl hrow

namespace Session

variable {good : String → Prop}

theorem passwords_start (base : Base) (insertId : ℕ)
    (hbase : ∀ row ∈ base.utilisateur.rows, good row.2.password) :
    Passwords good { start base with insertId := insertId } :=
  ⟨hbase, hbase, by simp [start], rfl⟩

/-- Writing back keeps a property of the passwords. -/
theorem good_write {loaded managed stored : Utilisateur}
    (hmanaged : good managed.password) (hstored : good stored.password) :
    good (Utilisateur.write loaded managed stored).password := by
  simp only [Utilisateur.write, column]
  split
  · exact hstored
  · exact hmanaged

/-- The passwords fit their column, so a flush stores them as they are. -/
theorem maintains_flush_passwords (hgood : ∀ password, good password → Varchar 255 password) :
    Maintains (Session.Passwords good) Action.flush := by
  intro session hsession
  rw [wp_flush]
  cases hcommit : session.commit with
  | error throwable => exact hsession
  | ok result =>
      obtain ⟨tables, fresh⟩ := result
      dsimp only
      split
      case isFalse hinvalid =>
        refine ⟨?_, hsession.managed, hsession.persisted, hsession.removed⟩
        rw [session.skipped_rolledBack.utilisateur.1]
        exact hsession.base
      case isTrue hvalid =>
        obtain ⟨inserted, hcases, rfl⟩ := commit_cases hsession.removed hcommit
        have hwritten : ∀ row ∈ (Tables.write session.loaded session.managed
            session.base.toTables).utilisateur.rows, good row.2.password :=
          Table.forall_write (fun row : Utilisateur => good row.password)
            (fun _ _ _ => good_write) hsession.managed hsession.base
        refine passwords_start ⟨_, hvalid⟩ fresh ?_
        have hinserted : ∀ row ∈ inserted.utilisateur.rows, good row.2.password := by
          intro row hrow
          rcases hcases with ⟨-, rfl⟩ | ⟨entity, hpersisted, hinsert⟩
          · exact hwritten row hrow
          · rcases Entity.utilisateur_insert hinsert hrow with hold | hnew
            · exact hwritten row hold
            · obtain ⟨draft, rfl, hdraft⟩ := hnew
              exact hsession.persisted draft hpersisted _
                (UtilisateurDraft.password_eq_of_row hdraft)
        intro row hrow
        obtain ⟨written, hwritten, rfl⟩ := Table.mem_rows_map.mp hrow
        have hpassword := hinserted written hwritten
        change good (Varchar.store 255 written.2.password)
        rwa [Varchar.store_eq_self (hgood _ hpassword)]

/-- A setter of a user that sets good passwords only. -/
theorem maintains_setUtilisateur {id : ℕ} {rewrite : Utilisateur → Utilisateur}
    (hrewrite : ∀ row, good row.password → good (rewrite row).password) :
    Maintains (Session.Passwords good) (setUtilisateur id rewrite) := by
  refine maintains_modify ?_
  intro session hsession
  refine ⟨hsession.base, ?_, hsession.persisted, hsession.removed⟩
  intro row hrow
  obtain ⟨old, hold, rfl⟩ := List.mem_map.mp hrow
  dsimp only
  split
  · exact hrewrite _ (hsession.managed old hold)
  · exact hsession.managed old hold

theorem maintains_persist_utilisateur {draft : UtilisateurDraft}
    (hdraft : ∀ password ∈ draft.password, good password) :
    Maintains (Session.Passwords good) (persist (.utilisateur draft)) := by
  refine maintains_modify ?_
  intro session hsession
  refine ⟨hsession.base, hsession.managed, ?_, hsession.removed⟩
  rintro other heq
  cases heq
  exact hdraft

end Session

/-! ## The four writers -/

section Writers

variable {good : String → Prop} (hgood : ∀ password, good password → Varchar 255 password)

theorem maintains_readDate (runtime : Runtime) (format : List DateTime.Format)
    (value : Value) :
    Maintains (Session.Passwords good)
      (AdherentController.readDate runtime format value) :=
  (maintains_php _).bind fun _ => maintains_php _

include hgood in
theorem maintains_adherentUpdate (runtime : Runtime) (id : ℕ) (data : Value)
    (hpassword : ∀ password ∈ Ecriture.bodyPassword data, good password) :
    Maintains (Session.Passwords good)
      (AdherentController.update runtime id data) := by
  refine maintains_findOr runtime _ _ fun adherent => ?_
  refine Maintains.bind (maintains_ifSet fun _ _ =>
    Maintains.bind (maintains_readDate runtime _ _) fun _ =>
      Session.maintains_setUtilisateur fun _ hrow => hrow) fun _ => ?_
  refine Maintains.bind (maintains_setter fun _ _ _ _ =>
    Session.maintains_setUtilisateur fun _ hrow => hrow) fun _ => ?_
  refine Maintains.bind (maintains_setter fun _ _ _ _ =>
    Session.maintains_setUtilisateur fun _ hrow => hrow) fun _ => ?_
  refine Maintains.bind (maintains_ifSet fun _ _ =>
    Maintains.bind (maintains_readDate runtime _ _) fun _ =>
      Session.maintains_setUtilisateur fun _ hrow => hrow) fun _ => ?_
  refine Maintains.bind (maintains_setter fun _ _ _ _ =>
    Session.maintains_setUtilisateur fun _ hrow => hrow) fun _ => ?_
  refine Maintains.bind (maintains_setter fun _ _ _ _ =>
    Session.maintains_setUtilisateur fun _ hrow => hrow) fun _ => ?_
  refine Maintains.bind (maintains_setter fun _ _ _ _ =>
    Session.maintains_setUtilisateur fun _ hrow => hrow) fun _ => ?_
  refine Maintains.bind (maintains_setter fun _ _ _ _ =>
    Session.maintains_setUtilisateur fun _ hrow => hrow) fun _ => ?_
  refine Maintains.bind (maintains_setter fun _ _ _ _ =>
    Session.maintains_setUtilisateur fun _ hrow => hrow) fun _ => ?_
  refine Maintains.bind (maintains_setter fun given password hgiven hread => ?_)
    fun _ => ?_
  · refine Session.maintains_setUtilisateur fun _ _ => ?_
    exact hpassword password (by
      simp [Ecriture.bodyPassword, hgiven, hread, Except.toOption])
  · exact (Session.maintains_flush_passwords hgood).bind fun _ => maintains_pure _

/-- What a setter of `create` passes on was read from the body. -/
theorem yields_whenSet {Out : Type} {invariant : Session → Prop}
    {value : Option Value} {read : Value → Action Out} {result : Out → Prop}
    (hread : ∀ given, value = some given → Yields invariant result (read given)) :
    Yields invariant (fun out => ∀ found ∈ out, result found)
      (AdherentController.whenSet value read) := by
  intro session hsession
  cases value with
  | none => exact ⟨by simp, hsession⟩
  | some given =>
      change wp (read given >>= fun out => pure (some out)) _ _ _
      rw [wp_bind]
      refine wp_mono (hread given rfl session hsession) ?_ (fun _ _ hstop => hstop)
      rintro out final ⟨hout, hfinal⟩
      exact ⟨by simpa using hout, hfinal⟩

theorem maintains_whenSet {Out : Type} {invariant : Session → Prop}
    {value : Option Value} {read : Value → Action Out}
    (hread : ∀ given, Maintains invariant (read given)) :
    Maintains invariant (AdherentController.whenSet value read) := by
  cases value with
  | some given => exact (hread given).bind fun _ => maintains_pure _
  | none => exact maintains_pure _

include hgood in
theorem maintains_adherentCreate (runtime : Runtime) (salt : ℕ) (data : Value)
    (hpassword : ∀ password ∈ Ecriture.bodyPassword data, ∀ hash,
      runtime.password_hash salt password = .ok hash → good hash) :
    Maintains (Session.Passwords good)
      (AdherentController.create runtime salt data) := by
  refine Maintains.bind (maintains_whenSet
    (maintains_readDate runtime _)) fun dateAdhesion => ?_
  refine Maintains.bind (maintains_whenSet fun _ => maintains_php _) fun nom => ?_
  refine Maintains.bind (maintains_whenSet fun _ => maintains_php _)
    fun prenom => ?_
  refine Maintains.bind (maintains_whenSet
    (maintains_readDate runtime _)) fun dateNaiss => ?_
  refine Maintains.bind (maintains_whenSet fun _ => maintains_php _) fun email => ?_
  refine Maintains.bind (maintains_whenSet fun _ => maintains_php _)
    fun adressePostale => ?_
  refine Maintains.bind (maintains_whenSet fun _ => maintains_php _)
    fun numTel => ?_
  refine Maintains.bind (maintains_whenSet fun _ => maintains_php _) fun photo => ?_
  refine Maintains.bind (maintains_whenSet fun _ => maintains_php _) fun roles => ?_
  have hhash : ∀ given, data.field "password" = some given →
      Yields (Session.Passwords good) good (do
        let password ← php given.toString
        php (runtime.password_hash salt password)) := by
    intro given hgiven session hsession
    rw [wp_bind]
    refine wp_mono (yields_php _ session hsession) ?_ (fun _ _ hstop => hstop)
    rintro password middle ⟨hread, hmiddle⟩
    refine wp_mono (yields_php _ middle hmiddle) ?_ (fun _ _ hstop => hstop)
    rintro hash final ⟨hhash, hfinal⟩
    refine ⟨hpassword password ?_ hash hhash, hfinal⟩
    simp [Ecriture.bodyPassword, hgiven, hread, Except.toOption]
  refine (yields_whenSet hhash).bind fun password hhash => ?_
  refine (Session.maintains_persist_utilisateur hhash).bind fun _ => ?_
  exact (Session.maintains_flush_passwords hgood).bind fun _ =>
    maintains_insertedId.bind fun _ => maintains_pure _

/-- The listener of the admin forms returns a hash of the form's password. -/
theorem yields_hashPassword {invariant : Session → Prop} (runtime : Runtime)
    (salt : ℕ) (form : UtilisateurCrudController.Form)
    (hpassword : ∀ password ∈ form.password, ∀ hash,
      runtime.password_hash salt password = .ok hash → good hash) :
    Yields invariant (fun out => ∀ hash ∈ out, good hash)
      (UtilisateurCrudController.hashPassword runtime salt form) := by
  intro session hsession
  unfold UtilisateurCrudController.hashPassword
  split
  · exact ⟨by simp, hsession⟩
  · cases hform : form.password with
    | none => exact ⟨by simp, hsession⟩
    | some password =>
        simp only [wp_bind]
        refine wp_mono (yields_php _ session hsession) ?_ (fun _ _ hstop => hstop)
        rintro hash final ⟨hhash, hfinal⟩
        refine ⟨?_, hfinal⟩
        simpa using hpassword password (by simp [hform]) hash hhash

include hgood in
theorem maintains_createNew (runtime : Runtime) (salt : ℕ)
    (form : UtilisateurCrudController.Form)
    (hpassword : ∀ password ∈ form.password, ∀ hash,
      runtime.password_hash salt password = .ok hash → good hash) :
    Maintains (Session.Passwords good)
      (UtilisateurCrudController.createNew runtime salt form) := by
  refine (yields_hashPassword runtime salt form hpassword).bind fun hash hhash => ?_
  refine (maintains_answerIf _ _ _).bind fun _ => ?_
  refine (Session.maintains_persist_utilisateur hhash).bind fun _ => ?_
  exact (Session.maintains_flush_passwords hgood).bind fun _ => maintains_pure _

theorem maintains_required {Out : Type} {invariant : Session → Prop}
    (value : Option Out) :
    Maintains invariant (UtilisateurCrudController.required value) := by
  cases value with
  | some value => exact maintains_pure value
  | none => exact maintains_throw _

include hgood in
theorem maintains_edit (runtime : Runtime) (salt : ℕ) (id : ℕ)
    (form : UtilisateurCrudController.Form)
    (hpassword : ∀ password ∈ form.password, ∀ hash,
      runtime.password_hash salt password = .ok hash → good hash) :
    Maintains (Session.Passwords good)
      (UtilisateurCrudController.edit runtime salt id form) := by
  refine maintains_findOr runtime _ _ fun utilisateur => ?_
  refine (maintains_required _).bind fun dateAdhesion => ?_
  refine (maintains_required _).bind fun nom => ?_
  refine (maintains_required _).bind fun prenom => ?_
  refine (maintains_required _).bind fun dateNaiss => ?_
  refine (maintains_required _).bind fun email => ?_
  refine (maintains_required _).bind fun adressePostale => ?_
  refine (maintains_required _).bind fun numTel => ?_
  refine Maintains.bind
    (Session.maintains_setUtilisateur fun _ hrow => hrow) fun _ => ?_
  refine (yields_hashPassword runtime salt form hpassword).bind fun hash hhash => ?_
  refine (maintains_answerIf _ _ _).bind fun _ => ?_
  refine Maintains.bind (maintains_ifSet fun hash hsome =>
    Session.maintains_setUtilisateur fun _ _ => hhash hash hsome) fun _ => ?_
  exact (Session.maintains_flush_passwords hgood).bind fun _ => maintains_pure _

include hgood in
theorem maintains_upgradePassword (id : ℕ) {newHashedPassword : String}
    (hpassword : good newHashedPassword) :
    Maintains (Session.Passwords good)
      (UtilisateurRepository.upgradePassword id newHashedPassword) :=
  (Session.maintains_setUtilisateur fun _ _ => hpassword).bind fun _ =>
    (Session.maintains_flush_passwords hgood).bind fun _ => maintains_pure _

end Writers

/-! ## Runs -/

namespace Ecriture

variable {runtime : Runtime} {known : List String}

/-- A PUT of an unknown user answers 404. -/
theorem step_adherentUpdate_of_not_mem {base : Base} {id : ℕ} {data : Value}
    (hid : id ∉ base.utilisateur.ids) :
    (adherentUpdate id data).step runtime base = base := by
  have hend := serve_iff_wp (AdherentController.update runtime id data) base
    fun _ final => final = base
  refine hend.mpr ?_
  rw [AdherentController.update, wp_bind,
    wp_find_of_not_mem runtime (runtime.rowId_int id) hid]
  rfl

/-- Each permitted write keeps the stored passwords hashed. -/
theorem hashed_step {base : Base} {ecriture : Ecriture}
    (hbase : ∀ row ∈ base.utilisateur.rows,
      runtime.Hashed known row.2.password)
    (hpermise : ecriture.Permise runtime known base)
    (hsubmitted : ∀ plaintext ∈ ecriture.submitted, plaintext ∈ known) :
    ∀ row ∈ (ecriture.step runtime base).utilisateur.rows,
      runtime.Hashed known row.2.password := by
  have hstart : Session.Passwords (runtime.Hashed known) (Session.start base) :=
    Session.passwords_start base 0 hbase
  have hserve : Maintains (Session.Passwords (runtime.Hashed known))
      (ecriture.handler runtime) →
      ∀ row ∈ (ecriture.step runtime base).utilisateur.rows,
        runtime.Hashed known row.2.password := by
    intro hhandler
    obtain ⟨session, hsession, heq⟩ := exists_session_of_maintains hhandler hstart
    rw [step, heq]
    exact hsession.base
  have hfits : ∀ password, runtime.Hashed known password → Varchar 255 password :=
    fun password ⟨salt, plaintext, _, hok⟩ =>
      runtime.length_password_hash salt plaintext password hok
  have hhash : ∀ salt, ∀ plaintext ∈ ecriture.submitted, ∀ hash,
      runtime.password_hash salt plaintext = .ok hash →
        runtime.Hashed known hash :=
    fun salt plaintext hplaintext hash hok =>
      ⟨salt, plaintext, hsubmitted plaintext hplaintext, hok⟩
  cases ecriture with
  | adherentCreate salt data =>
      exact hserve (maintains_adherentCreate hfits runtime salt data (hhash salt))
  | adherentUpdate id data =>
      by_cases hid : id ∈ base.utilisateur.ids
      · exact hserve (maintains_adherentUpdate hfits runtime id data (hpermise hid))
      · rw [step_adherentUpdate_of_not_mem hid]
        exact hbase
  | createNew salt form =>
      exact hserve (maintains_createNew hfits runtime salt form (hhash salt))
  | edit salt id form =>
      exact hserve (maintains_edit hfits runtime salt id form (hhash salt))
  | upgradePassword salt id plaintext =>
      refine hserve ((yields_php _).bind fun newHashedPassword hok => ?_)
      exact maintains_upgradePassword hfits id
        (hhash salt plaintext rfl newHashedPassword hok)

/-- As long as no PUT of an existing user carries a password that is not a
hash, every stored password is the hash of a submitted plaintext, and no
plaintext is stored unless it is itself a hash. -/
theorem run_passwords_hashed (runtime : Runtime) (start : Base)
    (hempty : start.utilisateur.rows = []) (run : List Ecriture)
    (hpermises : Run.Permitted (step runtime)
      (fun base ecriture => ecriture.Permise runtime (plaintexts run) base)
      start run) :
    ∀ row ∈ (Run.run (step runtime) start run).utilisateur.rows,
      runtime.Hashed (plaintexts run) row.2.password ∧
        ∀ plaintext ∈ plaintexts run,
          (∀ salt other, runtime.password_hash salt other ≠ .ok plaintext) →
            row.2.password ≠ plaintext := by
  have hsubmitted : ∀ ecriture ∈ run, ∀ plaintext ∈ ecriture.submitted,
      plaintext ∈ plaintexts run := fun ecriture hecriture plaintext hplaintext =>
    List.mem_filterMap.mpr ⟨ecriture, hecriture, hplaintext⟩
  have hrun := Run.invariant_run
    (fun base : Base => ∀ row ∈ base.utilisateur.rows,
      runtime.Hashed (plaintexts run) row.2.password)
    (fun _ _ hbase hallowed => hashed_step hbase hallowed.1 hallowed.2)
    run start (by simp [hempty]) (hpermises.and_forall hsubmitted)
  intro row hrow
  refine ⟨hrun row hrow, ?_⟩
  rintro plaintext - hplain rfl
  obtain ⟨salt, other, -, hok⟩ := hrun row hrow
  exact hplain salt other hok

/-- A filled-in admin form with the given password. -/
def sampleForm (password : String) : UtilisateurCrudController.Form where
  dateAdhesion := some Date.sample
  nom := some "Doe"
  prenom := some "Ann"
  dateNaiss := some Date.sample
  email := some "a@b.fr"
  adressePostale := some "1 rue"
  numTel := some 0
  photo := none
  roles := []
  first := password
  second := password
  fieldsValid := true

/-- An admin creates a user, and an API client renames it. -/
theorem run_passwords_hashed_rename :
    (Run.run (step .dev) Base.empty [createNew 0 (sampleForm "secret"),
        adherentUpdate 1 (.object [("nom", .str "Roe")])]).utilisateur.ids = [1] ∧
    ∀ row ∈ (Run.run (step .dev) Base.empty [createNew 0 (sampleForm "secret"),
        adherentUpdate 1 (.object [("nom", .str "Roe")])]).utilisateur.rows,
      Runtime.dev.Hashed ["secret"] row.2.password := by
  refine ⟨by decide, ?_⟩
  intro row hrow
  refine (run_passwords_hashed .dev Base.empty rfl _ ?_ row hrow).1
  refine ⟨trivial, ?_, trivial⟩
  intro _ password hpassword
  have hnone : bodyPassword (.object [("nom", .str "Roe")]) = none := by decide
  rw [hnone] at hpassword
  cases hpassword

/-- The user that `sampleForm` creates. -/
def sampleUser (password : String) : Utilisateur where
  email := "a@b.fr"
  roles := []
  password := password
  dateAdhesion := Date.sample
  nom := "Doe"
  prenom := "Ann"
  dateNaiss := Date.sample
  adressePostale := "1 rue"
  numTel := 0
  photo := none

/-- An API client changes the password of a user. -/
theorem adherentUpdate_stores_plaintext :
    ¬ ∀ row ∈ (Run.run (step .dev) Base.empty [createNew 0 (sampleForm "secret"),
        adherentUpdate 1 (.object [("password", .str "azerty")])]).utilisateur.rows,
      Runtime.dev.Hashed ["secret", "azerty"] row.2.password := by
  intro hhashed
  obtain ⟨salt, plaintext, -, hok⟩ :=
    hhashed (1, sampleUser "azerty") (by decide)
  have hfirst := congrArg (fun text => text.toList.head?) (Except.ok.inj hok)
  simp [sampleUser] at hfirst

end Ecriture

end Bibliotheque
