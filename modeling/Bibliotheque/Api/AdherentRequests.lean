import Bibliotheque.Api.Adherents
import Bibliotheque.Store.Completion
import Bibliotheque.Store.Flush

/-!
# The user requests that succeed

On which bodies `AdherentController::update` and `AdherentController::create`
run to their end, and the row they then store.
-/

namespace Bibliotheque

open Program Bibliotheque.Action

namespace AdherentController

variable {runtime : Runtime} {base : Base} {id : ℕ} {data : Value}

/-- The conversions of `readDate`. -/
def parseDate (runtime : Runtime) (format : List DateTime.Format) (value : Value) :
    Except Throwable Date := do
  runtime.reparse (← Runtime.createFromFormat format value)

theorem readDate_eq (format : List DateTime.Format) (value : Value) :
    readDate runtime format value = php (parseDate runtime format value) :=
  (php_bind _ _).symm

/-! ## Updates -/

/-- The user after the setters of an `update` without `dateAdhesion`. -/
def onRow (runtime : Runtime) (data : Value) (row : Utilisateur) : Utilisateur where
  email := (received (data.field "email") Value.toString).getD row.email
  roles := (received (data.field "roles") Value.toArray).getD row.roles
  password := (received (data.field "password") Value.toString).getD row.password
  dateAdhesion := row.dateAdhesion
  nom := (received (data.field "nom") Value.toString).getD row.nom
  prenom := (received (data.field "prenom") Value.toString).getD row.prenom
  dateNaiss := (received (data.field "dateNaiss")
    (parseDate runtime DateTime.dmy)).getD row.dateNaiss
  adressePostale :=
    (received (data.field "adressePostale") Value.toString).getD row.adressePostale
  numTel := (received (data.field "numTel") runtime.toInt).getD row.numTel
  photo := ((received (data.field "photo") Value.toString).map some).getD row.photo

/-- The user after all setters of an `update`. -/
def rewritten (runtime : Runtime) (data : Value) (row : Utilisateur) : Utilisateur :=
  { onRow runtime data row with
    dateAdhesion := (received (data.field "dateAdhesion")
      (parseDate runtime DateTime.dmY)).getD row.dateAdhesion }

/-- The body passes every conversion of `update`. -/
structure UpdateAccepted (runtime : Runtime) (tables : Tables) (id : ℕ)
    (data : Value) : Prop where
  utilisateur : id ∈ tables.utilisateur.ids
  dateAdhesion : data.Converts "dateAdhesion" (parseDate runtime DateTime.dmY)
  nom : data.Converts "nom" Value.toString
  prenom : data.Converts "prenom" Value.toString
  dateNaiss : data.Converts "dateNaiss" (parseDate runtime DateTime.dmy)
  email : data.Converts "email" Value.toString
  adressePostale : data.Converts "adressePostale" Value.toString
  numTel : data.Converts "numTel" runtime.toInt
  photo : data.Converts "photo" Value.toString
  roles : data.Converts "roles" Value.toArray
  password : data.Converts "password" Value.toString

/-- The content after the flush of an update. -/
def modified (runtime : Runtime) (base : Base) (id : ℕ) (data : Value) : Tables :=
  { base.toTables with
    utilisateur := base.utilisateur.modify id (Utilisateur.store ∘ rewritten runtime data) }

/-- The session of an `update` after some of its setters. -/
def setting (base : Base) (id : ℕ) (rewrite : Utilisateur → Utilisateur) : Session :=
  { Session.start base with managed :=
    { base.toTables with utilisateur := base.utilisateur.modify id rewrite } }

theorem setting_id : setting base id (fun row => row) = Session.start base := by
  rw [setting, Table.modify_id]
  rfl

theorem setUtilisateur_setting (before rewrite : Utilisateur → Utilisateur) :
    setUtilisateur id rewrite (setting base id before) =
      .ok () (setting base id (rewrite ∘ before)) := by
  have hset : setting base id (rewrite ∘ before) =
      { setting base id before with managed := { base.toTables with
        utilisateur := (base.utilisateur.modify id before).modify id rewrite } } := by
    rw [Table.modify_modify]
    rfl
  rw [hset]
  rfl

theorem commit_setting :
    (setting base id (rewritten runtime data)).commit =
      .ok ((setting base id (rewritten runtime data)).managed, 0) := by
  have hkeys : base.SameKeys (setting base id (rewritten runtime data)).managed :=
    { base.sameKeys_refl with utilisateur := ⟨(Table.ids_modify _ _ _).symm, rfl⟩ }
  exact Session.commit_managed base hkeys

theorem store_setting :
    (setting base id (rewritten runtime data)).managed.store = modified runtime base id data := by
  rw [setting, base.valid.store_utilisateur, Table.map_modify fun row hrow =>
    (base.valid.utilisateur_fits row hrow).store_eq]
  rfl

theorem refuses_update : Refuses (update runtime id data) := by
  have hset : ∀ utilisateur rewrite, Refuses (setUtilisateur utilisateur rewrite) :=
    fun _ _ => stops_modify _
  unfold update
  simp only [readDate_eq]
  refine refuses_findOr _ _ _ (fun adherent => ?_) (refuses_answer (by decide) _)
  refine (refuses_setter _ _ fun _ => hset _ _).bind fun _ => ?_
  refine (refuses_setter _ _ fun _ => hset _ _).bind fun _ => ?_
  refine (refuses_setter _ _ fun _ => hset _ _).bind fun _ => ?_
  refine (refuses_setter _ _ fun _ => hset _ _).bind fun _ => ?_
  refine (refuses_setter _ _ fun _ => hset _ _).bind fun _ => ?_
  refine (refuses_setter _ _ fun _ => hset _ _).bind fun _ => ?_
  refine (refuses_setter _ _ fun _ => hset _ _).bind fun _ => ?_
  refine (refuses_setter _ _ fun _ => hset _ _).bind fun _ => ?_
  refine (refuses_setter _ _ fun _ => hset _ _).bind fun _ => ?_
  refine (refuses_setter _ _ fun _ => hset _ _).bind fun _ => ?_
  exact refuses_flush.bind fun _ => stops_pure _

theorem completes_update_iff {property : Response → Base → Prop} :
    Completes (update runtime id data) (fun sent final => property sent final.base)
        (Session.start base) ↔
      UpdateAccepted runtime base.toTables id data ∧
        ∃ hvalid : (modified runtime base id data).Valid,
          property ⟨200, .object [("message", .str "Adherent updated")]⟩
            ⟨modified runtime base id data, hvalid⟩ := by
  unfold update
  simp only [readDate_eq]
  rw [completes_findPath_iff (not_completes_answer _ _), ← @setting_id base id]
  dsimp only
  rw [completes_setter_iff (setUtilisateur_setting _) (fun dateAdhesion row =>
      { row with dateAdhesion := dateAdhesion.getD row.dateAdhesion }) rfl ?_,
    completes_setter_iff (setUtilisateur_setting _) (fun nom row =>
      { row with nom := nom.getD row.nom }) rfl ?_,
    completes_setter_iff (setUtilisateur_setting _) (fun prenom row =>
      { row with prenom := prenom.getD row.prenom }) rfl ?_,
    completes_setter_iff (setUtilisateur_setting _) (fun dateNaiss row =>
      { row with dateNaiss := dateNaiss.getD row.dateNaiss }) rfl ?_,
    completes_setter_iff (setUtilisateur_setting _) (fun email row =>
      { row with email := email.getD row.email }) rfl ?_,
    completes_setter_iff (setUtilisateur_setting _) (fun adressePostale row =>
      { row with adressePostale := adressePostale.getD row.adressePostale }) rfl ?_,
    completes_setter_iff (setUtilisateur_setting _) (fun numTel row =>
      { row with numTel := numTel.getD row.numTel }) rfl ?_,
    completes_setter_iff (setUtilisateur_setting _) (fun photo row =>
      { row with photo := (photo.map some).getD row.photo }) rfl ?_,
    completes_setter_iff (setUtilisateur_setting _) (fun roles row =>
      { row with roles := roles.getD row.roles }) rfl ?_,
    completes_setter_iff (setUtilisateur_setting _) (fun password row =>
      { row with password := password.getD row.password }) rfl ?_,
    setting_id, Completes, wp_bind]
  · have hflush := @completes_flush_of_commit (setting base id (rewritten runtime data))
      (fun _ final => property ⟨200, .object [("message", .str "Adherent updated")]⟩
        final.base) _ _ _ commit_setting store_setting
    constructor
    · rintro ⟨hid, hdateAdhesion, hnom, hprenom, hdateNaiss, hemail, hadressePostale,
        hnumTel, hphoto, hroles, hpassword, hend⟩
      exact ⟨⟨hid, hdateAdhesion, hnom, hprenom, hdateNaiss, hemail, hadressePostale,
        hnumTel, hphoto, hroles, hpassword⟩, hflush.mp hend⟩
    · rintro ⟨⟨hid, hdateAdhesion, hnom, hprenom, hdateNaiss, hemail, hadressePostale,
        hnumTel, hphoto, hroles, hpassword⟩, hend⟩
      exact ⟨hid, hdateAdhesion, hnom, hprenom, hdateNaiss, hemail, hadressePostale,
        hnumTel, hphoto, hroles, hpassword, hflush.mpr hend⟩
  all_goals exact fun _ => rfl

/-- What `update` does with an accepted body, if the server accepts the row. -/
theorem UpdateAccepted.serve_update (haccepted : UpdateAccepted runtime base.toTables id data)
    (hvalid : (modified runtime base id data).Valid) :
    serve (update runtime id data) base =
      (.response ⟨200, .object [("message", .str "Adherent updated")]⟩,
        ⟨modified runtime base id data, hvalid⟩) := by
  apply serve_of_wp
  exact (@completes_update_iff runtime base id data fun sent final =>
    sent = _ ∧ final = _).mpr ⟨haccepted, hvalid, rfl, rfl⟩

/-- The server accepts the changed user exactly if it fits its columns and its
email is nobody else's. -/
theorem valid_modified_iff {old : Utilisateur} (hold : base.utilisateur.find id = some old) :
    (modified runtime base id data).Valid ↔
      (rewritten runtime data old).store.Fits ∧ ∀ stored ∈ base.utilisateur.rows,
        stored.1 ≠ id → stored.2.email ≠ (rewritten runtime data old).store.email := by
  constructor
  · intro hvalid
    have hrow : (id, (rewritten runtime data old).store) ∈
        (modified runtime base id data).utilisateur.rows := by
      rw [← Table.find_eq_some_iff, modified, Table.find_modify_self, hold,
        Option.map_some, Function.comp_apply]
    refine ⟨hvalid.utilisateur_fits (id, (rewritten runtime data old).store) hrow,
      fun stored hstored hother heq => ?_⟩
    have hkept : stored ∈ (modified runtime base id data).utilisateur.rows := by
      rw [← Prod.mk.eta (p := stored), ← Table.find_eq_some_iff, modified,
        Table.find_modify_of_ne _ _ hother, Table.find_eq_some_iff]
      exact hstored
    exact hother (congrArg Prod.fst
      (List.inj_on_of_nodup_map hvalid.email_unique hkept hrow heq))
  · rintro ⟨hfits, hfree⟩
    apply base.valid.update_utilisateur
    intro stored hstored
    rw [hold] at hstored
    cases hstored
    exact ⟨hfits, hfree⟩

/-! ## Creations -/

/-- The conversions of a password that is to be stored. -/
def parsePassword (runtime : Runtime) (salt : ℕ) (value : Value) :
    Except Throwable String := do
  runtime.password_hash salt (← value.toString)

/-- The object that `create` persists. -/
def draft (runtime : Runtime) (salt : ℕ) (data : Value) : UtilisateurDraft where
  email := received (data.field "email") Value.toString
  roles := (received (data.field "roles") Value.toArray).getD []
  password := received (data.field "password") (parsePassword runtime salt)
  dateAdhesion := received (data.field "dateAdhesion") (parseDate runtime DateTime.dmY)
  nom := received (data.field "nom") Value.toString
  prenom := received (data.field "prenom") Value.toString
  dateNaiss := received (data.field "dateNaiss") (parseDate runtime DateTime.dmy)
  adressePostale := received (data.field "adressePostale") Value.toString
  numTel := received (data.field "numTel") runtime.toInt
  photo := received (data.field "photo") Value.toString

/-- The body passes every conversion of `create`. -/
structure CreateAccepted (runtime : Runtime) (salt : ℕ) (data : Value) : Prop where
  dateAdhesion : data.Converts "dateAdhesion" (parseDate runtime DateTime.dmY)
  nom : data.Converts "nom" Value.toString
  prenom : data.Converts "prenom" Value.toString
  dateNaiss : data.Converts "dateNaiss" (parseDate runtime DateTime.dmy)
  email : data.Converts "email" Value.toString
  adressePostale : data.Converts "adressePostale" Value.toString
  numTel : data.Converts "numTel" runtime.toInt
  photo : data.Converts "photo" Value.toString
  roles : data.Converts "roles" Value.toArray
  password : data.Converts "password" (parsePassword runtime salt)

/-- The content after the flush of a creation. -/
def created (base : Base) (row : Utilisateur) : Tables :=
  { base.toTables with utilisateur := base.utilisateur.insert row }

theorem store_created {row : Utilisateur} :
    (created base row).store = created base row.store := by
  rw [created, base.valid.store_utilisateur, Table.map_insert fun stored hstored =>
    (base.valid.utilisateur_fits stored hstored).store_eq]
  rfl

theorem refuses_whenSet {Out : Type} (value : Option Value)
    (read : Value → Except Throwable Out) :
    Refuses (whenSet value fun given => php (read given)) := by
  cases value with
  | none => exact stops_pure _
  | some given => exact (refuses_php _).bind fun _ => stops_pure _

theorem completes_whenSet_iff {Out Next : Type} {key : String}
    {read : Value → Except Throwable Out} {next : Option Out → Action Next}
    {post : Next → Session → Prop} {session : Session} :
    Completes (whenSet (data.field key) (fun given => php (read given)) >>= next) post
        session ↔
      data.Converts key read ∧
        Completes (next (received (data.field key) read)) post session := by
  unfold Value.Converts
  cases data.field key with
  | none => simp [whenSet, received, Completes]
  | some given =>
      cases hread : read given with
      | ok out => simp [whenSet, hread, received, Completes, Except.toOption]
      | error throwable => simp [whenSet, hread, Completes]

/-- `create` with its conversions as calls into PHP. -/
theorem create_eq (salt : ℕ) :
    create runtime salt data = (do
      let dateAdhesion ← whenSet (data.field "dateAdhesion")
        fun given => php (parseDate runtime DateTime.dmY given)
      let nom ← whenSet (data.field "nom") fun given => php given.toString
      let prenom ← whenSet (data.field "prenom") fun given => php given.toString
      let dateNaiss ← whenSet (data.field "dateNaiss")
        fun given => php (parseDate runtime DateTime.dmy given)
      let email ← whenSet (data.field "email") fun given => php given.toString
      let adressePostale ← whenSet (data.field "adressePostale")
        fun given => php given.toString
      let numTel ← whenSet (data.field "numTel") fun given => php (runtime.toInt given)
      let photo ← whenSet (data.field "photo") fun given => php given.toString
      let roles ← whenSet (data.field "roles") fun given => php given.toArray
      let password ← whenSet (data.field "password")
        fun given => php (parsePassword runtime salt given)
      persist (.utilisateur {
        email := email
        roles := roles.getD []
        password := password
        dateAdhesion := dateAdhesion
        nom := nom
        prenom := prenom
        dateNaiss := dateNaiss
        adressePostale := adressePostale
        numTel := numTel
        photo := photo })
      flush
      return ⟨201, .object [("message", .str "Adherent created"),
        ("id", ← insertedId)]⟩) := by
  simp only [create, ← readDate_eq, parsePassword, php_bind]

theorem refuses_create {salt : ℕ} : Refuses (create runtime salt data) := by
  rw [create_eq]
  refine (refuses_whenSet _ _).bind fun _ => (refuses_whenSet _ _).bind fun _ => ?_
  refine (refuses_whenSet _ _).bind fun _ => (refuses_whenSet _ _).bind fun _ => ?_
  refine (refuses_whenSet _ _).bind fun _ => (refuses_whenSet _ _).bind fun _ => ?_
  refine (refuses_whenSet _ _).bind fun _ => (refuses_whenSet _ _).bind fun _ => ?_
  refine (refuses_whenSet _ _).bind fun _ => (refuses_whenSet _ _).bind fun _ => ?_
  refine (refuses_persist _).bind fun _ => refuses_flush.bind fun _ => ?_
  exact refuses_insertedId.bind fun _ => stops_pure _

/-- The end of `create`. -/
theorem completes_persist_iff {entity : UtilisateurDraft}
    {property : Response → Base → Prop} :
    Completes (do
        persist (.utilisateur entity)
        flush
        return ⟨201, .object [("message", .str "Adherent created"),
          ("id", ← insertedId)]⟩)
        (fun sent final => property sent final.base) (Session.start base) ↔
      ∃ row, entity.row = some row ∧ ∃ hvalid : (created base row.store).Valid,
        property ⟨201, .object [("message", .str "Adherent created"),
          ("id", .int base.utilisateur.next)]⟩ ⟨created base row.store, hvalid⟩ := by
  cases hrow : entity.row with
  | none =>
      have hinsert : ∀ tables, (Entity.utilisateur entity).insert tables = none := by
        intro tables
        simp [Entity.insert, hrow]
      simp only [reduceCtorEq, false_and, exists_false, iff_false]
      exact not_completes_persist hinsert
  | some row =>
      have hinsert : (Entity.utilisateur entity).insert base.toTables =
          some (created base row, base.utilisateur.next) := by
        simp [Entity.insert, hrow, created]
      simp only [Option.some.injEq, exists_eq_left']
      rw [Completes, wp_bind, wp_persist, wp_bind]
      exact completes_flush_of_commit (Session.commit_persisted_alone base hinsert)
        store_created

/-- A user is created exactly from a body that passes the conversions, has a
value for every `NOT NULL` column and gives a row the server accepts. -/
theorem completes_create_iff {salt : ℕ} {property : Response → Base → Prop} :
    Completes (create runtime salt data) (fun sent final => property sent final.base)
        (Session.start base) ↔
      CreateAccepted runtime salt data ∧ ∃ row, (draft runtime salt data).row = some row ∧
        ∃ hvalid : (created base row.store).Valid,
          property ⟨201, .object [("message", .str "Adherent created"),
            ("id", .int base.utilisateur.next)]⟩ ⟨created base row.store, hvalid⟩ := by
  rw [create_eq]
  simp only [completes_whenSet_iff]
  constructor
  · rintro ⟨hdateAdhesion, hnom, hprenom, hdateNaiss, hemail, hadressePostale, hnumTel,
      hphoto, hroles, hpassword, hend⟩
    exact ⟨⟨hdateAdhesion, hnom, hprenom, hdateNaiss, hemail, hadressePostale, hnumTel,
      hphoto, hroles, hpassword⟩, completes_persist_iff.mp hend⟩
  · rintro ⟨⟨hdateAdhesion, hnom, hprenom, hdateNaiss, hemail, hadressePostale, hnumTel,
      hphoto, hroles, hpassword⟩, hend⟩
    exact ⟨hdateAdhesion, hnom, hprenom, hdateNaiss, hemail, hadressePostale, hnumTel,
      hphoto, hroles, hpassword, completes_persist_iff.mpr hend⟩

end AdherentController

end Bibliotheque
