import Bibliotheque.Php.SlashDate
import Bibliotheque.Api.Reading
import Bibliotheque.Api.AdherentRequests
import Bibliotheque.Api.Atomicity
import Bibliotheque.Api.AuteurRequests
import Bibliotheque.Api.CirculationRequests
import Bibliotheque.Api.LivreEffects

/-!
# Reading a row and writing it back

For each of the six resources: does `PUT` of the very object that `GET` answers
succeed and leave the database as it is?  Books and categories do.  The readers of
the others use date formats or keys that their writers do not.
-/

namespace Bibliotheque

open Program Bibliotheque.Action

/-! ## Dates in answers -/

section Dates

variable {rendering : Rendering} {runtime : Runtime} {date : Date}

theorem Date.toList_rfc3339 (offset : Date → String) (date : Date) :
    (date.rfc3339 offset).toList =
      [digit (date.year.toNat / 1000), digit (date.year.toNat / 100),
        digit (date.year.toNat / 10), digit date.year.toNat, '-',
        digit (date.month / 10), digit date.month, '-',
        digit (date.day / 10), digit date.day, 'T', '0', '0', ':', '0', '0', ':', '0',
        '0'] ++ (offset date).toList := by
  simp [rfc3339]

/-- The formats of the controllers reject every serialised date. -/
theorem slashGroups_rfc3339 (shortest longest : ℕ) :
    DateTime.slashGroups shortest longest (date.rfc3339 rendering.offset) = none := by
  apply Option.not_isSome_iff_eq_none.mp
  intro hgroups
  have hdash : '-' ∈ (date.rfc3339 rendering.offset).toList := by
    rw [Date.toList_rfc3339]
    simp
  rcases DateTime.mem_of_slashGroups hgroups hdash with hdigit | hslash
  · exact absurd hdigit (by decide)
  · exact absurd hslash (by decide)

theorem no_zero_rfc3339 : '\x00' ∉ (date.rfc3339 rendering.offset).toList := by
  intro hzero
  rw [Date.toList_rfc3339, List.mem_append] at hzero
  rcases hzero with hday | hoffset
  · simp [Runtime.zero_ne_digit] at hday
  · have hform := List.all_eq_true.mp (rendering.offset_form date) _ hoffset
    revert hform
    decide

theorem createFromFormat_dmY_rfc3339 :
    Runtime.createFromFormat DateTime.dmY (.str (date.rfc3339 rendering.offset)) =
      .ok none := by
  refine Runtime.createFromFormat_str_eq_ok_iff.mpr ⟨no_zero_rfc3339, ?_⟩
  rw [DateTime.createFromFormat_dmY, slashGroups_rfc3339]
  rfl

theorem createFromFormat_dmy_rfc3339 :
    Runtime.createFromFormat DateTime.dmy (.str (date.rfc3339 rendering.offset)) =
      .ok none := by
  refine Runtime.createFromFormat_str_eq_ok_iff.mpr ⟨no_zero_rfc3339, ?_⟩
  rw [DateTime.createFromFormat_dmy, slashGroups_rfc3339]
  rfl

/-- The constructor leaves a serialised date to the general grammar. -/
theorem newDateTime_rfc3339
    (hread : runtime.strtotime (date.rfc3339 rendering.offset) = some date) :
    runtime.newDateTime (.str (date.rfc3339 rendering.offset)) = .ok date := by
  have hconstruct : DateTime.construct runtime.today runtime.strtotime
      (date.rfc3339 rendering.offset) = some date := by
    have hempty : date.rfc3339 rendering.offset ≠ "" := by
      intro hempty
      have hlist := congrArg String.toList hempty
      rw [Date.toList_rfc3339] at hlist
      cases hlist
    have hslash : DateTime.slashParts (date.rfc3339 rendering.offset).toList = none := by
      rw [Date.toList_rfc3339]
      unfold DateTime.slashParts
      split
      · rename_i hlist
        exact absurd (congrArg List.length hlist) (by simp)
      · rfl
    rw [DateTime.construct, if_neg hempty, hslash]
    exact hread
  simp [Runtime.newDateTime, Value.toString, bind, Except.bind, hconstruct]

end Dates

/-! ## Categories -/

namespace CategorieController

variable {runtime : Runtime} {base : Base} {id : ℕ} {data : Value}

/-- The category after the setters of `update`. -/
def onRow (data : Value) (row : Categorie) : Categorie where
  nom := (received (data.field "nom") Value.toString).getD row.nom
  description := (received (data.field "description") Value.toString).getD row.description

/-- The content after the flush of an update. -/
def modified (base : Base) (id : ℕ) (data : Value) : Tables :=
  { base.toTables with categorie := base.categorie.modify id (Categorie.store ∘ onRow data) }

/-- The session of an `update` after some of its setters. -/
def setting (base : Base) (id : ℕ) (rewrite : Categorie → Categorie) : Session :=
  { Session.start base with managed :=
    { base.toTables with categorie := base.categorie.modify id rewrite } }

theorem setting_id : setting base id (fun row => row) = Session.start base := by
  rw [setting, Table.modify_id]
  rfl

theorem setCategorie_setting (before rewrite : Categorie → Categorie) :
    setCategorie id rewrite (setting base id before) =
      .ok () (setting base id (rewrite ∘ before)) := by
  have hset : setting base id (rewrite ∘ before) =
      { setting base id before with managed := { base.toTables with
        categorie := (base.categorie.modify id before).modify id rewrite } } := by
    rw [Table.modify_modify]
    rfl
  rw [hset]
  rfl

theorem commit_setting :
    (setting base id (onRow data)).commit =
      .ok ((setting base id (onRow data)).managed, 0) := by
  have hkeys : base.SameKeys (setting base id (onRow data)).managed :=
    { base.sameKeys_refl with categorie := ⟨(Table.ids_modify _ _ _).symm, rfl⟩ }
  exact Session.commit_managed base hkeys

theorem store_setting :
    (setting base id (onRow data)).managed.store = modified base id data := by
  rw [setting, base.valid.store_categorie, Table.map_modify fun row hrow =>
    (base.valid.categorie_fits row hrow).store_eq]
  rfl

theorem refuses_update : Refuses (update runtime id data) := by
  have hset : ∀ categorie rewrite, Refuses (setCategorie categorie rewrite) :=
    fun _ _ => stops_modify _
  refine refuses_findOr _ _ _ (fun categorie => ?_) (refuses_answer (by decide) _)
  refine (refuses_setter _ _ fun _ => hset _ _).bind fun _ => ?_
  refine (refuses_setter _ _ fun _ => hset _ _).bind fun _ => ?_
  exact refuses_flush.bind fun _ => stops_pure _

theorem completes_update_iff {property : Response → Base → Prop} :
    Completes (update runtime id data) (fun sent final => property sent final.base)
        (Session.start base) ↔
      id ∈ base.categorie.ids ∧ data.Converts "nom" Value.toString ∧
        data.Converts "description" Value.toString ∧
        ∃ hvalid : (modified base id data).Valid,
          property ⟨201, .object [("message", .str "Categorie updated"),
            ("id", .int id)]⟩ ⟨modified base id data, hvalid⟩ := by
  unfold update
  rw [completes_findPath_iff (not_completes_answer _ _), ← @setting_id base id]
  dsimp only
  rw [completes_setter_iff (setCategorie_setting _) (fun nom row =>
      { row with nom := nom.getD row.nom }) rfl ?_,
    completes_setter_iff (setCategorie_setting _) (fun description row =>
      { row with description := description.getD row.description }) rfl ?_,
    setting_id, Completes, wp_bind]
  · have hflush := @completes_flush_of_commit (setting base id (onRow data))
      (fun _ final => property ⟨201, .object [("message", .str "Categorie updated"),
        ("id", .int id)]⟩ final.base) _ _ _ commit_setting store_setting
    exact and_congr Iff.rfl (and_congr Iff.rfl (and_congr Iff.rfl hflush))
  all_goals exact fun _ => rfl

end CategorieController

/-! ## The six resources -/

inductive Ressource where
  | livre
  | categorie
  | auteur
  | emprunt
  | reservations
  | adherent

namespace Ressource

def ids (base : Base) : Ressource → List ℕ
  | livre => base.livre.ids
  | categorie => base.categorie.ids
  | auteur => base.auteur.ids
  | emprunt => base.emprunt.ids
  | reservations => base.reservations.ids
  | adherent => base.utilisateur.ids

/-- `GET` of one row. -/
def get (rendering : Rendering) (runtime : Runtime) (base : Base) (id : ℕ) :
    Ressource → Except Throwable Response
  | livre => .ok (LivreController.show (Date.rfc3339 rendering.offset) base.toTables id)
  | categorie => .ok (CategorieController.show base.toTables id)
  | auteur => .ok (AuteurController.show rendering base.toTables id)
  | emprunt => .ok (EmpruntController.getById rendering base.toTables id)
  | reservations => .ok (ReservationsController.getById rendering base.toTables id)
  | adherent => AdherentController.show rendering runtime base.toTables id

/-- `PUT` of one row. -/
def put (id : ℕ) (data : Value) : Ressource → Requete
  | livre => .livreUpdate id data
  | categorie => .categorieUpdate id data
  | auteur => .auteurUpdate id data
  | emprunt => .empruntUpdate id data
  | reservations => .reservationsUpdate id data
  | adherent => .adherentUpdate id data

/-- Sending back what was read succeeds and changes nothing. -/
def GetPut (rendering : Rendering) (runtime : Runtime) (base : Base)
    (ressource : Ressource) (id : ℕ) : Prop :=
  ∃ sent, ressource.get rendering runtime base id = .ok sent ∧
    (Outcome.response sent).Success ∧
    ((ressource.put id (sent.body.transmitted rendering.float)).executer
      runtime base).1.Success ∧
    ((ressource.put id (sent.body.transmitted rendering.float)).executer
      runtime base).2 = base

/-- What was read is not taken back, and nothing changes. -/
def Refused (rendering : Rendering) (runtime : Runtime) (base : Base)
    (ressource : Ressource) (id : ℕ) : Prop :=
  ∃ sent, ressource.get rendering runtime base id = .ok sent ∧
    (Outcome.response sent).Success ∧
    ¬ ((ressource.put id (sent.body.transmitted rendering.float)).executer
      runtime base).1.Success ∧
    ((ressource.put id (sent.body.transmitted rendering.float)).executer
      runtime base).2 = base

/-- Books and categories always, a user whose two dates are the current day and
whose roles are kept, nothing else. -/
def Restores (rendering : Rendering) (runtime : Runtime) (base : Base) (id : ℕ) :
    Ressource → Prop
  | livre | categorie => True
  | auteur | emprunt | reservations => False
  | adherent => ∀ row, base.utilisateur.find id = some row →
      row.dateAdhesion = runtime.today ∧ row.dateNaiss = runtime.today ∧
        rendering.KeepsRoles runtime row.roles

variable {rendering : Rendering} {runtime : Runtime} {base : Base} {id : ℕ}

/-- Two committed states with the same content are one. -/
theorem eq_of_toTables {left right : Base} (htables : left.toTables = right.toTables) :
    left = right := by
  cases left
  cases right
  cases htables
  rfl

/-! ### Books -/

theorem transmitted_livre (normalize : Date → String) (row : Livre) :
    (LivreController.entry normalize base.toTables id row).transmitted rendering.float =
      LivreController.entry normalize base.toTables id row := by
  simp [LivreController.entry]

theorem accepted_livre {old : Livre} (hold : base.livre.find id = some old)
    (hdate : runtime.newDateTime (.str (old.dateSortie.rfc3339 rendering.offset)) =
      .ok old.dateSortie) :
    LivreController.Accepted runtime base.toTables id
      (LivreController.entry (Date.rfc3339 rendering.offset) base.toTables id old) where
  livre := Table.mem_ids_of_find hold
  titre := by
    intro given hgiven
    cases hgiven
    exact ⟨old.titre, rfl⟩
  dateSortie := by
    intro given hgiven
    cases hgiven
    exact ⟨old.dateSortie, hdate⟩
  langue := by
    intro given hgiven
    cases hgiven
    exact ⟨old.langue, rfl⟩
  photoCouverture := by
    intro given hgiven
    cases hphoto : old.photoCouverture with
    | none =>
        rw [LivreController.entry, hphoto] at hgiven
        cases hgiven
    | some photo =>
        rw [LivreController.entry, hphoto] at hgiven
        cases hgiven
        exact ⟨photo, rfl⟩
  categorie := fun _ hgiven => by cases hgiven
  auteurs := fun _ hgiven => by cases hgiven

theorem sent_livre {old : Livre}
    (hdate : runtime.newDateTime (.str (old.dateSortie.rfc3339 rendering.offset)) =
      .ok old.dateSortie) :
    LivreController.sent runtime
        (LivreController.entry (Date.rfc3339 rendering.offset) base.toTables id old) =
      ⟨some old.titre, some old.dateSortie, some old.langue, old.photoCouverture.map some,
        none, []⟩ := by
  have hfield : (LivreController.entry (Date.rfc3339 rendering.offset) base.toTables id
      old).field "dateSortie" = some (.str (old.dateSortie.rfc3339 rendering.offset)) := rfl
  have hreceived : received ((LivreController.entry (Date.rfc3339 rendering.offset)
      base.toTables id old).field "dateSortie") runtime.newDateTime =
        some old.dateSortie := by
    simp only [received, hfield, Option.bind_some, hdate, Except.toOption]
  rw [LivreController.sent, hreceived]
  cases hphoto : old.photoCouverture with
  | none =>
      rw [LivreController.entry, hphoto]
      rfl
  | some photo =>
      rw [LivreController.entry, hphoto]
      rfl

theorem getPut_livre
    (hstrtotime : ∀ date, DateColumn date →
      runtime.strtotime (date.rfc3339 rendering.offset) = some date)
    (hid : id ∈ base.livre.ids) : livre.GetPut rendering runtime base id := by
  obtain ⟨old, hold⟩ := Table.exists_find_of_mem_ids hid
  have hfits := base.valid.livre_fits (id, old) ((Table.find_eq_some_iff _ _ _).mp hold)
  have hdate := newDateTime_rfc3339 (hstrtotime old.dateSortie hfits.2.1)
  have haccepted := accepted_livre hold hdate
  have hsent := @sent_livre rendering runtime base id old hdate
  have hrow : (LivreController.sent runtime (LivreController.entry
      (Date.rfc3339 rendering.offset) base.toTables id old)).onRow old = old := by
    rw [hsent]
    cases hphoto : old.photoCouverture with
    | none =>
        cases old
        cases hphoto
        rfl
    | some photo =>
        cases old
        cases hphoto
        rfl
  refine ⟨_, congrArg Except.ok (LivreController.show_of_find _ hold),
    Outcome.success_of_status (by simp), ?_⟩
  dsimp only
  rw [transmitted_livre]
  have hserve := LivreController.serve_update_of_done haccepted hold
    (by rw [hrow, hfits.store_eq]) fun auteur hnames => by
      rw [← LivreController.mem_sent_auteurs_iff, hsent] at hnames
      cases hnames
  rw [put, Requete.executer, Requete.handler, hserve]
  exact ⟨Outcome.success_of_status (by simp), rfl⟩

/-! ### Categories -/

theorem getPut_categorie (hid : id ∈ base.categorie.ids) :
    categorie.GetPut rendering runtime base id := by
  obtain ⟨old, hold⟩ := Table.exists_find_of_mem_ids hid
  have hshow : CategorieController.show base.toTables id =
      ⟨200, .object [("id", .int id), ("nom", .str old.nom),
        ("description", .str old.description)]⟩ := by
    simp only [CategorieController.show, hold]
  refine ⟨_, congrArg Except.ok hshow, Outcome.success_of_status (by simp), ?_⟩
  simp only [Value.transmitted_object, List.map_cons, List.map_nil, Value.transmitted]
  set data := Value.object [("id", .int id), ("nom", .str old.nom),
    ("description", .str old.description)] with hdata
  have hsame : CategorieController.modified base id data = base.toTables := by
    have hfits := base.valid.categorie_fits (id, old) ((Table.find_eq_some_iff _ _ _).mp hold)
    have htable : base.categorie.modify id (Categorie.store ∘ CategorieController.onRow data) =
        base.categorie := by
      rw [Table.modify_eq_self_iff]
      intro row hrow
      rw [hold] at hrow
      cases hrow
      exact hfits.store_eq
    rw [CategorieController.modified, htable]
  have hvalid : (CategorieController.modified base id data).Valid := by
    rw [hsame]
    exact base.valid
  apply (success_iff_completes CategorieController.refuses_update base fun _ final =>
    final = base).mpr
  apply (@CategorieController.completes_update_iff runtime base id data fun sent final =>
    (Outcome.response sent).Success ∧ final = base).mpr
  refine ⟨hid, ?_, ?_, hvalid, Outcome.success_of_status (by simp), eq_of_toTables hsame⟩
  · intro given hgiven
    cases hgiven
    exact ⟨old.nom, rfl⟩
  · intro given hgiven
    cases hgiven
    exact ⟨old.description, rfl⟩

/-! ### Authors, loans and reservations -/

theorem not_success_auteur {old : Auteur} (hold : base.auteur.find id = some old) :
    ¬ ((Requete.auteurUpdate id ((AuteurController.show rendering base.toTables
      id).body.transmitted rendering.float)).executer runtime base).1.Success := by
  intro hsuccess
  have hbody : ((AuteurController.show rendering base.toTables id).body.transmitted
      rendering.float).field "dateNaiss" =
        some (.str (old.dateNaiss.rfc3339 rendering.offset)) := by
    rw [AuteurController.show, hold]
    rfl
  obtain ⟨haccepted, -⟩ := passed_of_success AuteurController.refuses_update
    (fun _ => AuteurController.completes_update_iff) hsuccess
  obtain ⟨date, hdate⟩ := haccepted.dateNaiss _ hbody
  rw [AuteurController.parseDate, createFromFormat_dmY_rfc3339] at hdate
  cases hdate

theorem not_success_emprunt {old : Emprunt} (hold : base.emprunt.find id = some old) :
    ¬ ((Requete.empruntUpdate id ((EmpruntController.getById rendering base.toTables
      id).body.transmitted rendering.float)).executer runtime base).1.Success := by
  intro hsuccess
  have hbody : ((EmpruntController.getById rendering base.toTables id).body.transmitted
      rendering.float).field "livreId" = none := by
    rw [EmpruntController.getById, hold]
    rfl
  obtain ⟨-, row, hrow, -⟩ := passed_of_success EmpruntController.refuses_update
    (fun _ => EmpruntController.completes_update_iff) hsuccess
  obtain ⟨given, hgiven, -⟩ := hrow.livre
  rw [hbody] at hgiven
  cases hgiven

theorem not_success_reservations {old : Reservations}
    (hold : base.reservations.find id = some old) :
    ¬ ((Requete.reservationsUpdate id ((ReservationsController.getById rendering
      base.toTables id).body.transmitted rendering.float)).executer
        runtime base).1.Success := by
  intro hsuccess
  have hbody : ((ReservationsController.getById rendering base.toTables id).body.transmitted
      rendering.float).field "livreId" = none := by
    rw [ReservationsController.getById, hold]
    rfl
  obtain ⟨-, row, hrow, -⟩ := passed_of_success ReservationsController.refuses_update
    (fun _ => ReservationsController.completes_update_iff) hsuccess
  obtain ⟨given, hgiven, -⟩ := hrow.livre
  rw [hbody] at hgiven
  cases hgiven

/-! ### Users -/

/-- The answer for a user, with its roles read. -/
def adherentEntry (rendering : Rendering) (id : ℕ) (row : Utilisateur)
    (roles : List (Key × Value)) : Value :=
  .object [
    ("id", .int id),
    ("dateAdhesion", .str (row.dateAdhesion.rfc3339 rendering.offset)),
    ("nom", .str row.nom),
    ("prenom", .str row.prenom),
    ("dateNaiss", .str (row.dateNaiss.rfc3339 rendering.offset)),
    ("email", .str row.email),
    ("adressePostale", .str row.adressePostale),
    ("numTel", .int row.numTel),
    ("photo", .ofNullable row.photo),
    ("roles", .arr roles),
    ("password", .str row.password)]

theorem transmitted_adherentEntry (row : Utilisateur) (roles : List (Key × Value)) :
    (adherentEntry rendering id row roles).transmitted rendering.float =
      adherentEntry rendering id row (Value.transmittedEntries rendering.float roles) := by
  simp [adherentEntry]

theorem show_adherent_eq_ok_iff {row : Utilisateur} (hrow : base.utilisateur.find id = some row)
    {sent : Response} :
    AdherentController.show rendering runtime base.toTables id = .ok sent ↔
      ∃ roles, row.getRoles rendering runtime = .ok roles ∧
        sent = ⟨200, adherentEntry rendering id row roles⟩ := by
  simp only [AdherentController.show, hrow]
  cases row.getRoles rendering runtime with
  | error throwable => simp [bind, Except.bind]
  | ok roles => simp [bind, Except.bind, pure, Except.pure, adherentEntry, eq_comm]

theorem parseDate_adherent {format : List DateTime.Format} {date : Date}
    (hread : Runtime.createFromFormat format (.str (date.rfc3339 rendering.offset)) =
      .ok none) :
    AdherentController.parseDate runtime format (.str (date.rfc3339 rendering.offset)) =
      .ok runtime.today := by
  rw [AdherentController.parseDate, hread]
  rfl

/-- What the update makes of the user: the dates become the current day. -/
theorem rewritten_adherentEntry (row : Utilisateur) (roles : List (Key × Value)) :
    AdherentController.rewritten runtime (adherentEntry rendering id row roles) row =
      { row with
        dateAdhesion := runtime.today
        dateNaiss := runtime.today
        roles := roles } := by
  have hadhesionField : (adherentEntry rendering id row roles).field "dateAdhesion" =
      some (.str (row.dateAdhesion.rfc3339 rendering.offset)) := rfl
  have hadhesion : received ((adherentEntry rendering id row roles).field "dateAdhesion")
      (AdherentController.parseDate runtime DateTime.dmY) = some runtime.today := by
    simp only [received, hadhesionField, Option.bind_some,
      parseDate_adherent createFromFormat_dmY_rfc3339, Except.toOption]
  have hnaissField : (adherentEntry rendering id row roles).field "dateNaiss" =
      some (.str (row.dateNaiss.rfc3339 rendering.offset)) := rfl
  have hnaiss : received ((adherentEntry rendering id row roles).field "dateNaiss")
      (AdherentController.parseDate runtime DateTime.dmy) = some runtime.today := by
    simp only [received, hnaissField, Option.bind_some,
      parseDate_adherent createFromFormat_dmy_rfc3339, Except.toOption]
  rw [AdherentController.rewritten, AdherentController.onRow, hadhesion, hnaiss]
  cases hphoto : row.photo with
  | none =>
      rw [adherentEntry, hphoto]
      rfl
  | some photo =>
      rw [adherentEntry, hphoto]
      rfl

theorem accepted_adherentEntry {row : Utilisateur}
    (hrow : base.utilisateur.find id = some row) (roles : List (Key × Value)) :
    AdherentController.UpdateAccepted runtime base.toTables id
      (adherentEntry rendering id row roles) where
  utilisateur := Table.mem_ids_of_find hrow
  dateAdhesion := by
    rintro given hgiven
    cases hgiven
    exact ⟨_, parseDate_adherent createFromFormat_dmY_rfc3339⟩
  nom := by
    rintro given hgiven
    cases hgiven
    exact ⟨_, rfl⟩
  prenom := by
    rintro given hgiven
    cases hgiven
    exact ⟨_, rfl⟩
  dateNaiss := by
    rintro given hgiven
    cases hgiven
    exact ⟨_, parseDate_adherent createFromFormat_dmy_rfc3339⟩
  email := by
    rintro given hgiven
    cases hgiven
    exact ⟨_, rfl⟩
  adressePostale := by
    rintro given hgiven
    cases hgiven
    exact ⟨_, rfl⟩
  numTel := by
    rintro given hgiven
    cases hgiven
    exact ⟨_, rfl⟩
  photo := by
    rintro given hgiven
    cases hphoto : row.photo with
    | none =>
        rw [adherentEntry, hphoto] at hgiven
        cases hgiven
    | some photo =>
        rw [adherentEntry, hphoto] at hgiven
        cases hgiven
        exact ⟨_, rfl⟩
  roles := by
    rintro given hgiven
    cases hgiven
    exact ⟨_, rfl⟩
  password := by
    rintro given hgiven
    cases hgiven
    exact ⟨_, rfl⟩

/-- The update with such a body succeeds and leaves the state exactly if it says
what is stored. -/
theorem executer_adherentEntry_iff {row : Utilisateur}
    (hrow : base.utilisateur.find id = some row) (roles : List (Key × Value)) :
    ((Requete.adherentUpdate id (adherentEntry rendering id row roles)).executer
        runtime base).1.Success ∧
      ((Requete.adherentUpdate id (adherentEntry rendering id row roles)).executer
        runtime base).2 = base ↔
    row.dateAdhesion = runtime.today ∧ row.dateNaiss = runtime.today ∧ roles = row.roles := by
  refine (success_iff_completes AdherentController.refuses_update base fun _ final =>
    final = base).trans ((@AdherentController.completes_update_iff runtime base id
      (adherentEntry rendering id row roles) fun sent final =>
        (Outcome.response sent).Success ∧ final = base).trans ?_)
  have hfits := base.valid.utilisateur_fits (id, row) ((Table.find_eq_some_iff _ _ _).mp hrow)
  have hstore : (AdherentController.rewritten runtime (adherentEntry rendering id row roles)
      row).store =
        AdherentController.rewritten runtime (adherentEntry rendering id row roles) row := by
    rw [rewritten_adherentEntry]
    calc
      _ = { row.store with
            roles := roles, dateAdhesion := runtime.today, dateNaiss := runtime.today } := rfl
      _ = _ := by rw [hfits.store_eq]
  have htables : AdherentController.modified runtime base id
      (adherentEntry rendering id row roles) = base.toTables ↔
        AdherentController.rewritten runtime (adherentEntry rendering id row roles) row =
          row := by
    constructor
    · intro hsame
      have hkept := Table.modify_eq_self_iff.mp (congrArg Tables.utilisateur hsame) row hrow
      rwa [Function.comp_apply, hstore] at hkept
    · intro hsame
      have htable : base.utilisateur.modify id (Utilisateur.store ∘
          AdherentController.rewritten runtime (adherentEntry rendering id row roles)) =
            base.utilisateur := by
        rw [Table.modify_eq_self_iff]
        intro other hother
        rw [hrow] at hother
        cases hother
        rw [Function.comp_apply, hstore, hsame]
      rw [AdherentController.modified, htable]
  have hkept : AdherentController.rewritten runtime (adherentEntry rendering id row roles)
      row = row ↔ row.dateAdhesion = runtime.today ∧ row.dateNaiss = runtime.today ∧
        roles = row.roles := by
    rw [rewritten_adherentEntry]
    cases row
    simp only [Utilisateur.mk.injEq, true_and, and_true]
    constructor
    · rintro ⟨hroles, hadhesion, hnaiss⟩
      exact ⟨hadhesion.symm, hnaiss.symm, hroles⟩
    · rintro ⟨hadhesion, hnaiss, hroles⟩
      exact ⟨hroles, hadhesion.symm, hnaiss.symm⟩
  rw [← hkept, ← htables]
  constructor
  · rintro ⟨-, hvalid, -, hsame⟩
    exact congrArg Base.toTables hsame
  · intro hsame
    exact ⟨accepted_adherentEntry hrow roles, hsame ▸ base.valid,
      Outcome.success_of_status (by simp), eq_of_toTables hsame⟩

theorem getPut_adherent_iff (hid : id ∈ base.utilisateur.ids) :
    adherent.GetPut rendering runtime base id ↔
      adherent.Restores rendering runtime base id := by
  obtain ⟨row, hrow⟩ := Table.exists_find_of_mem_ids hid
  simp only [Restores, hrow, Option.some.injEq, forall_eq']
  rw [← Rendering.keepsRoles_iff]
  constructor
  · rintro ⟨sent, hget, -, hput⟩
    obtain ⟨roles, hroles, rfl⟩ := (show_adherent_eq_ok_iff hrow).mp hget
    rw [transmitted_adherentEntry] at hput
    obtain ⟨hadhesion, hnaiss, hsame⟩ := (executer_adherentEntry_iff hrow _).mp hput
    exact ⟨hadhesion, hnaiss, roles, hroles, hsame⟩
  · rintro ⟨hadhesion, hnaiss, roles, hroles, hsame⟩
    refine ⟨_, (show_adherent_eq_ok_iff hrow).mpr ⟨roles, hroles, rfl⟩,
      Outcome.success_of_status (by simp), ?_⟩
    rw [transmitted_adherentEntry]
    exact (executer_adherentEntry_iff hrow _).mpr ⟨hadhesion, hnaiss, hsame⟩

/-! ### All of them -/

theorem refused_of_not_success {ressource : Ressource} {sent : Response}
    (hget : ressource.get rendering runtime base id = .ok sent)
    (hsent : (Outcome.response sent).Success)
    (hupdates : (ressource.put id (sent.body.transmitted rendering.float)).creates = false)
    (hput : ¬ ((ressource.put id (sent.body.transmitted rendering.float)).executer
      runtime base).1.Success) : ressource.Refused rendering runtime base id :=
  ⟨sent, hget, hsent, hput,
    Requete.unchanged_of_refused runtime base hupdates hput⟩

theorem Refused.not_getPut {ressource : Ressource}
    (hrefused : ressource.Refused rendering runtime base id) :
    ¬ ressource.GetPut rendering runtime base id := by
  rintro ⟨sent, hget, -, hput, -⟩
  obtain ⟨other, hother, -, hnot, -⟩ := hrefused
  cases hget.symm.trans hother
  exact hnot hput

theorem refused_auteur (hid : id ∈ base.auteur.ids) :
    auteur.Refused rendering runtime base id := by
  obtain ⟨old, hold⟩ := Table.exists_find_of_mem_ids hid
  refine refused_of_not_success rfl ?_ rfl (not_success_auteur hold)
  rw [AuteurController.show, hold]
  exact Outcome.success_of_status (by simp)

theorem refused_emprunt (hid : id ∈ base.emprunt.ids) :
    emprunt.Refused rendering runtime base id := by
  obtain ⟨old, hold⟩ := Table.exists_find_of_mem_ids hid
  refine refused_of_not_success rfl ?_ rfl (not_success_emprunt hold)
  rw [EmpruntController.getById, hold]
  exact Outcome.success_of_status (by simp)

theorem refused_reservations (hid : id ∈ base.reservations.ids) :
    reservations.Refused rendering runtime base id := by
  obtain ⟨old, hold⟩ := Table.exists_find_of_mem_ids hid
  refine refused_of_not_success rfl ?_ rfl (not_success_reservations hold)
  rw [ReservationsController.getById, hold]
  exact Outcome.success_of_status (by simp)

/-- Where serialised dates are read back by `new DateTime`, sending back what was
read is the identity exactly on the rows that are restored. -/
theorem getPut_iff_restores
    (hstrtotime : ∀ date, DateColumn date →
      runtime.strtotime (date.rfc3339 rendering.offset) = some date)
    {ressource : Ressource} (hid : id ∈ ressource.ids base) :
    ressource.GetPut rendering runtime base id ↔
      ressource.Restores rendering runtime base id := by
  cases ressource with
  | livre => exact iff_of_true (getPut_livre hstrtotime hid) trivial
  | categorie => exact iff_of_true (getPut_categorie hid) trivial
  | auteur => exact iff_of_false (refused_auteur hid).not_getPut fun hfalse => hfalse
  | emprunt => exact iff_of_false (refused_emprunt hid).not_getPut fun hfalse => hfalse
  | reservations =>
      exact iff_of_false (refused_reservations hid).not_getPut fun hfalse => hfalse
  | adherent => exact getPut_adherent_iff hid

/-- What was read of a book or a category can be sent back and changes nothing.
What was read of an author, a loan or a reservation is refused and changes
nothing. -/
theorem get_then_put (rendering : Rendering) (runtime : Runtime)
    (hstrtotime : ∀ date, DateColumn date →
      runtime.strtotime (date.rfc3339 rendering.offset) = some date)
    (base : Base) (ressource : Ressource) (id : ℕ) (hid : id ∈ ressource.ids base) :
    (ressource = livre ∨ ressource = categorie →
        ressource.GetPut rendering runtime base id) ∧
      (ressource = auteur ∨ ressource = emprunt ∨ ressource = reservations →
        ressource.Refused rendering runtime base id) := by
  constructor
  · rintro (rfl | rfl)
    · exact (getPut_iff_restores hstrtotime hid).mpr trivial
    · exact (getPut_iff_restores hstrtotime hid).mpr trivial
  · rintro (rfl | rfl | rfl)
    · exact refused_auteur hid
    · exact refused_emprunt hid
    · exact refused_reservations hid

/-- The day that a serialised date begins with. -/
def readRfc3339 (text : String) : Option Date :=
  match text.toList with
  | y :: z :: v :: w :: '-' :: m :: n :: '-' :: d :: e :: 'T' :: _ =>
      DateTime.calendarDay (Date.number [d, e]) (Date.number [m, n])
        (Date.number [y, z, v, w])
  | _ => none

theorem readRfc3339_rfc3339 (offset : Date → String) {date : Date}
    (hcolumn : DateColumn date) : readRfc3339 (date.rfc3339 offset) = some date := by
  obtain ⟨hlow, hhigh⟩ := hcolumn
  have hdayLt := date.day_lt
  have hmonthLe := date.month_le
  have hyear : ((Date.number [Date.digit (date.year.toNat / 1000),
      Date.digit (date.year.toNat / 100), Date.digit (date.year.toNat / 10),
      Date.digit date.year.toNat] : ℕ) : ℤ) = date.year := by
    simp only [Date.number, List.foldl_cons, List.foldl_nil, Date.digitValue_digit]
    omega
  have hmonth : Date.number [Date.digit (date.month / 10), Date.digit date.month] =
      date.month := by
    simp only [Date.number, List.foldl_cons, List.foldl_nil, Date.digitValue_digit]
    omega
  have hday : Date.number [Date.digit (date.day / 10), Date.digit date.day] = date.day := by
    simp only [Date.number, List.foldl_cons, List.foldl_nil, Date.digitValue_digit]
    omega
  rw [readRfc3339, Date.toList_rfc3339]
  simp only [List.cons_append, hmonth, hday, DateTime.calendarDay, hyear]
  rw [dif_pos ⟨⟨date.month_pos, date.month_le⟩, date.day_pos, date.day_le⟩]

/-- A server in UTC that reads serialised dates. -/
def utc : Rendering where
  offset _ := "+00:00"
  float := .float
  nextKey entries := some (.int entries.length)
  offset_form _ := all_offset_utc

def reader : Runtime := { Runtime.dev with strtotime := readRfc3339 }

theorem reader_strtotime (date : Date) (hcolumn : DateColumn date) :
    reader.strtotime (date.rfc3339 utc.offset) = some date := by
  have hstrtotime : reader.strtotime = readRfc3339 := rfl
  rw [hstrtotime]
  exact readRfc3339_rfc3339 utc.offset hcolumn

theorem get_then_put_sample : livre.GetPut utc reader Base.sample 1 :=
  (get_then_put utc reader reader_strtotime Base.sample livre 1 (by decide)).1 (Or.inl rfl)

/-- The loan of the sample library is answered, and its update refused. -/
theorem get_then_put_fails :
    (∀ date, DateColumn date → reader.strtotime (date.rfc3339 utc.offset) = some date) ∧
      1 ∈ emprunt.ids Base.sample ∧
      (EmpruntController.getById utc Base.sample.toTables 1).status = 200 ∧
      ((emprunt.put 1 ((EmpruntController.getById utc Base.sample.toTables
        1).body.transmitted utc.float)).executer reader Base.sample).1 =
          .response ⟨400, .object [("error", .str "Missing required fields")]⟩ ∧
      ¬ emprunt.GetPut utc reader Base.sample 1 :=
  ⟨reader_strtotime, by decide, by decide, rfl, (refused_emprunt (by decide)).not_getPut⟩

end Ressource

end Bibliotheque
