import Bibliotheque.Api.ValidBodies

/-!
# Dates written `dd/mm/yyyy`

Eight date keys in five controllers are read in four different ways.  For each
create and update route that takes a date, this module says on which dates a
valid body is accepted and the date is the one that is stored.
-/

namespace Bibliotheque

open Program Bibliotheque.Action

/-! ## Routes and keys -/

inductive ChampDate where
  | livreDateSortie
  | auteurDateNaiss
  | auteurDateDeces
  | empruntDateEmprunt
  | empruntDateRetour
  | reservationsDateResa
  | adherentDateAdhesion
  | adherentDateNaiss

/-- A create route, with the salt its password hash draws, or an update route. -/
inductive Cible where
  | creation (salt : ℕ)
  | modification (id : ℕ)

/-- The number of the row that the route writes, where a new row gets `next`. -/
def Cible.row (next : ℕ) : Cible → ℕ
  | .creation _ => next
  | .modification id => id

namespace ChampDate

def key : ChampDate → String
  | livreDateSortie => "dateSortie"
  | auteurDateNaiss | adherentDateNaiss => "dateNaiss"
  | auteurDateDeces => "dateDeces"
  | empruntDateEmprunt => "dateEmprunt"
  | empruntDateRetour => "dateRetour"
  | reservationsDateResa => "dateResa"
  | adherentDateAdhesion => "dateAdhesion"

def requete (data : Value) : ChampDate → Cible → Requete
  | livreDateSortie, .creation _ => .livreCreate data
  | livreDateSortie, .modification id => .livreUpdate id data
  | auteurDateNaiss, .creation _ | auteurDateDeces, .creation _ => .auteurCreate data
  | auteurDateNaiss, .modification id | auteurDateDeces, .modification id =>
      .auteurUpdate id data
  | empruntDateEmprunt, .creation _ | empruntDateRetour, .creation _ =>
      .empruntCreate data
  | empruntDateEmprunt, .modification id | empruntDateRetour, .modification id =>
      .empruntUpdate id data
  | reservationsDateResa, .creation _ => .reservationsCreate data
  | reservationsDateResa, .modification id => .reservationsUpdate id data
  | adherentDateAdhesion, .creation salt | adherentDateNaiss, .creation salt =>
      .adherentCreate salt data
  | adherentDateAdhesion, .modification id | adherentDateNaiss, .modification id =>
      .adherentUpdate id data

/-- The stored date: `before` gives the number of a new row, `after` the row. -/
def column (before after : Base) (cible : Cible) : ChampDate → Option Date
  | livreDateSortie =>
      (after.livre.find (cible.row before.livre.next)).map (·.dateSortie)
  | auteurDateNaiss =>
      (after.auteur.find (cible.row before.auteur.next)).map (·.dateNaiss)
  | auteurDateDeces =>
      (after.auteur.find (cible.row before.auteur.next)).bind (·.dateDeces)
  | empruntDateEmprunt =>
      (after.emprunt.find (cible.row before.emprunt.next)).map (·.dateEmprunt)
  | empruntDateRetour =>
      (after.emprunt.find (cible.row before.emprunt.next)).bind (·.dateRetour)
  | reservationsDateResa =>
      (after.reservations.find (cible.row before.reservations.next)).map (·.dateResa)
  | adherentDateAdhesion =>
      (after.utilisateur.find (cible.row before.utilisateur.next)).map
        (·.dateAdhesion)
  | adherentDateNaiss =>
      (after.utilisateur.find (cible.row before.utilisateur.next)).map (·.dateNaiss)

/-- The request succeeds and stores exactly `date`. -/
def Stores (runtime : Runtime) (base : Base) (champ : ChampDate) (cible : Cible)
    (data : Value) (date : Date) : Prop :=
  ((champ.requete data cible).executer runtime base).1.Success ∧
    champ.column base ((champ.requete data cible).executer runtime base).2 cible =
      some date

end ChampDate

namespace ChampDate

/-- The body is valid for the route, its date keys included. -/
def Valid (runtime : Runtime) (base : Base) (data : Value) :
    ChampDate → Cible → Prop
  | livreDateSortie, .creation _ => LivreController.CreateValid runtime base data
  | livreDateSortie, .modification id =>
      LivreController.UpdateValid runtime base id data
  | auteurDateNaiss, .creation _ | auteurDateDeces, .creation _ =>
      AuteurController.CreateValid runtime base data
  | auteurDateNaiss, .modification id | auteurDateDeces, .modification id =>
      AuteurController.UpdateValid runtime base id data
  | empruntDateEmprunt, .creation _ | empruntDateRetour, .creation _ =>
      EmpruntController.Valid runtime base data
  | empruntDateEmprunt, .modification id | empruntDateRetour, .modification id =>
      id ∈ base.emprunt.ids ∧ EmpruntController.Valid runtime base data
  | reservationsDateResa, .creation _ =>
      ReservationsController.Valid runtime base (fun _ => True) data
  | reservationsDateResa, .modification id => id ∈ base.reservations.ids ∧
      ReservationsController.Valid runtime base (fun row => row.1 ≠ id) data
  | adherentDateAdhesion, .creation _ | adherentDateNaiss, .creation _ =>
      AdherentController.Valid runtime base data.Required none data
  | adherentDateAdhesion, .modification id | adherentDateNaiss, .modification id =>
      id ∈ base.utilisateur.ids ∧
        AdherentController.Valid runtime base data.Optional (some id) data

/-- On which dates and bodies the route stores the date it was given. -/
def Faithful (runtime : Runtime) (data : Value) (date : Date) :
    ChampDate → Cible → Prop
  | livreDateSortie, _ => date.day = date.month
  | auteurDateNaiss, .modification _ | auteurDateDeces, .modification _ =>
      data.Optional "livres" fun livres => livres = .arr []
  | adherentDateAdhesion, _ | adherentDateNaiss, .creation _ => False
  | adherentDateNaiss, .modification _ =>
      data.field "dateAdhesion" = none ∧ date = runtime.today
  | auteurDateNaiss, .creation _ | auteurDateDeces, .creation _
  | empruntDateEmprunt, _ | empruntDateRetour, _ | reservationsDateResa, _ => True

/-! ## Books -/

section Livre

variable {runtime : Runtime} {base : Base} {data : Value} {date : Date}

/-- A book route stores the date iff exchanging its day and month does not
change it. -/
private theorem livre_iff (hdate : data.Dated "dateSortie" date)
    {outcome : Outcome} {stored : Option Livre}
    (hread : ∀ read, runtime.newDateTime (.str date.write) = .ok read →
      DateColumn read → ∃ row : Livre, outcome.Success ∧ stored = some row ∧
        row.dateSortie = read)
    (hfail : ∀ throwable, runtime.newDateTime (.str date.write) = .error throwable →
      ¬ outcome.Success) :
    (outcome.Success ∧ stored.map (·.dateSortie) = some date) ↔
      date.day = date.month := by
  have hmonth := date.month_le
  by_cases hday : date.day ≤ 12
  · have hcolumn : DateColumn (DateTime.swapped date hday) :=
      Date.FourDigitYear.dateColumn hdate.2
    obtain ⟨row, hsuccess, hrow, hstored⟩ :=
      hread _ (runtime.newDateTime_write_of_le hdate.2 hday) hcolumn
    rw [← DateTime.swapped_eq_iff date hday, hrow, Option.map_some, hstored]
    constructor
    · exact fun hboth => Option.some.inj hboth.2
    · exact fun heq => ⟨hsuccess, congrArg some heq⟩
  · have hrefused := hfail _ (runtime.newDateTime_write_of_lt hdate.2 (by omega))
    constructor
    · exact fun hboth => absurd hboth.1 hrefused
    · intro hsame
      omega

theorem stores_livre_creation (hdate : data.Dated "dateSortie" date)
    (hvalid : LivreController.CreateValid runtime base data) (salt : ℕ) :
    livreDateSortie.Stores runtime base (.creation salt) data date ↔
      date.day = date.month :=
  livre_iff hdate (fun _ hread hcolumn => hvalid.serve_create hdate.1 hread hcolumn)
    fun _ hfail => hvalid.not_success_create hdate.1 hfail

theorem stores_livre_modification (hdate : data.Dated "dateSortie" date) {id : ℕ}
    (hvalid : LivreController.UpdateValid runtime base id data) :
    livreDateSortie.Stores runtime base (.modification id) data date ↔
      date.day = date.month :=
  livre_iff hdate (fun _ hread hcolumn => hvalid.serve_update hdate.1 hread hcolumn)
    fun _ hfail => LivreController.not_success_update_of_date hdate.1 hfail

end Livre

/-! ## Authors -/

section Auteur

variable {runtime : Runtime} {base : Base} {data : Value} {date : Date}

theorem stores_auteur_creation (hvalid : AuteurController.CreateValid runtime base data)
    (salt : ℕ) :
    (data.Dated "dateNaiss" date →
      auteurDateNaiss.Stores runtime base (.creation salt) data date) ∧
    (data.Dated "dateDeces" date →
      auteurDateDeces.Stores runtime base (.creation salt) data date) := by
  obtain ⟨row, hsuccess, hfind, hnaiss, hdeces⟩ := hvalid.serve_create
  constructor
  · intro hdate
    refine ⟨hsuccess, (congrArg (Option.map Auteur.dateNaiss) hfind).trans ?_⟩
    exact congrArg some (hnaiss.unique hdate)
  · intro hdate
    refine ⟨hsuccess, (congrArg (Option.bind · Auteur.dateDeces) hfind).trans ?_⟩
    exact hdeces.trans (AuteurController.received_date hdate)

theorem stores_auteur_modification {id : ℕ}
    (hvalid : AuteurController.UpdateValid runtime base id data)
    (hlivres : data.Optional "livres" fun livres => livres = .arr []) :
    (data.Dated "dateNaiss" date →
      auteurDateNaiss.Stores runtime base (.modification id) data date) ∧
    (data.Dated "dateDeces" date →
      auteurDateDeces.Stores runtime base (.modification id) data date) := by
  obtain ⟨old, hold⟩ := Table.exists_find_of_mem_ids hvalid.auteur
  obtain ⟨hsuccess, hfind⟩ := hvalid.serve_update hlivres hold
  constructor
  · intro hdate
    refine ⟨hsuccess, (congrArg (Option.map Auteur.dateNaiss) hfind).trans ?_⟩
    simp [AuteurController.onRow, AuteurController.received_date hdate]
  · intro hdate
    refine ⟨hsuccess, (congrArg (Option.bind · Auteur.dateDeces) hfind).trans ?_⟩
    simp [AuteurController.onRow, AuteurController.received_date hdate]

/-- An update that succeeds had no books in its body. -/
theorem no_livres_of_success {id : ℕ}
    (hvalid : AuteurController.UpdateValid runtime base id data)
    (hsuccess : (serve (AuteurController.update runtime id data) base).1.Success) :
    data.Optional "livres" fun livres => livres = .arr [] := by
  intro livres hfield
  by_contra hlivres
  exact AuteurController.not_success_update hvalid hfield hlivres hsuccess

end Auteur

/-! ## Loans, reservations and users -/

section Circulation

variable {runtime : Runtime} {base : Base} {data : Value} {date : Date}

theorem stores_emprunt_creation (hvalid : EmpruntController.Valid runtime base data)
    (salt : ℕ) :
    (data.Dated "dateEmprunt" date →
      empruntDateEmprunt.Stores runtime base (.creation salt) data date) ∧
    (data.Dated "dateRetour" date →
      empruntDateRetour.Stores runtime base (.creation salt) data date) := by
  obtain ⟨row, hrow⟩ := hvalid.resolved
  obtain ⟨hsuccess, hfind⟩ := hrow.serve_create
  obtain ⟨dateRetour, hdateRetour, hretour⟩ := hrow.dateRetour
  constructor
  · intro hdate
    refine ⟨hsuccess, (congrArg (Option.map Emprunt.dateEmprunt) hfind).trans ?_⟩
    exact congrArg some (hrow.dateEmprunt.unique hdate)
  · intro hdate
    refine ⟨hsuccess, (congrArg (Option.bind · Emprunt.dateRetour) hfind).trans ?_⟩
    exact hretour.trans (congrArg some (hdateRetour.unique hdate))

theorem stores_emprunt_modification {id : ℕ} (hid : id ∈ base.emprunt.ids)
    (hvalid : EmpruntController.Valid runtime base data) :
    (data.Dated "dateEmprunt" date →
      empruntDateEmprunt.Stores runtime base (.modification id) data date) ∧
    (data.Dated "dateRetour" date →
      empruntDateRetour.Stores runtime base (.modification id) data date) := by
  obtain ⟨row, hrow⟩ := hvalid.resolved
  obtain ⟨hsuccess, hfind⟩ := hrow.serve_update hid
  obtain ⟨dateRetour, hdateRetour, hretour⟩ := hrow.dateRetour
  constructor
  · intro hdate
    refine ⟨hsuccess, (congrArg (Option.map Emprunt.dateEmprunt) hfind).trans ?_⟩
    exact congrArg some (hrow.dateEmprunt.unique hdate)
  · intro hdate
    refine ⟨hsuccess, (congrArg (Option.bind · Emprunt.dateRetour) hfind).trans ?_⟩
    exact hretour.trans (congrArg some (hdateRetour.unique hdate))

theorem stores_reservations_creation (hdate : data.Dated "dateResa" date)
    (hvalid : ReservationsController.Valid runtime base (fun _ => True) data)
    (salt : ℕ) :
    reservationsDateResa.Stores runtime base (.creation salt) data date := by
  obtain ⟨row, hrow⟩ := hvalid.resolved
  obtain ⟨hsuccess, hfind⟩ := hrow.serve_create
  refine ⟨hsuccess, (congrArg (Option.map Reservations.dateResa) hfind).trans ?_⟩
  exact congrArg some (hrow.dateResa.unique hdate)

theorem stores_reservations_modification (hdate : data.Dated "dateResa" date) {id : ℕ}
    (hid : id ∈ base.reservations.ids)
    (hvalid : ReservationsController.Valid runtime base (fun row => row.1 ≠ id) data) :
    reservationsDateResa.Stores runtime base (.modification id) data date := by
  obtain ⟨row, hrow⟩ := hvalid.resolved
  obtain ⟨hsuccess, hfind⟩ := hrow.serve_update hid
  refine ⟨hsuccess, (congrArg (Option.map Reservations.dateResa) hfind).trans ?_⟩
  exact congrArg some (hrow.dateResa.unique hdate)

/-- The date of birth of a user is replaced by today, or the update fails. -/
theorem stores_adherent_modification (hdate : data.Dated "dateNaiss" date) {id : ℕ}
    (hid : id ∈ base.utilisateur.ids)
    (hvalid : AdherentController.Valid runtime base data.Optional (some id) data) :
    adherentDateNaiss.Stores runtime base (.modification id) data date ↔
      data.field "dateAdhesion" = none ∧ date = runtime.today := by
  cases hfield : data.field "dateAdhesion" with
  | some given =>
      obtain ⟨adhesion, hyear, rfl⟩ := hvalid.dateAdhesion given hfield
      have hfail := @AdherentController.not_success_update runtime base data id adhesion
        ⟨hfield, hyear⟩ hid
      constructor
      · exact fun hstores => absurd hstores.1 hfail
      · exact fun hboth => by simp at hboth
  | none =>
      obtain ⟨old, hold⟩ := Table.exists_find_of_mem_ids hid
      obtain ⟨hsuccess, hfind⟩ := hvalid.serve_update hfield hold
      have hstored : (AdherentController.onRow runtime data old).dateNaiss =
          runtime.today := by
        obtain ⟨today, hread, htoday⟩ := @AdherentController.reads_today runtime
          (.str date.write) ⟨date, hdate.2, rfl⟩
        simp [AdherentController.onRow, received, hdate.1, hread, Except.toOption,
          htoday]
      have hcolumn : (serve (AdherentController.update runtime id data) base).1.Success →
          adherentDateNaiss.column base
            (serve (AdherentController.update runtime id data) base).2
            (.modification id) = some runtime.today := by
        intro hdone
        refine (congrArg (Option.map Utilisateur.dateNaiss) (hfind hdone)).trans ?_
        exact congrArg some hstored
      constructor
      · intro hstores
        exact ⟨rfl, Option.some.inj (hstores.2.symm.trans (hcolumn hstores.1))⟩
      · rintro ⟨-, rfl⟩
        have hdone := hsuccess hdate.2.dateColumn
        exact ⟨hdone, hcolumn hdone⟩

end Circulation

/-! ## All routes -/

/-- A create or update route given a valid body with a date in one of its date
keys stores exactly that date iff the route is faithful on it. -/
theorem stores_iff_faithful (runtime : Runtime) (base : Base) (champ : ChampDate)
    (cible : Cible) (data : Value) (date : Date)
    (hdate : data.Dated champ.key date)
    (hvalid : champ.Valid runtime base data cible) :
    champ.Stores runtime base cible data date ↔
      champ.Faithful runtime data date cible := by
  cases champ with
  | livreDateSortie =>
      cases cible with
      | creation salt => exact stores_livre_creation hdate hvalid salt
      | modification id => exact stores_livre_modification hdate hvalid
  | auteurDateNaiss =>
      cases cible with
      | creation salt => exact iff_of_true ((stores_auteur_creation hvalid salt).1 hdate) trivial
      | modification id =>
          exact ⟨fun hstores => no_livres_of_success hvalid hstores.1,
            fun hlivres => (stores_auteur_modification hvalid hlivres).1 hdate⟩
  | auteurDateDeces =>
      cases cible with
      | creation salt => exact iff_of_true ((stores_auteur_creation hvalid salt).2 hdate) trivial
      | modification id =>
          exact ⟨fun hstores => no_livres_of_success hvalid hstores.1,
            fun hlivres => (stores_auteur_modification hvalid hlivres).2 hdate⟩
  | empruntDateEmprunt =>
      cases cible with
      | creation salt =>
          exact iff_of_true ((stores_emprunt_creation hvalid salt).1 hdate) trivial
      | modification id =>
          exact iff_of_true ((stores_emprunt_modification hvalid.1 hvalid.2).1 hdate)
            trivial
  | empruntDateRetour =>
      cases cible with
      | creation salt =>
          exact iff_of_true ((stores_emprunt_creation hvalid salt).2 hdate) trivial
      | modification id =>
          exact iff_of_true ((stores_emprunt_modification hvalid.1 hvalid.2).2 hdate)
            trivial
  | reservationsDateResa =>
      cases cible with
      | creation salt =>
          exact iff_of_true (stores_reservations_creation hdate hvalid salt) trivial
      | modification id =>
          exact iff_of_true (stores_reservations_modification hdate hvalid.1 hvalid.2)
            trivial
  | adherentDateAdhesion =>
      cases cible with
      | creation salt =>
          exact iff_of_false (fun hstores =>
            AdherentController.not_success_create hdate hstores.1) id
      | modification number =>
          exact iff_of_false (fun hstores =>
            AdherentController.not_success_update hdate hvalid.1 hstores.1) id
  | adherentDateNaiss =>
      cases cible with
      | creation salt =>
          obtain ⟨adhesion, hadhesion⟩ := hvalid.dateAdhesion.dated
          exact iff_of_false (fun hstores =>
            AdherentController.not_success_create hadhesion hstores.1) id
      | modification number =>
          exact stores_adherent_modification hdate hvalid.1 hvalid.2

/-- A book for the sample library, released on `date`. -/
def sampleLivre (date : Date) : Value :=
  .object [("titre", .str "Persuasion"), ("dateSortie", .str date.write),
    ("langue", .str "EN"), ("categorieId", .int 1), ("auteurIds", .list [.int 1])]

theorem valid_sampleLivre {date : Date} (hyear : date.FourDigitYear) :
    LivreController.CreateValid .dev Base.sample (sampleLivre date) where
  titre := ⟨.str "Persuasion", rfl, rfl, "Persuasion", rfl, by decide⟩
  dateSortie := ⟨.str date.write, rfl, date, hyear, rfl⟩
  langue := ⟨.str "EN", rfl, rfl, "EN", rfl, by decide⟩
  photoCouverture := by
    intro given hgiven
    cases hgiven
  categorieId := ⟨.int 1, rfl, rfl, 1, by decide, rfl⟩
  auteurIds := ⟨.list [.int 1], rfl, rfl, [.int 1], rfl, by
    intro item hitem
    rw [List.mem_singleton.mp hitem]
    exact ⟨1, by decide, rfl⟩⟩

/-- 12 December 2020. -/
def december : Date := ⟨2020, 12, 12, by decide, by decide, by decide, by decide⟩

theorem stores_december :
    livreDateSortie.Stores .dev Base.sample (.creation 0) (sampleLivre december)
      december :=
  (stores_iff_faithful .dev Base.sample livreDateSortie (.creation 0)
    (sampleLivre december) december ⟨rfl, by decide⟩
    (valid_sampleLivre (by decide))).mpr rfl

/-- 5 March 2020. -/
def march : Date := ⟨2020, 3, 5, by decide, by decide, by decide, by decide⟩

/-- A book released on 5 March is accepted and stored with 3 May. -/
theorem creation_stores_may :
    LivreController.CreateValid .dev Base.sample (sampleLivre march) ∧
      (sampleLivre march).Dated "dateSortie" march ∧
      ((Requete.livreCreate (sampleLivre march)).executer .dev Base.sample).1.Success ∧
      livreDateSortie.column Base.sample
        ((Requete.livreCreate (sampleLivre march)).executer .dev Base.sample).2
        (.creation 0) = some (DateTime.swapped march (by decide)) ∧
      ¬ livreDateSortie.Stores .dev Base.sample (.creation 0) (sampleLivre march)
        march := by
  refine ⟨valid_sampleLivre (by decide), ⟨rfl, by decide⟩, by decide, by decide, ?_⟩
  intro hstores
  exact absurd hstores.2 (by decide)

end ChampDate

end Bibliotheque
