import Bibliotheque.Php.SlashDate
import Bibliotheque.Api.Atomicity
import Bibliotheque.Api.AuteurRequests
import Bibliotheque.Api.CirculationRequests
import Bibliotheque.Api.Dates

/-!
# Texts that denote no date

The create and update routes of loans, reservations, authors and users take
dates as texts.  A text that denotes no calendar day should be refused.  The
first three controllers only test that `createFromFormat` reads something, and
it rolls an impossible day over into a later one; the users' controller takes
what cannot be read for the current day.
-/

namespace Bibliotheque

open Program Bibliotheque.Action

namespace ChampDate

/-- The create and update requests with the body `data` that read the key. -/
def Route (data : Value) : ChampDate → Requete → Prop
  | livreDateSortie, requete =>
      requete = .livreCreate data ∨ ∃ id, requete = .livreUpdate id data
  | auteurDateNaiss, requete | auteurDateDeces, requete =>
      requete = .auteurCreate data ∨ ∃ id, requete = .auteurUpdate id data
  | empruntDateEmprunt, requete | empruntDateRetour, requete =>
      requete = .empruntCreate data ∨ ∃ id, requete = .empruntUpdate id data
  | reservationsDateResa, requete =>
      requete = .reservationsCreate data ∨ ∃ id, requete = .reservationsUpdate id data
  | adherentDateAdhesion, requete | adherentDateNaiss, requete =>
      (∃ salt, requete = .adherentCreate salt data) ∨
        ∃ id, requete = .adherentUpdate id data

/-- The date in the column of a row. -/
def stored (base : Base) (champ : ChampDate) (id : ℕ) : Option Date :=
  champ.column base base (.modification id)

/-- A request only writes `date` into the column. -/
def OnlyStores (base final : Base) (champ : ChampDate) (date : Option Date) : Prop :=
  ∀ id, champ.stored final id = champ.stored base id ∨ champ.stored final id = date

/-- Whatever else the request says and the server holds, a text that denotes no
calendar day is refused and changes no row, and no date other than the denoted
one is stored. -/
def Guarded (champ : ChampDate) (texte : String) : Prop :=
  ∀ (runtime : Runtime) (base : Base) (data : Value) (requete : Requete),
    data.field champ.key = some (.str texte) → champ.Route data requete →
      (DateTime.denoted texte = none →
        ¬ (requete.executer runtime base).1.Success ∧
          (requete.executer runtime base).2.SameRows base.toTables) ∧
      champ.OnlyStores base (requete.executer runtime base).2 (DateTime.denoted texte)

/-- If the text has three groups of digits, then they give a day that exists, or
one that rolls over out of the range of a column. -/
def ExactDay (texte : String) : Prop :=
  ∀ day month year, DateTime.slashGroups 1 4 texte = some (day, month, year) →
    (DateTime.calendarDay day month year).isSome = true ∨
      ¬ DateColumn (Date.rollover year month day)

/-- The texts on which a key is guarded.  A user's date must be one that stops the
request: one that the format accepts, or one with a zero byte. -/
def Exact (texte : String) : ChampDate → Prop
  | adherentDateAdhesion =>
      (DateTime.slashGroups 1 4 texte).isSome = true ∨ '\x00' ∈ texte.toList
  | adherentDateNaiss =>
      (DateTime.slashGroups 2 2 texte).isSome = true ∨ '\x00' ∈ texte.toList
  | _ => ExactDay texte

/-! ## Reading the text -/

section Reading

variable {texte : String} {date : Date}

theorem slashGroups_isSome_of_createFromFormat
    (hread : DateTime.createFromFormat DateTime.dmY texte = some date) :
    (DateTime.slashGroups 1 4 texte).isSome = true := by
  rw [DateTime.createFromFormat_dmY] at hread
  obtain ⟨numbers, hnumbers, -⟩ := Option.map_eq_some_iff.mp hread
  rw [hnumbers]
  rfl

/-- A text that is read has no zero byte, -/
theorem no_zero_of_createFromFormat
    (hread : DateTime.createFromFormat DateTime.dmY texte = some date) :
    '\x00' ∉ texte.toList := by
  intro hzero
  have hchar := DateTime.mem_of_slashGroups (slashGroups_isSome_of_createFromFormat hread)
    hzero
  revert hchar
  decide

/-- and is true in a condition. -/
theorem truthy_of_createFromFormat
    (hread : DateTime.createFromFormat DateTime.dmY texte = some date) :
    (Value.str texte).truthy = true := by
  by_contra hfalse
  have hempty : texte = "" ∨ texte = "0" := by
    simpa [Value.truthy, or_iff_not_imp_left] using hfalse
  rcases hempty with rfl | rfl
  · cases hread
  · cases hread

theorem createFromFormat_of_read
    (hread : DateTime.createFromFormat DateTime.dmY texte = some date) :
    Runtime.createFromFormat DateTime.dmY (.str texte) = .ok (some date) :=
  Runtime.createFromFormat_str_eq_ok_iff.mpr ⟨no_zero_of_createFromFormat hread, hread⟩

/-- On an exact text the day that is read is the day that is denoted, provided
that the column can hold it. -/
theorem ExactDay.denoted (hexact : ExactDay texte)
    (hread : DateTime.createFromFormat DateTime.dmY texte = some date)
    (hcolumn : DateColumn date) : DateTime.denoted texte = some date := by
  rw [DateTime.createFromFormat_dmY] at hread
  obtain ⟨⟨day, month, year⟩, hgroups, rfl⟩ := Option.map_eq_some_iff.mp hread
  rcases hexact day month year hgroups with hday | hrange
  · obtain ⟨existing, hexisting⟩ := Option.isSome_iff_exists.mp hday
    rw [DateTime.denoted, hgroups]
    change DateTime.calendarDay day month year = some (Date.rollover year month day)
    rw [hexisting, DateTime.rollover_calendarDay hexisting]
  · exact absurd hcolumn hrange

/-- A text that is not exact denotes no day, and still a day is read that a column
can hold. -/
theorem exists_read_of_not_exactDay (hnot : ¬ ExactDay texte) :
    DateTime.denoted texte = none ∧
      ∃ date, DateTime.createFromFormat DateTime.dmY texte = some date ∧
        DateColumn date := by
  unfold ExactDay at hnot
  push Not at hnot
  obtain ⟨day, month, year, hgroups, hday, hcolumn⟩ := hnot
  refine ⟨?_, Date.rollover year month day, ?_, hcolumn⟩
  · rw [DateTime.denoted, hgroups]
    exact Option.not_isSome_iff_eq_none.mp hday
  · rw [DateTime.createFromFormat_dmY, hgroups]
    rfl

end Reading

/-! ## Requests that succeed -/

section Success

variable {runtime : Runtime} {base final : Base} {data : Value} {requete : Requete}
  {texte : String}

/-- The dates are in the rows. -/
theorem stored_of_sameRows (hsame : final.SameRows base.toTables) (champ : ChampDate)
    (id : ℕ) : champ.stored final id = champ.stored base id := by
  obtain ⟨hlivre, hauteur, -, hemprunt, hreservations, hutilisateur, -⟩ := hsame
  cases champ <;>
    simp only [stored, column, Cible.row, Table.find, hlivre, hauteur, hemprunt,
      hreservations, hutilisateur]

/-- It suffices to look at the requests that succeed. -/
theorem guarded_of_success {champ : ChampDate}
    (hstores : ∀ runtime base data requete,
      data.field champ.key = some (.str texte) → champ.Route data requete →
        (requete.executer runtime base).1.Success →
          ∃ date, DateTime.denoted texte = some date ∧
            champ.OnlyStores base (requete.executer runtime base).2 (some date)) :
    champ.Guarded texte := by
  intro runtime base data requete hfield hroute
  by_cases hsuccess : (requete.executer runtime base).1.Success
  · obtain ⟨date, hdate, honly⟩ := hstores runtime base data requete hfield hroute hsuccess
    rw [hdate]
    exact ⟨(nomatch ·), honly⟩
  · have hsame := Requete.sameRows_of_not_success runtime base requete hsuccess
    exact ⟨fun _ => ⟨hsuccess, hsame⟩,
      fun id => Or.inl (stored_of_sameRows hsame champ id)⟩

/-- The rows that a request leaves, where those it wrote satisfy `written`. -/
def OnlyWrites {Row : Type} (before after : Table Row) (written : Row → Prop) : Prop :=
  ∀ id, after.find id = before.find id ∨ ∃ row, after.find id = some row ∧ written row

theorem onlyWrites_insert {Row : Type} (table : Table Row) {row : Row}
    {written : Row → Prop} (hrow : written row) :
    OnlyWrites table (table.insert row) written := by
  intro id
  by_cases hid : id = table.next
  · subst hid
    exact Or.inr ⟨row, table.find_insert_next row, hrow⟩
  · exact Or.inl (table.find_insert_of_ne row hid)

theorem onlyWrites_modify {Row : Type} (table : Table Row) {id : ℕ} {rewrite : Row → Row}
    {written : Row → Prop}
    (hrow : ∀ old, table.find id = some old → written (rewrite old)) :
    OnlyWrites table (table.modify id rewrite) written := by
  intro other
  by_cases hid : other = id
  · subst hid
    rw [Table.find_modify_self]
    cases hfind : table.find other with
    | none => exact Or.inl rfl
    | some old => exact Or.inr ⟨rewrite old, rfl, hrow old hfind⟩
  · exact Or.inl (table.find_modify_of_ne _ hid)

/-- What the rows say about one of their columns. -/
theorem OnlyWrites.column {Row Column : Type} {before after : Table Row}
    {written : Row → Prop} (hwrites : OnlyWrites before after written)
    {column : Row → Option Column} {value : Column}
    (hcolumn : ∀ row, written row → column row = some value) (id : ℕ) :
    (after.find id).bind column = (before.find id).bind column ∨
      (after.find id).bind column = some value := by
  rcases hwrites id with hsame | ⟨row, hrow, hwritten⟩
  · exact Or.inl (congrArg (Option.bind · column) hsame)
  · rw [hrow]
    exact Or.inr (hcolumn row hwritten)

/-! ### Loans and reservations -/

theorem emprunt_of_success
    (hroute : requete = .empruntCreate data ∨ ∃ id, requete = .empruntUpdate id data)
    (hsuccess : (requete.executer runtime base).1.Success) :
    ∃ row, EmpruntController.Describes runtime base.toTables data row ∧ row.Fits ∧
      OnlyWrites base.emprunt (requete.executer runtime base).2.emprunt (· = row) := by
  rcases hroute with rfl | ⟨id, rfl⟩
  · obtain ⟨row, hrow, hvalid, hserve⟩ := passed_of_success
      EmpruntController.refuses_create
      (fun _ => EmpruntController.completes_create_iff) hsuccess
    refine ⟨row, hrow, hrow.valid_created_iff.mp hvalid, ?_⟩
    rw [Requete.executer, Requete.handler, hserve]
    exact onlyWrites_insert base.emprunt rfl
  · cases id with
    | ofNat id =>
        obtain ⟨hid, row, hrow, hvalid, hserve⟩ := passed_of_success
          EmpruntController.refuses_update
          (fun _ => EmpruntController.completes_update_iff) hsuccess
        refine ⟨row, hrow, (hrow.valid_modified_iff hid).mp hvalid, ?_⟩
        change OnlyWrites _
          (serve (EmpruntController.update runtime id data) base).2.emprunt _
        rw [hserve]
        exact onlyWrites_modify base.emprunt fun _ _ => rfl
    | negSucc id =>
        exact absurd (completes_of_success EmpruntController.refuses_update hsuccess)
          EmpruntController.not_completes_update_negative

theorem reservations_of_success
    (hroute : requete = .reservationsCreate data ∨
      ∃ id, requete = .reservationsUpdate id data)
    (hsuccess : (requete.executer runtime base).1.Success) :
    ∃ row, ReservationsController.Describes runtime base.toTables data row ∧ row.Fits ∧
      OnlyWrites base.reservations (requete.executer runtime base).2.reservations
        (· = row) := by
  rcases hroute with rfl | ⟨id, rfl⟩
  · obtain ⟨row, hrow, hvalid, hserve⟩ := passed_of_success
      ReservationsController.refuses_create
      (fun _ => ReservationsController.completes_create_iff) hsuccess
    refine ⟨row, hrow, ReservationsController.fits_of_valid_created hvalid, ?_⟩
    rw [Requete.executer, Requete.handler, hserve]
    exact onlyWrites_insert base.reservations rfl
  · obtain ⟨hid, row, hrow, hvalid, hserve⟩ := passed_of_success
      ReservationsController.refuses_update
      (fun _ => ReservationsController.completes_update_iff) hsuccess
    refine ⟨row, hrow, ReservationsController.fits_of_valid_modified hid hvalid, ?_⟩
    rw [Requete.executer, Requete.handler, hserve]
    exact onlyWrites_modify base.reservations fun _ _ => rfl

theorem guarded_empruntDateEmprunt (hexact : ExactDay texte) :
    empruntDateEmprunt.Guarded texte := by
  apply guarded_of_success
  intro runtime base data requete hfield hroute hsuccess
  obtain ⟨row, hrow, hfits, hwrites⟩ := emprunt_of_success hroute hsuccess
  obtain ⟨given, hgiven, -, hread⟩ := hrow.dateEmprunt
  cases hfield.symm.trans hgiven
  refine ⟨row.dateEmprunt, hexact.denoted (Runtime.createFromFormat_str_eq_ok_iff.mp hread).2
    hfits.1, fun id => ?_⟩
  simp only [stored, column, Option.map_eq_bind]
  apply hwrites.column
  rintro written rfl
  rfl

theorem guarded_empruntDateRetour (hexact : ExactDay texte) :
    empruntDateRetour.Guarded texte := by
  apply guarded_of_success
  intro runtime base data requete hfield hroute hsuccess
  obtain ⟨row, hrow, hfits, hwrites⟩ := emprunt_of_success hroute hsuccess
  obtain ⟨date, hdate, given, hgiven, -, hread⟩ := hrow.dateRetour
  cases hfield.symm.trans hgiven
  refine ⟨date, hexact.denoted (Runtime.createFromFormat_str_eq_ok_iff.mp hread).2
    (hfits.2 date hdate), fun id => ?_⟩
  apply hwrites.column
  rintro written rfl
  exact hdate

theorem guarded_reservationsDateResa (hexact : ExactDay texte) :
    reservationsDateResa.Guarded texte := by
  apply guarded_of_success
  intro runtime base data requete hfield hroute hsuccess
  obtain ⟨row, hrow, hfits, hwrites⟩ := reservations_of_success hroute hsuccess
  obtain ⟨given, hgiven, hread⟩ := hrow.dateResa
  cases hfield.symm.trans hgiven
  refine ⟨row.dateResa, hexact.denoted (Runtime.createFromFormat_str_eq_ok_iff.mp hread).2
    hfits, fun id => ?_⟩
  simp only [stored, column, Option.map_eq_bind]
  apply hwrites.column
  rintro written rfl
  rfl

/-! ### Authors -/

theorem parseDate_str_eq_ok_iff {date : Date} :
    AuteurController.parseDate (.str texte) = .ok date ↔
      '\x00' ∉ texte.toList ∧ DateTime.createFromFormat DateTime.dmY texte = some date := by
  rw [← Runtime.createFromFormat_str_eq_ok_iff]
  unfold AuteurController.parseDate
  cases Runtime.createFromFormat DateTime.dmY (.str texte) with
  | error throwable => simp [bind, Except.bind]
  | ok read =>
      cases read with
      | none => simp [bind, Except.bind, AuteurController.dateParameter]
      | some read => simp [bind, Except.bind, AuteurController.dateParameter]

theorem auteur_of_success
    (hroute : requete = .auteurCreate data ∨ ∃ id, requete = .auteurUpdate id data)
    (hsuccess : (requete.executer runtime base).1.Success) :
    ∃ row : Auteur,
      (∀ given, data.field "dateNaiss" = some given →
        AuteurController.parseDate given = .ok row.dateNaiss) ∧
      (∀ given, data.field "dateDeces" = some given →
        ∃ date, row.dateDeces = some date ∧ AuteurController.parseDate given = .ok date) ∧
      row.Fits ∧
      OnlyWrites base.auteur (requete.executer runtime base).2.auteur (· = row) := by
  rcases hroute with rfl | ⟨id, rfl⟩
  · obtain ⟨row, hrow, hvalid, hserve⟩ := passed_of_success
      AuteurController.refuses_create (fun _ => AuteurController.completes_create_iff) hsuccess
    refine ⟨row.store, ?_, ?_, AuteurController.valid_created_iff.mp hvalid, ?_⟩
    · intro given hgiven
      obtain ⟨other, hother, hread⟩ := hrow.dateNaiss
      cases hgiven.symm.trans hother
      exact hread
    · intro given hgiven
      obtain ⟨date, hread, hreceived⟩ := hrow.dateDeces.1.read hgiven
      exact ⟨date, hrow.dateDeces.2.trans hreceived, hread⟩
    · rw [Requete.executer, Requete.handler, hserve]
      exact onlyWrites_insert base.auteur rfl
  · obtain ⟨haccepted, hvalid, hserve⟩ := passed_of_success
      AuteurController.refuses_update (fun _ => AuteurController.completes_update_iff) hsuccess
    obtain ⟨old, hold⟩ := Table.exists_find_of_mem_ids haccepted.auteur
    refine ⟨(AuteurController.onRow data old).store, ?_, ?_,
      (AuteurController.valid_modified_iff hold).mp hvalid, ?_⟩
    · intro given hgiven
      obtain ⟨date, hread, hreceived⟩ := haccepted.dateNaiss.read hgiven
      simpa [Auteur.store, AuteurController.onRow, hreceived] using hread
    · intro given hgiven
      obtain ⟨date, hread, hreceived⟩ := haccepted.dateDeces.read hgiven
      exact ⟨date, by simp [Auteur.store, AuteurController.onRow, hreceived], hread⟩
    · rw [Requete.executer, Requete.handler, hserve]
      apply onlyWrites_modify base.auteur
      intro stored hstored
      rw [hold] at hstored
      cases hstored
      rfl

theorem guarded_auteurDateNaiss (hexact : ExactDay texte) :
    auteurDateNaiss.Guarded texte := by
  apply guarded_of_success
  intro runtime base data requete hfield hroute hsuccess
  obtain ⟨row, hnaiss, -, hfits, hwrites⟩ := auteur_of_success hroute hsuccess
  have hread := (parseDate_str_eq_ok_iff.mp (hnaiss _ hfield)).2
  refine ⟨row.dateNaiss, hexact.denoted hread hfits.2.2.1, fun id => ?_⟩
  simp only [stored, column, Option.map_eq_bind]
  apply hwrites.column
  rintro written rfl
  rfl

theorem guarded_auteurDateDeces (hexact : ExactDay texte) :
    auteurDateDeces.Guarded texte := by
  apply guarded_of_success
  intro runtime base data requete hfield hroute hsuccess
  obtain ⟨row, -, hdeces, hfits, hwrites⟩ := auteur_of_success hroute hsuccess
  obtain ⟨date, hdate, hparse⟩ := hdeces _ hfield
  have hread := (parseDate_str_eq_ok_iff.mp hparse).2
  refine ⟨date, hexact.denoted hread (hfits.2.2.2.1 date hdate), fun id => ?_⟩
  apply hwrites.column
  rintro written rfl
  exact hdate

/-! ### Users -/

/-- A text that the format accepts, or that has a zero byte, stops the request. -/
theorem parseDate_ne_ok {format : List DateTime.Format} {date : Date}
    (hstop : (DateTime.createFromFormat format texte).isSome = true ∨
      '\x00' ∈ texte.toList) :
    AdherentController.parseDate runtime format (.str texte) ≠ .ok date := by
  intro hparse
  unfold AdherentController.parseDate at hparse
  cases hread : Runtime.createFromFormat format (.str texte) with
  | error throwable =>
      rw [hread] at hparse
      cases hparse
  | ok read =>
      rw [hread] at hparse
      obtain ⟨hzero, hformat⟩ := Runtime.createFromFormat_str_eq_ok_iff.mp hread
      have hsome := hstop.resolve_right hzero
      rw [hformat] at hsome
      obtain ⟨other, rfl⟩ := Option.isSome_iff_exists.mp hsome
      cases hparse

theorem adherent_of_success
    (hroute : (∃ salt, requete = .adherentCreate salt data) ∨
      ∃ id, requete = .adherentUpdate id data)
    (hsuccess : (requete.executer runtime base).1.Success) :
    data.Converts "dateAdhesion" (AdherentController.parseDate runtime DateTime.dmY) ∧
      data.Converts "dateNaiss" (AdherentController.parseDate runtime DateTime.dmy) := by
  rcases hroute with ⟨salt, rfl⟩ | ⟨id, rfl⟩
  · obtain ⟨haccepted, -⟩ := passed_of_success AdherentController.refuses_create
      (fun _ => AdherentController.completes_create_iff) hsuccess
    exact ⟨haccepted.dateAdhesion, haccepted.dateNaiss⟩
  · obtain ⟨haccepted, -⟩ := passed_of_success AdherentController.refuses_update
      (fun _ => AdherentController.completes_update_iff) hsuccess
    exact ⟨haccepted.dateAdhesion, haccepted.dateNaiss⟩

theorem isSome_createFromFormat_dmY :
    (DateTime.createFromFormat DateTime.dmY texte).isSome =
      (DateTime.slashGroups 1 4 texte).isSome := by
  rw [DateTime.createFromFormat_dmY, Option.isSome_map]

theorem isSome_createFromFormat_dmy :
    (DateTime.createFromFormat DateTime.dmy texte).isSome =
      (DateTime.slashGroups 2 2 texte).isSome := by
  rw [DateTime.createFromFormat_dmy, Option.isSome_map]

theorem guarded_adherentDateAdhesion (hexact : adherentDateAdhesion.Exact texte) :
    adherentDateAdhesion.Guarded texte := by
  apply guarded_of_success
  intro runtime base data requete hfield hroute hsuccess
  obtain ⟨date, hdate⟩ := (adherent_of_success hroute hsuccess).1 _ hfield
  rw [Exact, ← isSome_createFromFormat_dmY] at hexact
  exact absurd hdate (parseDate_ne_ok hexact)

theorem guarded_adherentDateNaiss (hexact : adherentDateNaiss.Exact texte) :
    adherentDateNaiss.Guarded texte := by
  apply guarded_of_success
  intro runtime base data requete hfield hroute hsuccess
  obtain ⟨date, hdate⟩ := (adherent_of_success hroute hsuccess).2 _ hfield
  rw [Exact, ← isSome_createFromFormat_dmy] at hexact
  exact absurd hdate (parseDate_ne_ok hexact)

end Success

/-! ## Requests that store another date -/

section Samples

variable {texte : String} {date : Date}

theorem not_guarded_of_success {champ : ChampDate} {runtime : Runtime} {base : Base}
    {data : Value} {requete : Requete} (hdenoted : DateTime.denoted texte = none)
    (hfield : data.field champ.key = some (.str texte))
    (hroute : champ.Route data requete)
    (hsuccess : (requete.executer runtime base).1.Success) : ¬ champ.Guarded texte :=
  fun hguarded =>
    ((hguarded runtime base data requete hfield hroute).1 hdenoted).1 hsuccess

theorem exactDay_of_guarded {champ : ChampDate} (data : Value) (requete : Requete)
    (hfield : data.field champ.key = some (.str texte))
    (hroute : champ.Route data requete)
    (hsuccess : ∀ date, DateTime.createFromFormat DateTime.dmY texte = some date →
      DateColumn date → (requete.executer .dev Base.sample).1.Success)
    (hguarded : champ.Guarded texte) : ExactDay texte := by
  by_contra hnot
  obtain ⟨hdenoted, date, hread, hcolumn⟩ := exists_read_of_not_exactDay hnot
  exact not_guarded_of_success hdenoted hfield hroute (hsuccess date hread hcolumn) hguarded

/-- A loan of the book of the sample library, with one text for both dates. -/
def loan (texte : String) : Value :=
  .object [("dateEmprunt", .str texte), ("dateRetour", .str texte),
    ("emprunteurId", .int 1), ("livreId", .int 1)]

theorem success_loan (hread : DateTime.createFromFormat DateTime.dmY texte = some date)
    (hcolumn : DateColumn date) :
    ((Requete.empruntCreate (loan texte)).executer .dev Base.sample).1.Success := by
  have hrow : EmpruntController.Describes .dev Base.sample.toTables (loan texte)
      ⟨date, some date, 1, 1⟩ :=
    { dateEmprunt := ⟨.str texte, rfl, truthy_of_createFromFormat hread,
        createFromFormat_of_read hread⟩
      dateRetour := ⟨date, rfl, .str texte, rfl, truthy_of_createFromFormat hread,
        createFromFormat_of_read hread⟩
      emprunteur := ⟨.int 1, rfl, rfl, rfl⟩
      livre := ⟨.int 1, rfl, rfl, rfl⟩
      emprunteur_mem := (by decide : 1 ∈ Base.sample.utilisateur.ids)
      livre_mem := (by decide : 1 ∈ Base.sample.livre.ids) }
  have hfits : Emprunt.Fits ⟨date, some date, 1, 1⟩ := by
    refine ⟨hcolumn, fun retour hretour => ?_⟩
    cases hretour
    exact hcolumn
  rw [Requete.executer, Requete.handler,
    hrow.serve_create (hrow.valid_created_iff.mpr hfits)]
  exact Outcome.success_of_status (by simp)

/-- The reservation of the sample library on another day. -/
def booking (texte : String) : Value :=
  .object [("dateResa", .str texte), ("reservateurId", .int 1), ("livreId", .int 1)]

theorem success_booking (hread : DateTime.createFromFormat DateTime.dmY texte = some date)
    (hcolumn : DateColumn date) :
    ((Requete.reservationsUpdate 1 (booking texte)).executer .dev
      Base.sample).1.Success := by
  have hrow : ReservationsController.Describes .dev Base.sample.toTables (booking texte)
      ⟨date, 1, 1⟩ :=
    { dateResa := ⟨.str texte, rfl, createFromFormat_of_read hread⟩
      reservateur := ⟨.int 1, rfl, rfl⟩
      livre := ⟨.int 1, rfl, rfl⟩
      reservateur_mem := (by decide : 1 ∈ Base.sample.utilisateur.ids)
      livre_mem := (by decide : 1 ∈ Base.sample.livre.ids) }
  have hfree : ReservationsController.Free Base.sample (some 1) ⟨date, 1, 1⟩ := by
    intro stored hstored hother
    rw [List.mem_singleton.mp hstored] at hother
    exact absurd rfl hother
  rw [Requete.executer, Requete.handler,
    hrow.serve_update (by decide) (hrow.valid_modified hcolumn hfree)]
  exact Outcome.success_of_status (by simp)

/-- The dates of the author of the sample library. -/
def life (texte : String) : Value :=
  .object [("dateNaiss", .str texte), ("dateDeces", .str texte)]

theorem success_life (hread : DateTime.createFromFormat DateTime.dmY texte = some date)
    (hcolumn : DateColumn date) :
    ((Requete.auteurUpdate 1 (life texte)).executer .dev Base.sample).1.Success := by
  have hparse : AuteurController.parseDate (.str texte) = .ok date :=
    parseDate_str_eq_ok_iff.mpr ⟨no_zero_of_createFromFormat hread, hread⟩
  have haccepted : AuteurController.UpdateAccepted .dev Base.sample.toTables 1
      (life texte) :=
    { auteur := by decide
      livres := fun _ hfield => by cases hfield
      nom := fun _ hfield => by cases hfield
      prenom := fun _ hfield => by cases hfield
      dateNaiss := by
        rintro given hgiven
        cases hgiven
        exact ⟨date, hparse⟩
      dateDeces := by
        rintro given hgiven
        cases hgiven
        exact ⟨date, hparse⟩
      nationalite := fun _ hfield => by cases hfield
      photo := fun _ hfield => by cases hfield
      description := fun _ hfield => by cases hfield }
  have hreceived : ∀ key, (life texte).field key = some (.str texte) →
      received ((life texte).field key) AuteurController.parseDate = some date := by
    intro key hkey
    simp [received, hkey, hparse, Except.toOption]
  obtain ⟨old, hold⟩ := Table.exists_find_of_mem_ids haccepted.auteur
  have hfits : (AuteurController.onRow (life texte) old).Fits := by
    obtain ⟨hnom, hprenom, -, -, hrest⟩ :=
      Base.sample.valid.auteur_fits (1, old) ((Table.find_eq_some_iff _ _ _).mp hold)
    refine ⟨hnom, hprenom, ?_, ?_, hrest⟩
    · rw [AuteurController.onRow, hreceived "dateNaiss" rfl]
      exact hcolumn
    · rw [AuteurController.onRow, hreceived "dateDeces" rfl]
      rintro deces hdeces
      cases hdeces
      exact hcolumn
  rw [Requete.executer, Requete.handler,
    haccepted.serve_update ((AuteurController.valid_modified_iff hold).mpr hfits.store)]
  exact Outcome.success_of_status (by simp)

/-- What a format rejects is taken for the current day. -/
theorem parseDate_eq_today {runtime : Runtime} {format : List DateTime.Format}
    (hread : DateTime.createFromFormat format texte = none)
    (hzero : '\x00' ∉ texte.toList) :
    AdherentController.parseDate runtime format (.str texte) = .ok runtime.today := by
  unfold AdherentController.parseDate
  rw [Runtime.createFromFormat_str_eq_ok_iff.mpr ⟨hzero, hread⟩]
  rfl

section Membership

variable {runtime : Runtime} {data : Value}
variable (hother : ∀ key, key ≠ "dateAdhesion" → key ≠ "dateNaiss" → data.field key = none)

include hother

theorem converts_of_other {Out : Type} {key : String} (read : Value → Except Throwable Out)
    (hadhesion : key ≠ "dateAdhesion") (hnaiss : key ≠ "dateNaiss") :
    data.Converts key read := by
  intro given hgiven
  rw [hother key hadhesion hnaiss] at hgiven
  cases hgiven

/-- A body with nothing but dates leaves the other columns. -/
theorem rewritten_of_dates (row : Utilisateur) :
    AdherentController.rewritten runtime data row =
      { row with
        dateAdhesion := (received (data.field "dateAdhesion")
          (AdherentController.parseDate runtime DateTime.dmY)).getD row.dateAdhesion
        dateNaiss := (received (data.field "dateNaiss")
          (AdherentController.parseDate runtime DateTime.dmy)).getD row.dateNaiss } := by
  have hnone : ∀ {Out : Type} (key : String) (read : Value → Except Throwable Out),
      key ≠ "dateAdhesion" → key ≠ "dateNaiss" → received (data.field key) read = none := by
    intro Out key read hadhesion hnaiss
    rw [hother key hadhesion hnaiss]
    rfl
  simp only [AdherentController.rewritten, AdherentController.onRow,
    hnone "email" _ (by decide) (by decide), hnone "roles" _ (by decide) (by decide),
    hnone "password" _ (by decide) (by decide), hnone "nom" _ (by decide) (by decide),
    hnone "prenom" _ (by decide) (by decide),
    hnone "adressePostale" _ (by decide) (by decide),
    hnone "numTel" _ (by decide) (by decide), hnone "photo" _ (by decide) (by decide),
    Option.getD_none, Option.map_none]

variable (hadhesion : ∀ given, data.field "dateAdhesion" = some given →
  AdherentController.parseDate runtime DateTime.dmY given = .ok runtime.today)
variable (hnaiss : ∀ given, data.field "dateNaiss" = some given →
  AdherentController.parseDate runtime DateTime.dmy given = .ok runtime.today)

include hadhesion hnaiss

theorem accepted_of_dates :
    AdherentController.UpdateAccepted runtime Base.sample.toTables 1 data where
  utilisateur := by decide
  dateAdhesion := fun given hgiven => ⟨_, hadhesion given hgiven⟩
  nom := converts_of_other hother _ (by decide) (by decide)
  prenom := converts_of_other hother _ (by decide) (by decide)
  dateNaiss := fun given hgiven => ⟨_, hnaiss given hgiven⟩
  email := converts_of_other hother _ (by decide) (by decide)
  adressePostale := converts_of_other hother _ (by decide) (by decide)
  numTel := converts_of_other hother _ (by decide) (by decide)
  photo := converts_of_other hother _ (by decide) (by decide)
  roles := converts_of_other hother _ (by decide) (by decide)
  password := converts_of_other hother _ (by decide) (by decide)

theorem valid_modified_of_dates (htoday : DateColumn runtime.today) :
    (AdherentController.modified runtime Base.sample 1 data).Valid := by
  have hid : 1 ∈ Base.sample.utilisateur.ids := by decide
  obtain ⟨old, hold⟩ := Table.exists_find_of_mem_ids hid
  have hrow : (1, old) ∈ Base.sample.utilisateur.rows := (Table.find_eq_some_iff _ _ _).mp hold
  obtain ⟨hemail, hpassword, hadhesionFits, hnom, hprenom, hnaissFits, hrest⟩ :=
    Base.sample.valid.utilisateur_fits (1, old) hrow
  have hfits : (AdherentController.rewritten runtime data old).Fits := by
    rw [rewritten_of_dates hother]
    refine ⟨hemail, hpassword, ?_, hnom, hprenom, ?_, hrest⟩
    · refine (good_getD_iff hadhesionFits fun given hgiven =>
        ⟨_, hadhesion given hgiven⟩).mpr ?_
      exact fun given hgiven => ⟨_, hadhesion given hgiven, htoday⟩
    · refine (good_getD_iff hnaissFits fun given hgiven => ⟨_, hnaiss given hgiven⟩).mpr ?_
      exact fun given hgiven => ⟨_, hnaiss given hgiven, htoday⟩
  rw [AdherentController.valid_modified_iff hold, hfits.store_eq]
  refine ⟨hfits, ?_⟩
  rw [rewritten_of_dates hother]
  intro stored hstored hne heq
  exact hne (congrArg Prod.fst
    (List.inj_on_of_nodup_map Base.sample.valid.email_unique hstored hrow heq))

/-- An update of the user with nothing but dates that are taken for today. -/
theorem executer_membership (htoday : DateColumn runtime.today) :
    ((Requete.adherentUpdate 1 data).executer runtime Base.sample).1.Success ∧
      ((Requete.adherentUpdate 1 data).executer runtime Base.sample).2.utilisateur =
        Base.sample.utilisateur.modify 1
          (Utilisateur.store ∘ AdherentController.rewritten runtime data) := by
  have haccepted := accepted_of_dates hother hadhesion hnaiss
  have hvalid := valid_modified_of_dates hother hadhesion hnaiss htoday
  rw [Requete.executer, Requete.handler, haccepted.serve_update hvalid]
  exact ⟨Outcome.success_of_status (by simp), rfl⟩

end Membership

/-- A body with one date. -/
def membership (key texte : String) : Value :=
  .object [(key, .str texte)]

theorem field_membership {key texte other : String} (hother : other ≠ key) :
    (membership key texte).field other = none := by
  have hkey : (Key.str other == Key.str key) = false := by simpa using hother
  simp [membership, Value.field, Value.object, List.lookup_cons, hkey]

theorem not_guarded_adherentDateAdhesion (hnot : ¬ adherentDateAdhesion.Exact texte) :
    ¬ adherentDateAdhesion.Guarded texte := by
  obtain ⟨hgroups, hzero⟩ := not_or.mp hnot
  have hnone := Option.not_isSome_iff_eq_none.mp hgroups
  have hread : DateTime.createFromFormat DateTime.dmY texte = none := by
    rw [DateTime.createFromFormat_dmY, hnone]
    rfl
  have hdenoted : DateTime.denoted texte = none := by
    rw [DateTime.denoted, hnone]
    rfl
  have hsuccess := (@executer_membership .dev (membership "dateAdhesion" texte)
    (fun key hkey _ => field_membership hkey) (fun given hgiven => ?_)
    (fun given hgiven => ?_) (by decide)).1
  · exact not_guarded_of_success hdenoted rfl (Or.inr ⟨1, rfl⟩) hsuccess
  · cases hgiven
    exact parseDate_eq_today hread hzero
  · cases hgiven

theorem not_guarded_adherentDateNaiss (hnot : ¬ adherentDateNaiss.Exact texte) :
    ¬ adherentDateNaiss.Guarded texte := by
  obtain ⟨hgroups, hzero⟩ := not_or.mp hnot
  have hread : DateTime.createFromFormat DateTime.dmy texte = none := by
    rw [DateTime.createFromFormat_dmy, Option.not_isSome_iff_eq_none.mp hgroups]
    rfl
  -- a current day that is neither stored already nor written in the text
  obtain ⟨today, hcolumn, hnew, hother⟩ : ∃ today, DateColumn today ∧
      today ≠ Date.sample ∧ DateTime.denoted texte ≠ some today := by
    by_cases hmarch : DateTime.denoted texte = some march
    · refine ⟨december, by decide, by decide, ?_⟩
      rw [hmarch]
      decide
    · exact ⟨march, by decide, by decide, hmarch⟩
  intro hguarded
  have hparse := @parseDate_eq_today texte { Runtime.dev with today := today }
    DateTime.dmy hread hzero
  have hfinal := (@executer_membership { Runtime.dev with today := today }
    (membership "dateNaiss" texte) (fun key _ hkey => field_membership hkey)
    (fun given hgiven => ?_) (fun given hgiven => ?_) hcolumn).2
  · have honly := (hguarded { Runtime.dev with today := today } Base.sample
      (membership "dateNaiss" texte) (.adherentUpdate 1 (membership "dateNaiss" texte)) rfl
      (Or.inr ⟨1, rfl⟩)).2 1
    have hnow : adherentDateNaiss.stored ((Requete.adherentUpdate 1
        (membership "dateNaiss" texte)).executer { Runtime.dev with today := today }
        Base.sample).2 1 = some today := by
      have hreceived : received ((membership "dateNaiss" texte).field "dateNaiss")
          (AdherentController.parseDate { Runtime.dev with today := today } DateTime.dmy) =
          some today := congrArg Except.toOption hparse
      simp only [stored, column, Cible.row, hfinal, Table.find_modify_self,
        Option.map_map, Utilisateur.store, AdherentController.rewritten,
        AdherentController.onRow, Function.comp_def, hreceived, Option.getD_some]
      rfl
    rw [hnow] at honly
    rcases honly with hold | hdenoted
    · exact hnew (Option.some.inj hold)
    · exact hother hdenoted.symm
  · cases hgiven
  · cases hgiven
    exact hparse

end Samples

/-- A key is guarded on exactly the texts that are exact for it. -/
theorem guarded_iff_exact (champ : ChampDate) (hchamp : champ ≠ livreDateSortie)
    (texte : String) : champ.Guarded texte ↔ champ.Exact texte := by
  cases champ with
  | livreDateSortie => exact absurd rfl hchamp
  | auteurDateNaiss =>
      exact ⟨exactDay_of_guarded (life texte) (.auteurUpdate 1 (life texte)) rfl
        (Or.inr ⟨1, rfl⟩) fun _ => success_life, guarded_auteurDateNaiss⟩
  | auteurDateDeces =>
      exact ⟨exactDay_of_guarded (life texte) (.auteurUpdate 1 (life texte)) rfl
        (Or.inr ⟨1, rfl⟩) fun _ => success_life, guarded_auteurDateDeces⟩
  | empruntDateEmprunt =>
      exact ⟨exactDay_of_guarded (loan texte) (.empruntCreate (loan texte)) rfl
        (Or.inl rfl) fun _ => success_loan, guarded_empruntDateEmprunt⟩
  | empruntDateRetour =>
      exact ⟨exactDay_of_guarded (loan texte) (.empruntCreate (loan texte)) rfl
        (Or.inl rfl) fun _ => success_loan, guarded_empruntDateRetour⟩
  | reservationsDateResa =>
      exact ⟨exactDay_of_guarded (booking texte) (.reservationsUpdate 1 (booking texte)) rfl
        (Or.inr ⟨1, rfl⟩) fun _ => success_booking, guarded_reservationsDateResa⟩
  | adherentDateAdhesion =>
      exact ⟨fun hguarded => by_contra fun hnot =>
        not_guarded_adherentDateAdhesion hnot hguarded, guarded_adherentDateAdhesion⟩
  | adherentDateNaiss =>
      exact ⟨fun hguarded => by_contra fun hnot =>
        not_guarded_adherentDateNaiss hnot hguarded, guarded_adherentDateNaiss⟩

theorem guarded_sample : empruntDateEmprunt.Guarded "29/02/2020" :=
  (guarded_iff_exact empruntDateEmprunt (nomatch ·) "29/02/2020").mpr (by
    intro day month year hgroups
    have hnumbers : DateTime.slashGroups 1 4 "29/02/2020" = some (29, 2, 2020) := by
      decide +kernel
    rw [hnumbers] at hgroups
    cases hgroups
    exact Or.inl (by decide))

/-- A loan of 31 February 2020 is accepted and stored with 2 March. -/
theorem guarded_fails :
    DateTime.denoted "31/02/2020" = none ∧
      ((Requete.empruntCreate (loan "31/02/2020")).executer .dev
        Base.sample).1.Success ∧
      empruntDateEmprunt.stored ((Requete.empruntCreate (loan "31/02/2020")).executer .dev
        Base.sample).2 2 = some ⟨2020, 3, 2, by decide, by decide, by decide, by decide⟩ ∧
      ¬ empruntDateEmprunt.Guarded "31/02/2020" := by
  have hdenoted : DateTime.denoted "31/02/2020" = none := by decide +kernel
  have hsuccess : ((Requete.empruntCreate (loan "31/02/2020")).executer .dev
      Base.sample).1.Success := by decide +kernel
  refine ⟨hdenoted, hsuccess, by decide +kernel, ?_⟩
  exact not_guarded_of_success hdenoted rfl (Or.inl rfl) hsuccess

end ChampDate

end Bibliotheque
