import Bibliotheque.Api.AdherentRequests
import Bibliotheque.Api.AuteurRequests
import Bibliotheque.Api.CirculationRequests
import Bibliotheque.Api.LivreUpdate
import Bibliotheque.Api.Router

/-!
# Requests with valid bodies

What "valid data" means for the create and update routes that take a date, and
what their handlers do with such a body: which row they store, and that the
flush accepts it.
-/

namespace Bibliotheque

open Program Bibliotheque.Action

/-! ## Valid bodies -/

/-- A key that must be there. -/
def Value.Required (data : Value) (key : String) (accept : Value → Prop) : Prop :=
  ∃ value, data.field key = some value ∧ accept value

/-- A key that may be there. -/
def Value.Optional (data : Value) (key : String) (accept : Value → Prop) : Prop :=
  ∀ value, data.field key = some value → accept value

/-- A value that a string parameter and a `VARCHAR(size)` column take. -/
def Value.IsText (size : ℕ) (value : Value) : Prop :=
  ∃ text, value.toString = .ok text ∧ Varchar size text

/-- A date written `dd/mm/yyyy`. -/
def Value.IsDate (value : Value) : Prop :=
  ∃ date : Date, date.FourDigitYear ∧ value = .str date.write

/-- The id of one of the given rows. -/
def Value.IsId (runtime : Runtime) (ids : List ℕ) (value : Value) : Prop :=
  ∃ id ∈ ids, runtime.rowId value = .ok (some id)

/-- A list of such ids. -/
def Value.IsIds (runtime : Runtime) (ids : List ℕ) (value : Value) : Prop :=
  ∃ items, value.elements = some items ∧ ∀ item ∈ items, item.IsId runtime ids

/-- Valid for a create handler that tests its keys with `!`. -/
def Value.IsTrue (accept : Value → Prop) (value : Value) : Prop :=
  value.truthy = true ∧ accept value

structure LivreController.CreateValid (runtime : Runtime) (base : Base)
    (data : Value) : Prop where
  titre : data.Required "titre" (Value.IsTrue (Value.IsText 255))
  dateSortie : data.Required "dateSortie" Value.IsDate
  langue : data.Required "langue" (Value.IsTrue (Value.IsText 255))
  photoCouverture : data.Optional "photoCouverture" (Value.IsText 255)
  categorieId : data.Required "categorieId"
    (Value.IsTrue (Value.IsId runtime base.categorie.ids))
  auteurIds : data.Required "auteurIds"
    (Value.IsTrue (Value.IsIds runtime base.auteur.ids))

structure LivreController.UpdateValid (runtime : Runtime) (base : Base) (id : ℕ)
    (data : Value) : Prop where
  livre : id ∈ base.livre.ids
  titre : data.Optional "titre" (Value.IsText 255)
  dateSortie : data.Optional "dateSortie" Value.IsDate
  langue : data.Optional "langue" (Value.IsText 255)
  photoCouverture : data.Optional "photoCouverture" (Value.IsText 255)
  categorieId : data.Optional "categorieId" (Value.IsId runtime base.categorie.ids)
  auteurIds : data.Optional "auteurIds" (Value.IsIds runtime base.auteur.ids)

structure AuteurController.CreateValid (runtime : Runtime) (base : Base)
    (data : Value) : Prop where
  nom : data.Required "nom" (Value.IsText 255)
  prenom : data.Required "prenom" (Value.IsText 255)
  dateNaiss : data.Required "dateNaiss" Value.IsDate
  dateDeces : data.Optional "dateDeces" Value.IsDate
  nationalite : data.Required "nationalite" (Value.IsText 255)
  photo : data.Optional "photo" (Value.IsText 255)
  description : data.Required "description" (Value.IsText 255)
  livres : data.Optional "livres" (Value.IsIds runtime base.livre.ids)

structure AuteurController.UpdateValid (runtime : Runtime) (base : Base) (id : ℕ)
    (data : Value) : Prop where
  auteur : id ∈ base.auteur.ids
  nom : data.Optional "nom" (Value.IsText 255)
  prenom : data.Optional "prenom" (Value.IsText 255)
  dateNaiss : data.Optional "dateNaiss" Value.IsDate
  dateDeces : data.Optional "dateDeces" Value.IsDate
  nationalite : data.Optional "nationalite" (Value.IsText 255)
  photo : data.Optional "photo" (Value.IsText 255)
  description : data.Optional "description" (Value.IsText 255)
  livres : data.Optional "livres" (Value.IsIds runtime base.livre.ids)

structure EmpruntController.Valid (runtime : Runtime) (base : Base)
    (data : Value) : Prop where
  dateEmprunt : data.Required "dateEmprunt" Value.IsDate
  dateRetour : data.Required "dateRetour" Value.IsDate
  emprunteurId : data.Required "emprunteurId"
    (Value.IsTrue (Value.IsId runtime base.utilisateur.ids))
  livreId : data.Required "livreId" (Value.IsTrue (Value.IsId runtime base.livre.ids))

/-- `free` tells the rows that must not hold the same book or the same user:
both columns have a unique index. -/
structure ReservationsController.Valid (runtime : Runtime) (base : Base)
    (free : ℕ × Reservations → Prop) (data : Value) : Prop where
  dateResa : data.Required "dateResa" Value.IsDate
  ids : ∃ reservateurId livreId reservateur livre,
    data.field "reservateurId" = some reservateurId ∧
      data.field "livreId" = some livreId ∧
      runtime.rowId reservateurId = .ok (some reservateur) ∧
      reservateur ∈ base.utilisateur.ids ∧
      runtime.rowId livreId = .ok (some livre) ∧ livre ∈ base.livre.ids ∧
      ∀ row ∈ base.reservations.rows, free row →
        row.2.livre ≠ livre ∧ row.2.reservateur ≠ reservateur

/-- The keys of a user, for an update of the row `id` or, without `id`, for a
create: `presence` is `Required` or `Optional`. -/
structure AdherentController.Valid (runtime : Runtime) (base : Base)
    (presence : String → (Value → Prop) → Prop) (id : Option ℕ) (data : Value) :
    Prop where
  dateAdhesion : presence "dateAdhesion" Value.IsDate
  nom : presence "nom" (Value.IsText 255)
  prenom : presence "prenom" (Value.IsText 255)
  dateNaiss : presence "dateNaiss" Value.IsDate
  email : presence "email" fun value => ∃ text, value.toString = .ok text ∧
    Varchar 180 text ∧ ∀ row ∈ base.utilisateur.rows, some row.1 ≠ id →
      row.2.email ≠ text
  adressePostale : presence "adressePostale" (Value.IsText 255)
  numTel : presence "numTel" fun value => ∃ number, runtime.toInt value = .ok number ∧
    -2 ^ 31 ≤ number ∧ number < 2 ^ 31
  photo : data.Optional "photo" (Value.IsText 255)
  roles : data.Optional "roles" fun value => ∃ entries, value.toArray = .ok entries
  password : presence "password" (Value.IsText 255)

/-- The key holds the given date. -/
def Value.Dated (data : Value) (key : String) (date : Date) : Prop :=
  data.field key = some (.str date.write) ∧ date.FourDigitYear

theorem Value.Required.dated {data : Value} {key : String}
    (hrequired : data.Required key Value.IsDate) : ∃ date, data.Dated key date := by
  obtain ⟨-, hfield, date, hyear, rfl⟩ := hrequired
  exact ⟨date, hfield, hyear⟩

/-- A key holds one date only. -/
theorem Value.Dated.unique {data : Value} {key : String} {left right : Date}
    (hleft : data.Dated key left) (hright : data.Dated key right) : left = right := by
  have hwrite : left.write = right.write := by
    simpa using hleft.1.symm.trans hright.1
  have hread := DateTime.createFromFormat_dmY_write left hleft.2
  rw [hwrite, DateTime.createFromFormat_dmY_write right hright.2] at hread
  exact (Option.some.inj hread).symm

theorem Date.FourDigitYear.dateColumn {date : Date} (hyear : date.FourDigitYear) :
    DateColumn date := by
  obtain ⟨hlow, hhigh⟩ := hyear
  exact ⟨by omega, hhigh⟩

/-! ## Optional keys -/

section Optional

variable {Out : Type} {data : Value} {key : String} {accept : Value → Prop}
variable {read : Value → Except Throwable Out} {good : Out → Prop}

theorem Value.optional_of_field {given : Value} (hfield : data.field key = some given)
    (haccept : accept given) : data.Optional key accept := by
  intro other hother
  cases hfield.symm.trans hother
  exact haccept

theorem Value.optional_iff_of_field {given : Value}
    (hfield : data.field key = some given) : data.Optional key accept ↔ accept given :=
  ⟨fun hkey => hkey given hfield, Value.optional_of_field hfield⟩

theorem Value.optional_of_none (hfield : data.field key = none) :
    data.Optional key accept := by
  intro other hother
  rw [hfield] at hother
  cases hother

/-- A column that keeps its good value without the key. -/
theorem good_getD_iff {old : Out} (hold : good old) (hread : data.Converts key read) :
    good ((received (data.field key) read).getD old) ↔
      data.Optional key fun given => ∃ out, read given = .ok out ∧ good out := by
  cases hfield : data.field key with
  | none => exact iff_of_true hold (Value.optional_of_none hfield)
  | some given =>
      obtain ⟨out, hout⟩ := hread given hfield
      rw [Value.optional_iff_of_field hfield, hout]
      simp [received, hout, Except.toOption]

/-- A nullable column that keeps its value without the key. -/
theorem forall_getD_iff {old : Option Out} (hold : ∀ out ∈ old, good out)
    (hread : data.Converts key read) :
    (∀ out ∈ ((received (data.field key) read).map some).getD old, good out) ↔
      data.Optional key fun given => ∃ out, read given = .ok out ∧ good out := by
  cases hfield : data.field key with
  | none => exact iff_of_true hold (Value.optional_of_none hfield)
  | some given =>
      obtain ⟨out, hout⟩ := hread given hfield
      rw [Value.optional_iff_of_field hfield, hout]
      simp [received, hout, Except.toOption]

/-- The conversion of every accepted value succeeds with a good result. -/
def Reads (accept : Value → Prop) (read : Value → Except Throwable Out)
    (good : Out → Prop) : Prop :=
  ∀ given, accept given → ∃ out, read given = .ok out ∧ good out

theorem reads_text (size : ℕ) :
    Reads (Value.IsText size) Value.toString (Varchar size) :=
  fun _ haccept => haccept

theorem Value.Optional.converts (hkey : data.Optional key accept)
    (hread : Reads accept read good) : data.Converts key read := by
  intro given hfield
  obtain ⟨out, hout, -⟩ := hread given (hkey given hfield)
  exact ⟨out, hout⟩

theorem Value.Optional.good_received (hkey : data.Optional key accept)
    (hread : Reads accept read good) :
    ∀ out ∈ received (data.field key) read, good out := by
  intro out hout
  cases hfield : data.field key with
  | none => simp [received, hfield] at hout
  | some given =>
      obtain ⟨expected, hexpected, hgood⟩ := hread given (hkey given hfield)
      have heq : expected = out := by
        simpa [received, hfield, hexpected, Except.toOption] using hout
      exact heq ▸ hgood

theorem Value.Optional.good_getD (hkey : data.Optional key accept)
    (hread : Reads accept read good) {old : Out} (hold : good old) :
    good ((received (data.field key) read).getD old) :=
  (good_getD_iff hold (hkey.converts hread)).mpr
    fun given hfield => hread given (hkey given hfield)

theorem Value.Optional.forall_getD (hkey : data.Optional key accept)
    (hread : Reads accept read good) {old : Option Out} (hold : ∀ out ∈ old, good out) :
    ∀ out ∈ ((received (data.field key) read).map some).getD old, good out :=
  (forall_getD_iff hold (hkey.converts hread)).mpr
    fun given hfield => hread given (hkey given hfield)

/-- A parameter declared `?string`. -/
theorem Value.Optional.toNullableString_eq {size : ℕ}
    (hkey : data.Optional key (Value.IsText size)) :
    Value.toNullableString (data.field key) =
      .ok (received (data.field key) Value.toString) := by
  cases hfield : data.field key with
  | none => rfl
  | some given =>
      obtain ⟨text, htext⟩ := hkey.converts (reads_text size) given hfield
      simp [Value.toNullableString, received, htext, Except.toOption, Except.map]

end Optional

/-! ## Handlers that only link -/

/-- The session differs from a fresh one by links that are all `allowed`. -/
structure Session.OnlyLinks (base : Base) (allowed : Ref → Ref → Prop)
    (session : Session) : Prop where
  eq : session = { Session.start base with liens := session.liens }
  nodup : ∀ livre, (session.liens.auteurs livre).Nodup
  allowed : ∀ livre auteur, auteur ∈ session.liens.auteurs livre →
    auteur ∈ base.liens.auteurs livre ∨ allowed livre auteur

namespace Session.OnlyLinks

variable {base : Base} {allowed : Ref → Ref → Prop} {session : Session}

theorem start (base : Base) (allowed : Ref → Ref → Prop) :
    OnlyLinks base allowed (Session.start base) where
  eq := rfl
  nodup := base.valid.nodup_liens_auteurs
  allowed := fun _ _ hmember => Or.inl hmember

theorem managed_eq (hsession : OnlyLinks base allowed session) :
    session.managed = base.toTables := by
  rw [hsession.eq]
  rfl

/-- A loop over the ids of existing rows that links each of them. -/
theorem wp_foreach {runtime : Runtime} {Row : Type} {table : Tables → Table Row}
    {values : Value} {body : Value → Action Unit} {stop : Outcome → Session → Prop}
    (hids : values.IsIds runtime (table base.toTables).ids)
    (hbody : ∀ value id session, id ∈ (table base.toTables).ids →
      runtime.rowId value = .ok (some id) → OnlyLinks base allowed session →
        wp (body value) (fun _ => OnlyLinks base allowed) stop session) :
    wp (foreach runtime values body) (fun _ => OnlyLinks base allowed) stop
      (Session.start base) := by
  obtain ⟨items, hitems, hall⟩ := hids
  rw [foreach, hitems]
  refine wp_forM ?_ _ (start base allowed)
  intro value hvalue session hsession
  obtain ⟨id, hid, hrow⟩ := hall value hvalue
  exact hbody value id session hid hrow hsession

/-- The flush of a create handler that only linked: the links it inserts are
allowed ones, each once. -/
theorem exists_commit (hsession : OnlyLinks base allowed session)
    {entity : Entity} {inserted : Tables} {fresh : ℕ}
    (hinsert : entity.insert base.toTables = some (inserted, fresh))
    (hinjective : ∀ livre auteur livre' auteur', allowed livre auteur →
      allowed livre' auteur' → livre.number fresh = livre'.number fresh →
        auteur.number fresh = auteur'.number fresh →
          livre = livre' ∧ auteur = auteur') :
    ∃ links : List (ℕ × ℕ), links.Nodup ∧
      (∀ link ∈ links, ∃ livre auteur, allowed livre auteur ∧
        link = (livre.number fresh, auteur.number fresh)) ∧
      commit { session with persisted := some entity } =
        .ok ({ inserted with livreAuteur := inserted.livreAuteur ++ links },
          fresh) := by
  have hadds : ∀ livre auteur,
      Adds { Session.start base with
        liens := session.liens, persisted := some entity } livre auteur →
      allowed livre auteur := by
    intro livre auteur hadds
    rcases hsession.allowed livre auteur hadds.1 with hold | hallowed
    · exact absurd hold hadds.2
    · exact hallowed
  refine ⟨newLinks { Session.start base with
      liens := session.liens, persisted := some entity } fresh, ?_, ?_, ?_⟩
  · refine nodup_newLinks _ fresh hsession.nodup ?_
    intro livre auteur livre' auteur' hleft hright
    exact hinjective livre auteur livre' auteur' (hadds _ _ hleft) (hadds _ _ hright)
  · intro link hlink
    obtain ⟨livre, auteur, -, hnew, hlink⟩ := (mem_newLinks_iff _ _ _).mp hlink
    exact ⟨livre, auteur, hadds _ _ hnew, hlink⟩
  · have hcommit := commit_persisted base session.liens hinsert
    rw [hsession.eq]
    exact hcommit

/-- `addLivre` with a link that is allowed. -/
theorem addLivre (hsession : OnlyLinks base allowed session) {auteur livre : Ref}
    (hallowed : allowed livre auteur) :
    OnlyLinks base allowed
      { session with liens := session.liens.addLivre auteur livre } where
  eq := by rw [hsession.eq]
  nodup := by
    intro other
    rw [Liens.addLivre_eq]
    split
    · exact hsession.nodup other
    · exact Liens.nodup_linkAuteurs _ livre auteur (hsession.nodup other)
  allowed := by
    intro other member hmember
    rw [Liens.addLivre_eq] at hmember
    split at hmember
    · exact hsession.allowed other member hmember
    · rcases (Liens.mem_linkAuteurs _ _ _ _ _).mp hmember with hold | ⟨rfl, rfl⟩
      · exact hsession.allowed other member hold
      · exact Or.inr hallowed

/-- `addAuteur` with a link that is allowed. -/
theorem addAuteur (hsession : OnlyLinks base allowed session) {livre auteur : Ref}
    (hallowed : allowed livre auteur) :
    OnlyLinks base allowed
      { session with liens := session.liens.addAuteur livre auteur } where
  eq := by rw [hsession.eq]
  nodup := fun other =>
    Liens.nodup_auteurs_addAuteur (hsession.nodup other) livre auteur
  allowed := by
    intro other member hmember
    rcases (Liens.mem_auteurs_addAuteur _ _ _ _ _).mp hmember with hold | ⟨rfl, rfl⟩
    · exact hsession.allowed other member hold
    · exact Or.inr hallowed

end Session.OnlyLinks

/-! ## Loans -/

namespace EmpruntController

variable {runtime : Runtime} {base : Base} {data : Value} {row : Emprunt}

/-- `row` is the loan that the body describes. -/
structure Resolved (runtime : Runtime) (base : Base) (data : Value)
    (row : Emprunt) : Prop where
  dateEmprunt : data.Dated "dateEmprunt" row.dateEmprunt
  dateRetour : ∃ date, data.Dated "dateRetour" date ∧ row.dateRetour = some date
  emprunteur : ∃ given, data.field "emprunteurId" = some given ∧
    given.truthy = true ∧ runtime.rowId given = .ok (some row.emprunteur)
  livre : ∃ given, data.field "livreId" = some given ∧ given.truthy = true ∧
    runtime.rowId given = .ok (some row.livre)
  emprunteur_mem : row.emprunteur ∈ base.utilisateur.ids
  livre_mem : row.livre ∈ base.livre.ids

theorem Valid.resolved (hvalid : Valid runtime base data) :
    ∃ row, Resolved runtime base data row := by
  obtain ⟨dateEmprunt, hdateEmprunt⟩ := hvalid.dateEmprunt.dated
  obtain ⟨dateRetour, hdateRetour⟩ := hvalid.dateRetour.dated
  obtain ⟨emprunteurId, hemprunteurId, htrueEmprunteur, emprunteur, hemprunteur,
    hrowEmprunteur⟩ := hvalid.emprunteurId
  obtain ⟨livreId, hlivreId, htrueLivre, livre, hlivre, hrowLivre⟩ := hvalid.livreId
  exact ⟨⟨dateEmprunt, some dateRetour, emprunteur, livre⟩,
    { dateEmprunt := hdateEmprunt
      dateRetour := ⟨dateRetour, hdateRetour, rfl⟩
      emprunteur := ⟨emprunteurId, hemprunteurId, htrueEmprunteur, hrowEmprunteur⟩
      livre := ⟨livreId, hlivreId, htrueLivre, hrowLivre⟩
      emprunteur_mem := hemprunteur
      livre_mem := hlivre }⟩

theorem Resolved.fits (hrow : Resolved runtime base data row) : row.Fits := by
  obtain ⟨date, hdate, heq⟩ := hrow.dateRetour
  refine ⟨hrow.dateEmprunt.2.dateColumn, ?_⟩
  rw [heq]
  intro stored hstored
  cases hstored
  exact hdate.2.dateColumn

theorem Resolved.describes (hrow : Resolved runtime base data row) :
    Describes runtime base.toTables data row := by
  obtain ⟨hfieldEmprunt, hyearEmprunt⟩ := hrow.dateEmprunt
  obtain ⟨dateRetour, ⟨hfieldRetour, hyearRetour⟩, hdateRetour⟩ := hrow.dateRetour
  exact
    { dateEmprunt := ⟨_, hfieldEmprunt, Value.truthy_write _,
        Runtime.createFromFormat_dmY_write hyearEmprunt⟩
      dateRetour := ⟨dateRetour, hdateRetour, _, hfieldRetour, Value.truthy_write _,
        Runtime.createFromFormat_dmY_write hyearRetour⟩
      emprunteur := hrow.emprunteur
      livre := hrow.livre
      emprunteur_mem := hrow.emprunteur_mem
      livre_mem := hrow.livre_mem }

/-- The loan that the body describes is inserted. -/
theorem Resolved.serve_create (hrow : Resolved runtime base data row) :
    (serve (create runtime data) base).1.Success ∧
      (serve (create runtime data) base).2.emprunt.find base.emprunt.next =
        some row := by
  rw [hrow.describes.serve_create (hrow.describes.valid_created_iff.mpr hrow.fits)]
  exact ⟨Outcome.success_of_status (by decide), Table.find_insert_next base.emprunt row⟩

/-- The loan is replaced by the one that the body describes. -/
theorem Resolved.serve_update {id : ℕ} (hrow : Resolved runtime base data row)
    (hid : id ∈ base.emprunt.ids) :
    (serve (update runtime id data) base).1.Success ∧
      (serve (update runtime id data) base).2.emprunt.find id = some row := by
  have hvalid := (hrow.describes.valid_modified_iff hid).mpr hrow.fits
  rw [hrow.describes.serve_update hid hvalid]
  exact ⟨Outcome.success_of_status (by decide), Table.find_replace hid row⟩

end EmpruntController

/-! ## Reservations -/

namespace ReservationsController

variable {runtime : Runtime} {base : Base} {data : Value} {row : Reservations}
variable {free : ℕ × Reservations → Prop}

/-- `row` is the reservation that the body describes. -/
structure Resolved (runtime : Runtime) (base : Base)
    (free : ℕ × Reservations → Prop) (data : Value) (row : Reservations) :
    Prop where
  dateResa : data.Dated "dateResa" row.dateResa
  livre_mem : row.livre ∈ base.livre.ids
  reservateur_mem : row.reservateur ∈ base.utilisateur.ids
  free : ∀ stored ∈ base.reservations.rows, free stored →
    stored.2.livre ≠ row.livre ∧ stored.2.reservateur ≠ row.reservateur
  wp_readBody : ∀ post stop,
    wp (readBody runtime data) post stop (Session.start base) ↔
      post (row.dateResa, row.reservateur, row.livre) (Session.start base)

theorem Valid.resolved (hvalid : Valid runtime base free data) :
    ∃ row, Resolved runtime base free data row := by
  obtain ⟨dateResa, hdateResa⟩ := hvalid.dateResa.dated
  obtain ⟨reservateurId, livreId, reservateur, livre, hreservateurId, hlivreId,
    hreservateur, hreservateurMem, hlivre, hlivreMem, hfree⟩ := hvalid.ids
  refine ⟨⟨dateResa, livre, reservateur⟩, hdateResa, hlivreMem, hreservateurMem,
    hfree, ?_⟩
  intro post stop
  simp only [readBody, hdateResa.1, hreservateurId, hlivreId, Option.isNone_some,
    Bool.or_self, Option.getD_some, Runtime.createFromFormat_dmY_write hdateResa.2,
    wp_bind, wp_answerIf, wp_php_ok, Bool.false_eq_true, if_false]
  rw [wp_find_of_mem runtime hreservateur hreservateurMem, wp_bind,
    wp_find_of_mem runtime hlivre hlivreMem, wp_pure]

/-- The reservation that the body describes is inserted. -/
theorem Resolved.serve_create
    (hrow : Resolved runtime base (fun _ => True) data row) :
    (serve (create runtime data) base).1.Success ∧
      (serve (create runtime data) base).2.reservations.find
        base.reservations.next = some row := by
  have hend := serve_iff_wp (create runtime data) base fun outcome final =>
    outcome.Success ∧ final.reservations.find base.reservations.next = some row
  refine hend.mpr ?_
  rw [create, wp_bind, hrow.wp_readBody]
  dsimp only
  rw [wp_bind, wp_persist, wp_bind]
  have hvalid : (created base row).Valid :=
    base.valid.insert_reservations hrow.dateResa.2.dateColumn hrow.livre_mem
      hrow.reservateur_mem fun stored hstored => hrow.free stored hstored trivial
  refine (wp_flush_of_commit commit_creating hvalid).mpr ?_
  exact ⟨Outcome.success_of_status (by decide),
    Table.find_insert_next base.reservations row⟩

/-- The reservation is replaced by the one that the body describes. -/
theorem Resolved.serve_update {id : ℕ}
    (hrow : Resolved runtime base (fun stored => stored.1 ≠ id) data row)
    (hid : id ∈ base.reservations.ids) :
    (serve (update runtime id data) base).1.Success ∧
      (serve (update runtime id data) base).2.reservations.find id = some row := by
  have hend := serve_iff_wp (update runtime id data) base fun outcome final =>
    outcome.Success ∧ final.reservations.find id = some row
  refine hend.mpr ?_
  rw [update, wp_findPath_of_mem runtime hid]
  dsimp only
  rw [wp_bind, hrow.wp_readBody]
  simp only [setReservations, wp_bind, wp_modify, Table.modify_modify,
    Function.comp_def]
  have hvalid : (modified base id row).Valid :=
    base.valid.update_reservations hrow.dateResa.2.dateColumn hrow.livre_mem
      hrow.reservateur_mem hrow.free
  refine (wp_flush_of_commit commit_modifying hvalid).mpr ?_
  exact ⟨Outcome.success_of_status (by decide), Table.find_replace hid row⟩

end ReservationsController

/-! ## Authors -/

namespace AuteurController

variable {runtime : Runtime} {base : Base} {data : Value} {id : ℕ}

theorem parseDate_write {date : Date} (hyear : date.FourDigitYear) :
    parseDate (.str date.write) = .ok date := by
  rw [parseDate, Runtime.createFromFormat_dmY_write hyear]
  rfl

theorem reads_date : Reads Value.IsDate parseDate DateColumn := by
  rintro - ⟨date, hyear, rfl⟩
  exact ⟨date, parseDate_write hyear, hyear.dateColumn⟩

theorem received_date {key : String} {date : Date} (hdate : data.Dated key date) :
    received (data.field key) parseDate = some date := by
  simp [received, hdate.1, parseDate_write hdate.2, Except.toOption]

theorem UpdateValid.fits (hvalid : UpdateValid runtime base id data) {row : Auteur}
    (hrow : row.Fits) : (onRow data row).Fits := by
  obtain ⟨hnom, hprenom, hdateNaiss, hdateDeces, hnationalite, hphoto, hdescription⟩ :=
    hrow
  exact ⟨hvalid.nom.good_getD (reads_text 255) hnom,
    hvalid.prenom.good_getD (reads_text 255) hprenom,
    hvalid.dateNaiss.good_getD reads_date hdateNaiss,
    hvalid.dateDeces.forall_getD reads_date hdateDeces,
    hvalid.nationalite.good_getD (reads_text 255) hnationalite,
    hvalid.photo.forall_getD (reads_text 255) hphoto,
    hvalid.description.good_getD (reads_text 255) hdescription⟩

theorem UpdateValid.accepted (hvalid : UpdateValid runtime base id data)
    (hlivres : data.Optional "livres" fun livres => livres = .arr []) :
    UpdateAccepted runtime base.toTables id data where
  auteur := hvalid.auteur
  livres := by
    intro given hgiven
    rw [hlivres given hgiven]
    exact Or.inl rfl
  nom := hvalid.nom.converts (reads_text 255)
  prenom := hvalid.prenom.converts (reads_text 255)
  dateNaiss := hvalid.dateNaiss.converts reads_date
  dateDeces := hvalid.dateDeces.converts reads_date
  nationalite := hvalid.nationalite.converts (reads_text 255)
  photo := hvalid.photo.converts (reads_text 255)
  description := hvalid.description.converts (reads_text 255)

/-- Without books in the body, a valid update stores the row it describes. -/
theorem UpdateValid.serve_update (hvalid : UpdateValid runtime base id data)
    (hlivres : data.Optional "livres" fun livres => livres = .arr []) {old : Auteur}
    (hold : base.auteur.find id = some old) :
    (serve (update runtime id data) base).1.Success ∧
      (serve (update runtime id data) base).2.auteur.find id =
        some (onRow data old) := by
  have hfits : (onRow data old).Fits :=
    hvalid.fits (base.valid.auteur_fits _ ((Table.find_eq_some_iff _ _ _).mp hold))
  have hmodified : (modified base id data).Valid := (valid_modified_iff hold).mpr hfits.store
  rw [(hvalid.accepted hlivres).serve_update hmodified]
  refine ⟨Outcome.success_of_status (by decide), ?_⟩
  change (base.auteur.modify id (Auteur.store ∘ onRow data)).find id = _
  rw [Table.find_modify_self, hold, Option.map_some, Function.comp_apply, hfits.store_eq]

/-- With books in the body, an update always fails. -/
theorem not_success_update {livres : Value}
    (hvalid : UpdateValid runtime base id data)
    (hfield : data.field "livres" = some livres) (hlivres : livres ≠ .arr []) :
    ¬ (serve (update runtime id data) base).1.Success := by
  intro hsuccess
  obtain ⟨items, hitems, -⟩ := hvalid.livres livres hfield
  obtain ⟨haccepted, -⟩ :=
    passed_of_success refuses_update (fun _ => completes_update_iff) hsuccess
  rcases haccepted.livres livres hfield with hempty | ⟨hnone, -⟩
  · cases livres with
    | arr entries => simp_all [Value.elements]
    | _ => simp [Value.elements] at hempty
  · rw [hitems] at hnone
    cases hnone

/-- A body with a key is not empty. -/
theorem truthy_of_field {data value : Value} {key : String}
    (hfield : data.field key = some value) : data.truthy = true := by
  cases data with
  | arr entries =>
      cases entries with
      | nil => simp [Value.field] at hfield
      | cons entry entries => rfl
  | _ => simp [Value.field] at hfield

/-- A valid body describes an author that fits its columns. -/
theorem CreateValid.describes (hvalid : CreateValid runtime base data) :
    ∃ row, Describes runtime data row ∧ row.Fits ∧
      data.Dated "dateNaiss" row.dateNaiss := by
  obtain ⟨nomValue, hnomField, nom, hnom, hnomFits⟩ := hvalid.nom
  obtain ⟨prenomValue, hprenomField, prenom, hprenom, hprenomFits⟩ := hvalid.prenom
  obtain ⟨dateNaiss, hdateNaiss⟩ := hvalid.dateNaiss.dated
  obtain ⟨nationaliteValue, hnationaliteField, nationalite, hnationalite,
    hnationaliteFits⟩ := hvalid.nationalite
  obtain ⟨descriptionValue, hdescriptionField, description, hdescription,
    hdescriptionFits⟩ := hvalid.description
  have hids : ∃ items, ((data.field "livres").getD (.arr [])).elements = some items ∧
      ∀ item ∈ items, item.IsId runtime base.livre.ids := by
    cases hfield : data.field "livres" with
    | none => exact ⟨[], rfl, by simp⟩
    | some livres => exact hvalid.livres livres hfield
  obtain ⟨items, hitems, hall⟩ := hids
  refine ⟨⟨nom, prenom, dateNaiss, received (data.field "dateDeces") parseDate,
    nationalite, received (data.field "photo") Value.toString, description⟩, ?_, ?_,
    hdateNaiss⟩
  · exact
      { truthy := truthy_of_field hnomField
        nom := by rw [hnomField]; exact hnom
        prenom := by rw [hprenomField]; exact hprenom
        dateNaiss := ⟨_, hdateNaiss.1, parseDate_write hdateNaiss.2⟩
        dateDeces := ⟨hvalid.dateDeces.converts reads_date, rfl⟩
        nationalite := by rw [hnationaliteField]; exact hnationalite
        photo := hvalid.photo.toNullableString_eq
        description := by rw [hdescriptionField]; exact hdescription
        livres := by
          rw [livreIds, hitems]
          refine ⟨fun hnone => by simp at hnone, fun item hitem => ?_⟩
          obtain ⟨id, -, hrow⟩ := hall item hitem
          exact ⟨some id, hrow⟩ }
  · exact ⟨hnomFits, hprenomFits, hdateNaiss.2.dateColumn,
      hvalid.dateDeces.good_received reads_date, hnationaliteFits,
      hvalid.photo.good_received (reads_text 255), hdescriptionFits⟩

/-- A valid author is inserted with its dates. -/
theorem CreateValid.serve_create (hvalid : CreateValid runtime base data) :
    ∃ row : Auteur, (serve (create runtime data) base).1.Success ∧
      (serve (create runtime data) base).2.auteur.find base.auteur.next = some row ∧
      data.Dated "dateNaiss" row.dateNaiss ∧
      row.dateDeces = received (data.field "dateDeces") parseDate := by
  obtain ⟨row, hrow, hfits, hdated⟩ := hvalid.describes
  rw [hrow.serve_create hfits.store]
  exact ⟨row.store, Outcome.success_of_status (by decide),
    Table.find_insert_next base.auteur row.store, hdated, hrow.dateDeces.2⟩

end AuteurController

/-! ## Books -/

namespace LivreController

variable {runtime : Runtime} {base : Base} {data : Value} {id : ℕ}

/-- The links of a new book lead to existing authors. -/
theorem wp_links {auteurIds : Value} (hids : auteurIds.IsIds runtime base.auteur.ids)
    {missing : Action Unit} {stop : Outcome → Session → Prop} :
    wp (foreach runtime auteurIds (linkAuteur runtime .fresh missing))
      (fun _ => Session.OnlyLinks base fun livre auteur =>
        livre = .fresh ∧ ∃ id ∈ base.auteur.ids, auteur = .managed id)
      stop (Session.start base) := by
  refine Session.OnlyLinks.wp_foreach hids ?_
  intro value id session hid hrow hsession
  rw [linkAuteur, wp_bind,
    wp_find_of_mem runtime hrow (hsession.managed_eq.symm ▸ hid)]
  exact hsession.addAuteur ⟨rfl, id, hid, rfl⟩

/-- A valid book is inserted with the date that `new \DateTime` reads. -/
theorem CreateValid.serve_create (hvalid : CreateValid runtime base data)
    {given : Value} {date : Date} (hgiven : data.field "dateSortie" = some given)
    (hdate : runtime.newDateTime given = .ok date) (hcolumn : DateColumn date) :
    ∃ row : Livre, (serve (create runtime data) base).1.Success ∧
      (serve (create runtime data) base).2.livre.find base.livre.next = some row ∧
      row.dateSortie = date := by
  obtain ⟨titreValue, htitreField, htitreTrue, titre, htitre, htitreFits⟩ :=
    hvalid.titre
  obtain ⟨langueValue, hlangueField, hlangueTrue, langue, hlangue, hlangueFits⟩ :=
    hvalid.langue
  obtain ⟨categorieId, hcategorieField, hcategorieTrue, categorie, hcategorieMem,
    hcategorie⟩ := hvalid.categorieId
  obtain ⟨auteurIds, hauteursField, hauteursTrue, hauteurs⟩ := hvalid.auteurIds
  obtain ⟨-, hdateField, written, -, rfl⟩ := hvalid.dateSortie
  cases hdateField.symm.trans hgiven
  let row : Livre := ⟨titre, date, langue,
    received (data.field "photoCouverture") Value.toString, categorie⟩
  have hend := serve_iff_wp (create runtime data) base fun outcome final =>
    outcome.Success ∧ final.livre.find base.livre.next = some row
  refine ⟨row, and_assoc.mp ⟨hend.mpr ?_, rfl⟩⟩
  simp only [create, htitreField, hdateField, hlangueField, hcategorieField,
    hauteursField, Option.getD_some, Value.missing, Option.any_some, htitreTrue,
    hlangueTrue, hcategorieTrue, hauteursTrue, Value.truthy_write, Bool.not_true,
    Bool.or_self, wp_bind, wp_answerIf, Bool.false_eq_true, if_false, htitre, hlangue,
    hdate, wp_php_ok, hvalid.photoCouverture.toNullableString_eq]
  rw [wp_find_of_mem runtime hcategorie hcategorieMem]
  dsimp only
  rw [wp_bind]
  refine wp_mono (wp_links hauteurs) ?_ (fun _ _ hstop => hstop)
  intro _ session hsession
  have hinsert : Entity.insert base.toTables (.livre {
      titre := some titre, dateSortie := some date, langue := some langue,
      photoCouverture := row.photoCouverture, categorie := some categorie }) =
      some ({ base.toTables with livre := base.livre.insert row },
        base.livre.next) := rfl
  obtain ⟨links, hnodup, hlinks, hcommit⟩ := hsession.exists_commit hinsert (by
    rintro livre auteur livre' auteur' ⟨rfl, id, -, rfl⟩ ⟨rfl, id', -, rfl⟩ - hauteur
    exact ⟨rfl, congrArg Ref.managed hauteur⟩)
  have hfits : row.Fits := ⟨htitreFits, hcolumn, hlangueFits,
    hvalid.photoCouverture.good_received (reads_text 255)⟩
  have hinserted : Tables.Valid { base.toTables with
      livre := base.livre.insert row
      livreAuteur := base.livreAuteur ++ links } := by
    refine base.valid.insert_livre hfits hcategorieMem hnodup fun link hlink => ?_
    obtain ⟨-, -, ⟨rfl, id, hid, rfl⟩, rfl⟩ := hlinks link hlink
    exact ⟨rfl, hid⟩
  rw [wp_bind, wp_persist, wp_bind]
  refine (wp_flush_of_commit hcommit hinserted).mpr ?_
  exact ⟨Outcome.success_of_status (by decide), Table.find_insert_next base.livre row⟩

/-- A book whose date `new \DateTime` rejects is not created. -/
theorem CreateValid.not_success_create (hvalid : CreateValid runtime base data)
    {given : Value} {throwable : Throwable}
    (hgiven : data.field "dateSortie" = some given)
    (hdate : runtime.newDateTime given = .error throwable) :
    ¬ (serve (create runtime data) base).1.Success := by
  obtain ⟨titreValue, htitreField, htitreTrue, titre, htitre, -⟩ := hvalid.titre
  have hend := serve_iff_wp (create runtime data) base fun outcome _ =>
    ¬ outcome.Success
  refine hend.mpr ?_
  simp only [create, htitreField, hgiven, Option.getD_some, htitre, wp_bind,
    wp_answerIf, wp_php_ok, hdate, wp_php_error]
  split
  · exact fun hsuccess => absurd hsuccess.2 (by decide)
  · exact fun hsuccess => hsuccess

theorem UpdateValid.accepted (hvalid : UpdateValid runtime base id data)
    (hdate : ∀ given, data.field "dateSortie" = some given →
      ∃ date, runtime.newDateTime given = .ok date) :
    Accepted runtime base.toTables id data where
  livre := hvalid.livre
  titre := hvalid.titre.converts (reads_text 255)
  dateSortie := hdate
  langue := hvalid.langue.converts (reads_text 255)
  photoCouverture := hvalid.photoCouverture.converts (reads_text 255)
  categorie := hvalid.categorieId
  auteurs := by
    intro given hfield
    obtain ⟨items, hitems, hall⟩ := hvalid.auteurIds given hfield
    rw [hitems]
    exact ⟨fun hnone => by simp at hnone, fun _ heq => Option.some.inj heq ▸ hall⟩

/-- A valid update stores the date that `new \DateTime` reads. -/
theorem UpdateValid.serve_update (hvalid : UpdateValid runtime base id data)
    {given : Value} {date : Date} (hgiven : data.field "dateSortie" = some given)
    (hdate : runtime.newDateTime given = .ok date) (hcolumn : DateColumn date) :
    ∃ row : Livre, (serve (update runtime id data) base).1.Success ∧
      (serve (update runtime id data) base).2.livre.find id = some row ∧
      row.dateSortie = date := by
  obtain ⟨old, hold⟩ := Table.exists_find_of_mem_ids hvalid.livre
  have haccepted : Accepted runtime base.toTables id data := by
    refine hvalid.accepted fun other hother => ⟨date, ?_⟩
    cases hgiven.symm.trans hother
    exact hdate
  have hreceived : (sent runtime data).dateSortie = some date := by
    simp [sent, received, hgiven, hdate, Except.toOption]
  have hread : ((sent runtime data).onRow old).dateSortie = date := by
    simp [Sent.onRow, hreceived]
  have hfits : ((sent runtime data).onRow old).Fits := by
    obtain ⟨htitre, -, hlangue, hphoto⟩ :=
      base.valid.livre_fits _ ((Table.find_eq_some_iff _ _ _).mp hold)
    exact ⟨hvalid.titre.good_getD (reads_text 255) htitre, hread.symm ▸ hcolumn,
      hvalid.langue.good_getD (reads_text 255) hlangue,
      hvalid.photoCouverture.forall_getD (reads_text 255) hphoto⟩
  refine ⟨((sent runtime data).onRow old).store, ?_,
    (step_update haccepted hold hfits.store).1, hread⟩
  rw [LivreController.serve_update haccepted hold hfits.store]
  exact Outcome.success_of_status (by decide)

/-- A book whose new date `new \DateTime` rejects is not updated. -/
theorem not_success_update_of_date {given : Value} {throwable : Throwable}
    (hgiven : data.field "dateSortie" = some given)
    (hdate : runtime.newDateTime given = .error throwable) :
    ¬ (serve (update runtime id data) base).1.Success := by
  refine not_success_update fun haccepted => ?_
  obtain ⟨date, hread⟩ := haccepted.dateSortie given hgiven
  rw [hdate] at hread
  cases hread

end LivreController

/-! ## Users -/

namespace AdherentController

variable {runtime : Runtime} {base : Base} {data : Value} {id : ℕ}

/-- A date that the format `d/m/Y` reads is refused by the constructor. -/
theorem parseDate_dmY_write {date : Date} (hyear : date.FourDigitYear) :
    parseDate runtime DateTime.dmY (.str date.write) =
      .error (.typeError "DateTime::__construct") := by
  rw [parseDate, Runtime.createFromFormat_dmY_write hyear]
  rfl

/-- The format `d/m/y` reads no date, and the constructor makes it today. -/
theorem reads_today :
    Reads Value.IsDate (parseDate runtime DateTime.dmy) (· = runtime.today) := by
  rintro - ⟨date, -, rfl⟩
  refine ⟨runtime.today, ?_, rfl⟩
  rw [parseDate, Runtime.createFromFormat_dmy_write]
  rfl

theorem reads_roles : Reads (fun value => ∃ entries, value.toArray = .ok entries)
    Value.toArray fun _ => True := by
  rintro given ⟨entries, hentries⟩
  exact ⟨entries, hentries, trivial⟩

/-- The email of the new row is nobody else's. -/
theorem Valid.email_free (hvalid : Valid runtime base data.Optional (some id) data)
    {old : Utilisateur} (hold : base.utilisateur.find id = some old) :
    ∀ stored ∈ base.utilisateur.rows, stored.1 ≠ id →
      stored.2.email ≠ (onRow runtime data old).email := by
  have hreads : Reads (fun value => ∃ text, value.toString = .ok text ∧
      Varchar 180 text ∧ ∀ row ∈ base.utilisateur.rows, some row.1 ≠ some id →
        row.2.email ≠ text) Value.toString
      (fun text => ∀ row ∈ base.utilisateur.rows, row.1 ≠ id → row.2.email ≠ text) := by
    rintro given ⟨text, htext, -, hfree⟩
    exact ⟨text, htext, fun row hrow hne => hfree row hrow (by simpa using hne)⟩
  refine hvalid.email.good_getD hreads ?_
  intro stored hstored hne heq
  have hrow := (Table.find_eq_some_iff _ _ _).mp hold
  have hsame := List.inj_on_of_nodup_map base.valid.email_unique hstored hrow heq
  exact hne (congrArg Prod.fst hsame)

theorem Valid.fits (hvalid : Valid runtime base data.Optional (some id) data)
    (htoday : DateColumn runtime.today) {row : Utilisateur} (hrow : row.Fits) :
    (onRow runtime data row).Fits := by
  obtain ⟨hemail, hpassword, hdateAdhesion, hnom, hprenom, hdateNaiss,
    hadressePostale, hnumTel, hphoto⟩ := hrow
  refine ⟨hvalid.email.good_getD ?_ hemail,
    hvalid.password.good_getD (reads_text 255) hpassword, hdateAdhesion,
    hvalid.nom.good_getD (reads_text 255) hnom,
    hvalid.prenom.good_getD (reads_text 255) hprenom,
    hvalid.dateNaiss.good_getD ?_ hdateNaiss,
    hvalid.adressePostale.good_getD (reads_text 255) hadressePostale,
    hvalid.numTel.good_getD (fun _ haccept => haccept) hnumTel,
    hvalid.photo.forall_getD (reads_text 255) hphoto⟩
  · rintro given ⟨text, htext, hsize, -⟩
    exact ⟨text, htext, hsize⟩
  · intro given haccept
    obtain ⟨date, hdate, rfl⟩ := reads_today given haccept
    exact ⟨_, hdate, htoday⟩

theorem Valid.updateAccepted (hvalid : Valid runtime base data.Optional (some id) data)
    (habsent : data.field "dateAdhesion" = none) (hid : id ∈ base.utilisateur.ids) :
    UpdateAccepted runtime base.toTables id data where
  utilisateur := hid
  dateAdhesion := fun _ hfield => absurd (habsent.symm.trans hfield) (by simp)
  nom := hvalid.nom.converts (reads_text 255)
  prenom := hvalid.prenom.converts (reads_text 255)
  dateNaiss := hvalid.dateNaiss.converts reads_today
  email := hvalid.email.converts (fun _ haccept => haccept)
  adressePostale := hvalid.adressePostale.converts (reads_text 255)
  numTel := hvalid.numTel.converts (fun _ haccept => haccept)
  photo := hvalid.photo.converts (reads_text 255)
  roles := hvalid.roles.converts reads_roles
  password := hvalid.password.converts (reads_text 255)

theorem rewritten_of_none (habsent : data.field "dateAdhesion" = none) (row : Utilisateur) :
    rewritten runtime data row = onRow runtime data row := by
  simp [rewritten, onRow, habsent, received]

/-- Without `dateAdhesion`, a valid update that succeeds stores the row it
describes, and it succeeds if the column can hold today. -/
theorem Valid.serve_update (hvalid : Valid runtime base data.Optional (some id) data)
    (habsent : data.field "dateAdhesion" = none) {old : Utilisateur}
    (hold : base.utilisateur.find id = some old) :
    (DateColumn runtime.today → (serve (update runtime id data) base).1.Success) ∧
      ((serve (update runtime id data) base).1.Success →
        (serve (update runtime id data) base).2.utilisateur.find id =
          some (onRow runtime data old).store) := by
  constructor
  · intro htoday
    have hfits := hvalid.fits htoday
      (base.valid.utilisateur_fits _ ((Table.find_eq_some_iff _ _ _).mp hold))
    have hmodified : (modified runtime base id data).Valid := by
      rw [valid_modified_iff hold, rewritten_of_none habsent]
      rw [hfits.store_eq]
      exact ⟨hfits, hvalid.email_free hold⟩
    have haccepted := hvalid.updateAccepted habsent (Table.mem_ids_of_find hold)
    rw [haccepted.serve_update hmodified]
    exact Outcome.success_of_status (by decide)
  · intro hsuccess
    obtain ⟨-, hmodified, hserve⟩ :=
      passed_of_success refuses_update (fun _ => completes_update_iff) hsuccess
    rw [hserve]
    change (base.utilisateur.modify id
      (Utilisateur.store ∘ rewritten runtime data)).find id = _
    rw [Table.find_modify_self, hold, Option.map_some, Function.comp_apply,
      rewritten_of_none habsent]

/-- A valid `dateAdhesion` makes every update fail. -/
theorem not_success_update {date : Date} (hdate : data.Dated "dateAdhesion" date)
    (hid : id ∈ base.utilisateur.ids) :
    ¬ (serve (update runtime id data) base).1.Success := by
  have hend := serve_iff_wp (update runtime id data) base fun outcome _ =>
    ¬ outcome.Success
  refine hend.mpr ?_
  rw [update, wp_findPath_of_mem runtime hid]
  simp only [readDate_eq, hdate.1, wp_bind, wp_ifSet_some, parseDate_dmY_write hdate.2,
    wp_php_error]
  exact fun hsuccess => hsuccess

/-- A valid `dateAdhesion` makes every creation fail. -/
theorem not_success_create {salt : ℕ} {date : Date}
    (hdate : data.Dated "dateAdhesion" date) :
    ¬ (serve (create runtime salt data) base).1.Success := by
  have hend := serve_iff_wp (create runtime salt data) base fun outcome _ =>
    ¬ outcome.Success
  refine hend.mpr ?_
  simp only [create, whenSet, readDate_eq, hdate.1, wp_bind,
    parseDate_dmY_write hdate.2, wp_php_error]
  exact fun hsuccess => hsuccess

end AdherentController

end Bibliotheque
