import Bibliotheque.Api.Catalogue
import Bibliotheque.Store.Completion
import Bibliotheque.Store.Flush

/-!
# The author requests that succeed

On which bodies `AuteurController::update` and `AuteurController::create` run
to their end, and the content they then leave.
-/

namespace Bibliotheque

open Program Bibliotheque.Action

namespace AuteurController

variable {runtime : Runtime} {base : Base} {id : ℕ} {data : Value}

/-- The conversions of `readDate`. -/
def parseDate (value : Value) : Except Throwable Date := do
  dateParameter (← Runtime.createFromFormat DateTime.dmY value)

theorem readDate_eq (value : Value) : readDate value = php (parseDate value) :=
  (php_bind _ _).symm

/-! ## Updates -/

/-- The author after the setters of `update`. -/
def onRow (data : Value) (row : Auteur) : Auteur where
  nom := (received (data.field "nom") Value.toString).getD row.nom
  prenom := (received (data.field "prenom") Value.toString).getD row.prenom
  dateNaiss := (received (data.field "dateNaiss") parseDate).getD row.dateNaiss
  dateDeces := ((received (data.field "dateDeces") parseDate).map some).getD row.dateDeces
  nationalite :=
    (received (data.field "nationalite") Value.toString).getD row.nationalite
  photo := ((received (data.field "photo") Value.toString).map some).getD row.photo
  description :=
    (received (data.field "description") Value.toString).getD row.description

/-- The body passes every conversion of `update`.  Books in the body stop it:
the loop over them has no repository. -/
structure UpdateAccepted (runtime : Runtime) (tables : Tables) (id : ℕ)
    (data : Value) : Prop where
  auteur : id ∈ tables.auteur.ids
  livres : ∀ given, data.field "livres" = some given →
    given.elements = some [] ∨ given.elements = none ∧ runtime.debug = false
  nom : data.Converts "nom" Value.toString
  prenom : data.Converts "prenom" Value.toString
  dateNaiss : data.Converts "dateNaiss" parseDate
  dateDeces : data.Converts "dateDeces" parseDate
  nationalite : data.Converts "nationalite" Value.toString
  photo : data.Converts "photo" Value.toString
  description : data.Converts "description" Value.toString

/-- The content after the flush of an update. -/
def modified (base : Base) (id : ℕ) (data : Value) : Tables :=
  { base.toTables with auteur := base.auteur.modify id (Auteur.store ∘ onRow data) }

/-- The session of an `update` after some of its setters. -/
def setting (base : Base) (id : ℕ) (rewrite : Auteur → Auteur) : Session :=
  { Session.start base with managed :=
    { base.toTables with auteur := base.auteur.modify id rewrite } }

theorem setting_id : setting base id (fun row => row) = Session.start base := by
  rw [setting, Table.modify_id]
  rfl

theorem setAuteur_setting (before rewrite : Auteur → Auteur) :
    setAuteur id rewrite (setting base id before) =
      .ok () (setting base id (rewrite ∘ before)) := by
  have hset : setting base id (rewrite ∘ before) =
      { setting base id before with managed := { base.toTables with
        auteur := (base.auteur.modify id before).modify id rewrite } } := by
    rw [Table.modify_modify]
    rfl
  rw [hset]
  rfl

theorem commit_setting :
    (setting base id (onRow data)).commit =
      .ok ((setting base id (onRow data)).managed, 0) := by
  have hkeys : base.SameKeys (setting base id (onRow data)).managed :=
    { base.sameKeys_refl with auteur := ⟨(Table.ids_modify _ _ _).symm, rfl⟩ }
  exact Session.commit_managed base hkeys

theorem store_setting :
    (setting base id (onRow data)).managed.store = modified base id data := by
  calc
    _ = { base.toTables with
          auteur := (base.auteur.modify id (onRow data)).map Auteur.store } :=
      base.valid.store_auteur _ base.livreAuteur
    _ = _ := by
      rw [Table.map_modify fun row hrow => (base.valid.auteur_fits row hrow).store_eq]
      rfl

theorem completes_books_iff {Out : Type} {values : Value} {next : Unit → Action Out}
    {post : Out → Session → Prop} {session : Session} :
    Completes (foreach runtime values undefinedRepository >>= next) post session ↔
      (values.elements = some [] ∨ values.elements = none ∧ runtime.debug = false) ∧
        Completes (next ()) post session := by
  unfold foreach
  cases values.elements with
  | none =>
      cases runtime.debug with
      | true => simp [Completes]
      | false => simp [Completes]
  | some items =>
      cases items with
      | nil => simp [Completes, List.forM]
      | cons item items => simp [Completes, undefinedRepository]

theorem refuses_update : Refuses (update runtime id data) := by
  have hset : ∀ auteur rewrite, Refuses (setAuteur auteur rewrite) :=
    fun _ _ => stops_modify _
  unfold update
  simp only [readDate_eq]
  refine refuses_findOr _ _ _ (fun auteur => ?_) (refuses_answer (by decide) _)
  refine (refuses_foreach _ _ fun _ => refuses_thrown _).bind fun _ => ?_
  refine (refuses_setter _ _ fun _ => hset _ _).bind fun _ => ?_
  refine (refuses_setter _ _ fun _ => hset _ _).bind fun _ => ?_
  refine (refuses_setter _ _ fun _ => hset _ _).bind fun _ => ?_
  refine (refuses_setter _ _ fun _ => hset _ _).bind fun _ => ?_
  refine (refuses_setter _ _ fun _ => hset _ _).bind fun _ => ?_
  refine (refuses_setter _ _ fun _ => hset _ _).bind fun _ => ?_
  refine (refuses_setter _ _ fun _ => hset _ _).bind fun _ => ?_
  exact refuses_flush.bind fun _ => stops_pure _

theorem completes_update_iff {property : Response → Base → Prop} :
    Completes (update runtime id data) (fun sent final => property sent final.base)
        (Session.start base) ↔
      UpdateAccepted runtime base.toTables id data ∧
        ∃ hvalid : (modified base id data).Valid,
          property ⟨201, .object [("message", .str "Auteur updated"), ("id", .int id)]⟩
            ⟨modified base id data, hvalid⟩ := by
  unfold update
  simp only [readDate_eq]
  rw [completes_findPath_iff (not_completes_answer _ _), ← @setting_id base id]
  dsimp only
  rw [completes_books_iff,
    completes_setter_iff (setAuteur_setting _) (fun nom row =>
      { row with nom := nom.getD row.nom }) rfl ?_,
    completes_setter_iff (setAuteur_setting _) (fun prenom row =>
      { row with prenom := prenom.getD row.prenom }) rfl ?_,
    completes_setter_iff (setAuteur_setting _) (fun dateNaiss row =>
      { row with dateNaiss := dateNaiss.getD row.dateNaiss }) rfl ?_,
    completes_setter_iff (setAuteur_setting _) (fun dateDeces row =>
      { row with dateDeces := (dateDeces.map some).getD row.dateDeces }) rfl ?_,
    completes_setter_iff (setAuteur_setting _) (fun nationalite row =>
      { row with nationalite := nationalite.getD row.nationalite }) rfl ?_,
    completes_setter_iff (setAuteur_setting _) (fun photo row =>
      { row with photo := (photo.map some).getD row.photo }) rfl ?_,
    completes_setter_iff (setAuteur_setting _) (fun description row =>
      { row with description := description.getD row.description }) rfl ?_,
    Completes, wp_bind]
  · have hlivres : (((data.field "livres").getD (.arr [])).elements = some [] ∨
        ((data.field "livres").getD (.arr [])).elements = none ∧
          runtime.debug = false) ↔
        ∀ given, data.field "livres" = some given →
          given.elements = some [] ∨ given.elements = none ∧ runtime.debug = false := by
      cases data.field "livres" with
      | none => simp [Value.elements]
      | some given => simp
    have hflush := @completes_flush_of_commit (setting base id (onRow data))
      (fun _ final => property ⟨201, .object [("message", .str "Auteur updated"),
        ("id", .int id)]⟩ final.base) _ _ _ commit_setting store_setting
    rw [hlivres, setting_id]
    constructor
    · rintro ⟨hid, hlivres, hnom, hprenom, hdateNaiss, hdateDeces, hnationalite, hphoto,
        hdescription, hend⟩
      exact ⟨⟨hid, hlivres, hnom, hprenom, hdateNaiss, hdateDeces, hnationalite, hphoto,
        hdescription⟩, hflush.mp hend⟩
    · rintro ⟨⟨hid, hlivres, hnom, hprenom, hdateNaiss, hdateDeces, hnationalite, hphoto,
        hdescription⟩, hend⟩
      exact ⟨hid, hlivres, hnom, hprenom, hdateNaiss, hdateDeces, hnationalite, hphoto,
        hdescription, hflush.mpr hend⟩
  all_goals exact fun _ => rfl

/-- What `update` does with an accepted body, if the server accepts the row. -/
theorem UpdateAccepted.serve_update (haccepted : UpdateAccepted runtime base.toTables id data)
    (hvalid : (modified base id data).Valid) :
    serve (update runtime id data) base =
      (.response ⟨201, .object [("message", .str "Auteur updated"), ("id", .int id)]⟩,
        ⟨modified base id data, hvalid⟩) := by
  apply serve_of_wp
  exact (@completes_update_iff runtime base id data fun sent final =>
    sent = _ ∧ final = _).mpr ⟨haccepted, hvalid, rfl, rfl⟩

/-! ## Creations -/

/-- The collections after the calls of `addLivre` on the new author. -/
def addLivres (livres : List ℕ) (liens : Liens Ref Ref) : Liens Ref Ref :=
  livres.foldl (fun liens livre => liens.addLivre .fresh (.managed livre)) liens

/-- The books of the given ids that exist. -/
def livresOf (runtime : Runtime) (tables : Tables) (items : List Value) : List ℕ :=
  items.filterMap fun item =>
    (runtime.rowId item).toOption.join.filter fun livre => livre ∈ tables.livre.ids

/-- The ids of `livres`, none if the key is absent or no array. -/
def livreIds (data : Value) : List Value :=
  (((data.field "livres").getD (.arr [])).elements).getD []

/-- The body passes the tests and conversions of `create`, and `row` is the
author it describes. -/
structure Describes (runtime : Runtime) (data : Value) (row : Auteur) : Prop where
  truthy : data.truthy = true
  nom : ((data.field "nom").getD .null).toString = .ok row.nom
  prenom : ((data.field "prenom").getD .null).toString = .ok row.prenom
  dateNaiss : ∃ given, data.field "dateNaiss" = some given ∧
    parseDate given = .ok row.dateNaiss
  dateDeces : data.Converts "dateDeces" parseDate ∧
    row.dateDeces = received (data.field "dateDeces") parseDate
  nationalite : ((data.field "nationalite").getD .null).toString = .ok row.nationalite
  photo : Value.toNullableString (data.field "photo") = .ok row.photo
  description : ((data.field "description").getD .null).toString = .ok row.description
  livres : (((data.field "livres").getD (.arr [])).elements = none →
      runtime.debug = false) ∧
    ∀ item ∈ livreIds data, ∃ number, runtime.rowId item = .ok number

/-- The object that `create` persists. -/
def newAuteur (row : Auteur) : Entity :=
  .auteur {
    nom := some row.nom
    prenom := some row.prenom
    dateNaiss := some row.dateNaiss
    dateDeces := row.dateDeces
    nationalite := some row.nationalite
    photo := row.photo
    description := some row.description }

/-- The session of `create` when it flushes. -/
def creating (runtime : Runtime) (base : Base) (data : Value) (row : Auteur) :
    Session :=
  { Session.start base with
    liens := addLivres (livresOf runtime base.toTables (livreIds data)) base.liens
    persisted := some (newAuteur row) }

/-- The content after its flush. -/
def created (runtime : Runtime) (base : Base) (data : Value) (row : Auteur) : Tables :=
  { base.toTables with
    auteur := base.auteur.insert row
    livreAuteur := base.livreAuteur ++
      (creating runtime base data row).newLinks base.auteur.next }

theorem commit_creating {row : Auteur} :
    (creating runtime base data row).commit =
      .ok (created runtime base data row, base.auteur.next) := by
  have hinsert : (newAuteur row).insert base.toTables =
      some ({ base.toTables with auteur := base.auteur.insert row },
        base.auteur.next) := rfl
  exact Session.commit_persisted base _ hinsert

theorem refuses_optionalDate (value : Option Value) : Refuses (optionalDate value) := by
  cases value with
  | none => exact stops_pure _
  | some given =>
      change Refuses (readDate given >>= fun date => pure (some date))
      rw [readDate_eq]
      exact (refuses_php _).bind fun _ => stops_pure _

theorem refuses_create : Refuses (create runtime data) := by
  refine (refuses_answerIf _ (by decide) _).bind fun _ => ?_
  refine (refuses_php _).bind fun _ => (refuses_php _).bind fun _ => ?_
  refine (refuses_optionalDate _).bind fun _ => (refuses_optionalDate _).bind fun _ => ?_
  refine (refuses_php _).bind fun _ => (refuses_php _).bind fun _ => ?_
  refine (refuses_php _).bind fun _ => ?_
  refine (refuses_foreach _ _ fun livreId => ?_).bind fun _ => ?_
  · exact refuses_findOr _ _ _ (fun _ => stops_modify _) (stops_pure _)
  · refine (refuses_persist _).bind fun _ => refuses_flush.bind fun _ => ?_
    exact refuses_insertedId.bind fun _ => stops_pure _

theorem completes_optionalDate_iff {Out : Type} {key : String}
    {next : Option Date → Action Out} {post : Out → Session → Prop} {session : Session} :
    Completes (optionalDate (data.field key) >>= next) post session ↔
      data.Converts key parseDate ∧
        Completes (next (received (data.field key) parseDate)) post session := by
  unfold Value.Converts
  cases data.field key with
  | none => simp [optionalDate, received, Completes]
  | some given =>
      cases hread : parseDate given with
      | ok date =>
          simp [optionalDate, readDate_eq, hread, received, Completes, Except.toOption]
      | error throwable => simp [optionalDate, readDate_eq, hread, Completes]

/-- One turn of the loop over `livres`: an id that designates no book is
skipped. -/
theorem completes_linkLivre_iff {item : Value} {post : Unit → Session → Prop}
    {session : Session} :
    Completes (linkLivre runtime item) post session ↔
      (∃ number, runtime.rowId item = .ok number) ∧
        post () { session with
          liens := addLivres (livresOf runtime session.managed [item]) session.liens } := by
  rw [Completes, linkLivre, wp_bind, wp_find]
  cases hrow : runtime.rowId item with
  | error throwable => simp
  | ok number =>
      cases number with
      | none => simp [livresOf, hrow, Except.toOption, addLivres]
      | some number =>
          by_cases hid : number ∈ session.managed.livre.ids
          · simp [livresOf, hrow, Except.toOption, addLivres, hid, addLivre,
              Option.filter_some]
          · simp [livresOf, hrow, Except.toOption, addLivres, hid, Option.filter_some]

theorem completes_forM_linkLivre_iff {post : Unit → Session → Prop} :
    ∀ (items : List Value) (session : Session),
      Completes (items.forM (linkLivre runtime)) post session ↔
        (∀ item ∈ items, ∃ number, runtime.rowId item = .ok number) ∧
          post () { session with
            liens := addLivres (livresOf runtime session.managed items)
              session.liens } := by
  intro items
  induction items with
  | nil =>
      intro session
      simp [Completes, List.forM, livresOf, addLivres]
  | cons item items ih =>
      intro session
      change Completes (linkLivre runtime item >>= fun _ =>
        items.forM (linkLivre runtime)) _ _ ↔ _
      rw [Completes, wp_bind]
      refine completes_linkLivre_iff.trans ?_
      have hitems : livresOf runtime session.managed (item :: items) =
          livresOf runtime session.managed [item] ++
            livresOf runtime session.managed items :=
        @List.filterMap_append _ _ [item] items _
      have hliens : addLivres (livresOf runtime session.managed (item :: items))
          session.liens = addLivres (livresOf runtime session.managed items)
            (addLivres (livresOf runtime session.managed [item]) session.liens) := by
        rw [hitems, addLivres, List.foldl_append]
        rfl
      rw [hliens]
      refine (and_congr Iff.rfl (ih _)).trans ?_
      simp only [List.mem_cons, forall_eq_or_imp, and_assoc]

theorem completes_foreach_linkLivre_iff {values : Value} {post : Unit → Session → Prop}
    {session : Session} :
    Completes (foreach runtime values (linkLivre runtime)) post session ↔
      ((values.elements = none → runtime.debug = false) ∧
        ∀ item ∈ values.elements.getD [], ∃ number, runtime.rowId item = .ok number) ∧
        post () { session with
          liens := addLivres (livresOf runtime session.managed (values.elements.getD []))
            session.liens } := by
  unfold foreach
  cases values.elements with
  | none =>
      cases runtime.debug with
      | true => simp [Completes]
      | false => simp [Completes, livresOf, addLivres]
  | some items =>
      refine (completes_forM_linkLivre_iff items session).trans ?_
      simp

theorem store_created {row : Auteur} :
    (created runtime base data row).store = created runtime base data row.store := by
  calc
    _ = { base.toTables with
          auteur := (base.auteur.insert row).map Auteur.store
          livreAuteur := (created runtime base data row).livreAuteur } :=
      base.valid.store_auteur _ _
    _ = _ := by
      rw [Table.map_insert fun stored hstored =>
        (base.valid.auteur_fits stored hstored).store_eq]
      rfl

/-- The end of `create`, once the columns of the author are known. -/
theorem completes_linked_iff {row : Auteur} {property : Response → Base → Prop} :
    Completes (do
        foreach runtime ((data.field "livres").getD (.arr [])) (linkLivre runtime)
        persist (newAuteur row)
        flush
        return ⟨201, .object [("message", .str "Auteur créé avec succès."),
          ("id", ← insertedId), ("nom", .str row.nom), ("prenom", .str row.prenom)]⟩)
      (fun sent final => property sent final.base) (Session.start base) ↔
      ((((data.field "livres").getD (.arr [])).elements = none →
          runtime.debug = false) ∧
        ∀ item ∈ livreIds data, ∃ number, runtime.rowId item = .ok number) ∧
        ∃ hvalid : (created runtime base data row.store).Valid,
          property ⟨201, .object [("message", .str "Auteur créé avec succès."),
            ("id", .int base.auteur.next), ("nom", .str row.nom),
            ("prenom", .str row.prenom)]⟩ ⟨created runtime base data row.store, hvalid⟩ := by
  rw [Completes, wp_bind]
  refine completes_foreach_linkLivre_iff.trans (and_congr Iff.rfl ?_)
  rw [wp_bind, wp_persist, wp_bind]
  exact completes_flush_of_commit commit_creating store_created

/-- An author is created exactly from a body that describes a row the server
accepts. -/
theorem completes_create_iff {property : Response → Base → Prop} :
    Completes (create runtime data) (fun sent final => property sent final.base)
        (Session.start base) ↔
      ∃ row, Describes runtime data row ∧
        ∃ hvalid : (created runtime base data row.store).Valid,
          property ⟨201, .object [("message", .str "Auteur créé avec succès."),
            ("id", .int base.auteur.next), ("nom", .str row.nom),
            ("prenom", .str row.prenom)]⟩ ⟨created runtime base data row.store, hvalid⟩ := by
  unfold create
  simp only [completes_answerIf_iff, completes_php_iff, completes_optionalDate_iff,
    Bool.not_eq_false']
  constructor
  · rintro ⟨htruthy, nom, hnom, prenom, hprenom, hdateNaiss, hdateDeces, nationalite,
      hnationalite, photo, hphoto, description, hdescription, hrest⟩
    cases hfield : data.field "dateNaiss" with
    | none =>
        rw [hfield, Completes, wp_bind] at hrest
        obtain ⟨-, hrest⟩ := completes_foreach_linkLivre_iff.mp hrest
        exact absurd hrest (not_completes_persist fun _ => rfl)
    | some given =>
        obtain ⟨dateNaiss, hread, hreceived⟩ := hdateNaiss.read hfield
        rw [hreceived] at hrest
        obtain ⟨hlivres, hvalid, hproperty⟩ := (@completes_linked_iff runtime base data
          ⟨nom, prenom, dateNaiss, received (data.field "dateDeces") parseDate,
            nationalite, photo, description⟩ property).mp hrest
        exact ⟨_,
          { truthy := htruthy
            nom := hnom
            prenom := hprenom
            dateNaiss := ⟨given, hfield, hread⟩
            dateDeces := ⟨hdateDeces, rfl⟩
            nationalite := hnationalite
            photo := hphoto
            description := hdescription
            livres := hlivres }, hvalid, hproperty⟩
  · rintro ⟨row, hrow, hvalid, hproperty⟩
    obtain ⟨given, hfield, hread⟩ := hrow.dateNaiss
    have hconverts : data.Converts "dateNaiss" parseDate := by
      intro other hother
      cases hfield.symm.trans hother
      exact ⟨row.dateNaiss, hread⟩
    have hreceived : received (data.field "dateNaiss") parseDate = some row.dateNaiss := by
      simp [received, hfield, hread, Except.toOption]
    refine ⟨hrow.truthy, row.nom, hrow.nom, row.prenom, hrow.prenom, hconverts,
      hrow.dateDeces.1, row.nationalite, hrow.nationalite, row.photo, hrow.photo,
      row.description, hrow.description, ?_⟩
    rw [hreceived, ← hrow.dateDeces.2]
    exact completes_linked_iff.mpr ⟨hrow.livres, hvalid, hproperty⟩

/-! ## The links of a new author -/

theorem mem_livresOf_iff (items : List Value) (livre : ℕ) :
    livre ∈ livresOf runtime base.toTables items ↔
      livre ∈ base.livre.ids ∧ ∃ item ∈ items, runtime.rowId item = .ok (some livre) := by
  have hread : ∀ item, ((runtime.rowId item).toOption.join.filter fun livre =>
      livre ∈ base.livre.ids) = some livre ↔
        livre ∈ base.livre.ids ∧ runtime.rowId item = .ok (some livre) := by
    intro item
    cases runtime.rowId item with
    | error throwable => simp [Except.toOption]
    | ok number =>
        cases number with
        | none => simp [Except.toOption]
        | some number =>
            simp only [Except.toOption, Option.join_some, Option.filter_eq_some_iff,
              Option.some.injEq, decide_eq_true_eq, Except.ok.injEq]
            constructor
            · rintro ⟨rfl, hid⟩
              exact ⟨hid, rfl⟩
            · rintro ⟨hid, rfl⟩
              exact ⟨rfl, hid⟩
  simp only [livresOf, List.mem_filterMap, hread]
  constructor
  · rintro ⟨item, hitem, hid, hrow⟩
    exact ⟨hid, item, hitem, hrow⟩
  · rintro ⟨hid, item, hitem, hrow⟩
    exact ⟨item, hitem, hid, hrow⟩

/-- The calls of `addLivre` keep the two sides in agreement and insert exactly
the links of the new author. -/
theorem coherent_addLivres :
    ∀ (livres : List ℕ) {liens : Liens Ref Ref}, liens.Coherent →
      (addLivres livres liens).Coherent ∧ ∀ livre auteur,
        auteur ∈ (addLivres livres liens).auteurs livre ↔
          auteur ∈ liens.auteurs livre ∨
            auteur = .fresh ∧ ∃ number ∈ livres, livre = .managed number := by
  intro livres
  induction livres with
  | nil => exact fun hcoherent => ⟨hcoherent, by simp [addLivres]⟩
  | cons number livres ih =>
      intro liens hcoherent
      obtain ⟨hkept, hmember⟩ := ih (hcoherent.addLivre .fresh (.managed number))
      refine ⟨hkept, fun livre auteur => (hmember livre auteur).trans ?_⟩
      rw [hcoherent.mem_auteurs_addLivre_iff]
      simp only [List.mem_cons, exists_eq_or_imp]
      tauto

variable {row : Auteur}

theorem adds_creating_iff (livre auteur : Ref) :
    (creating runtime base data row).Adds livre auteur ↔
      auteur = .fresh ∧ ∃ number ∈ livresOf runtime base.toTables (livreIds data),
        livre = .managed number := by
  change auteur ∈ (addLivres _ base.liens).auteurs livre ∧
    auteur ∉ base.liens.auteurs livre ↔ _
  rw [(coherent_addLivres _ base.valid.coherent_liens).2]
  constructor
  · rintro ⟨hold | hnew, habsent⟩
    · exact absurd hold habsent
    · exact hnew
  · rintro ⟨rfl, number, hnumber, rfl⟩
    refine ⟨Or.inr ⟨rfl, number, hnumber, rfl⟩, fun hold => ?_⟩
    obtain ⟨other, -, heq⟩ := (Tables.mem_liens_auteurs _ _ _).mp hold
    cases heq

/-- The new author gets exactly the existing books of the body. -/
theorem mem_newLinks_creating (link : ℕ × ℕ) :
    link ∈ (creating runtime base data row).newLinks base.auteur.next ↔
      link.2 = base.auteur.next ∧
        link.1 ∈ livresOf runtime base.toTables (livreIds data) := by
  simp only [Session.mem_newLinks_iff, adds_creating_iff]
  constructor
  · rintro ⟨-, -, -, ⟨rfl, number, hnumber, rfl⟩, rfl⟩
    exact ⟨rfl, hnumber⟩
  · obtain ⟨livre, auteur⟩ := link
    rintro ⟨rfl, hlivre⟩
    have hid : livre ∈ base.livre.ids := ((mem_livresOf_iff _ _).mp hlivre).1
    exact ⟨.managed livre, .fresh, Or.inr ⟨livre, hid, rfl⟩, ⟨rfl, livre, hlivre, rfl⟩,
      rfl⟩

theorem nodup_newLinks_creating :
    ((creating runtime base data row).newLinks base.auteur.next).Nodup := by
  refine Session.nodup_newLinks _ _
    (coherent_addLivres _ base.valid.coherent_liens).1.auteurs_nodup ?_
  intro livre auteur livre' auteur' hadds hadds' hlivre _
  obtain ⟨rfl, number, -, rfl⟩ := (adds_creating_iff livre auteur).mp hadds
  obtain ⟨rfl, number', -, rfl⟩ := (adds_creating_iff livre' auteur').mp hadds'
  exact ⟨congrArg Ref.managed hlivre, rfl⟩

/-- The server accepts the new author exactly if it fits its columns. -/
theorem valid_created_iff :
    (created runtime base data row).Valid ↔ row.Fits := by
  constructor
  · intro hvalid
    apply hvalid.auteur_fits (base.auteur.next, row)
    simp [created]
  · intro hfits
    apply base.valid.insert_auteur hfits nodup_newLinks_creating
    intro link hlink
    obtain ⟨hauteur, hlivre⟩ := (mem_newLinks_creating link).mp hlink
    exact ⟨((mem_livresOf_iff _ _).mp hlivre).1, hauteur⟩

/-- What `create` does with a row that its columns take. -/
theorem Describes.serve_create (hrow : Describes runtime data row)
    (hfits : row.store.Fits) :
    serve (create runtime data) base =
      (.response ⟨201, .object [("message", .str "Auteur créé avec succès."),
        ("id", .int base.auteur.next), ("nom", .str row.nom), ("prenom", .str row.prenom)]⟩,
        ⟨created runtime base data row.store, valid_created_iff.mpr hfits⟩) := by
  apply serve_of_wp
  exact (@completes_create_iff runtime base data fun sent final => sent = _ ∧ final = _).mpr
    ⟨row, hrow, valid_created_iff.mpr hfits, rfl, rfl⟩

/-- The server accepts the changed author exactly if it fits its columns. -/
theorem valid_modified_iff {old : Auteur} (hold : base.auteur.find id = some old) :
    (modified base id data).Valid ↔ (onRow data old).store.Fits := by
  constructor
  · intro hvalid
    apply hvalid.auteur_fits (id, (onRow data old).store)
    rw [← Table.find_eq_some_iff, modified, Table.find_modify_self, hold, Option.map_some,
      Function.comp_apply]
  · intro hfits
    apply base.valid.update_auteur
    intro stored hstored
    rw [hold] at hstored
    exact Option.some.inj hstored ▸ hfits

end AuteurController

end Bibliotheque
