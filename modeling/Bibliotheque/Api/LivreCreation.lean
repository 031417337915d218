import Bibliotheque.Api.Listing
import Bibliotheque.Api.LivreEffects

/-!
# `POST /api/livre` and the two readers of a book

Which bodies create a book, the row and the author links they create, and what
`GET /api/livre/{id}` and `GET /api/livre` answer afterwards.
-/

namespace Bibliotheque

open Program Bibliotheque.Action

namespace LivreController

variable {runtime : Runtime} {base : Base} {data : Value} {row : Livre}

/-- The body passes the tests and conversions of `create`, and `row` is the
book it describes. -/
structure Describes (runtime : Runtime) (tables : Tables) (data : Value)
    (row : Livre) : Prop where
  titre : data.Gives "titre" Value.toString row.titre
  dateSortie : data.Gives "dateSortie" runtime.newDateTime row.dateSortie
  langue : data.Gives "langue" Value.toString row.langue
  photoCouverture :
    Value.toNullableString (data.field "photoCouverture") = .ok row.photoCouverture
  categorie : data.Gives "categorieId" runtime.rowId (some row.categorie)
  categorie_mem : row.categorie ∈ tables.categorie.ids
  auteurs : ∃ given, data.field "auteurIds" = some given ∧ given.truthy = true ∧
    (given.elements = none → runtime.debug = false) ∧
      ∀ items, given.elements = some items → ∀ item ∈ items,
        ∃ auteur ∈ tables.auteur.ids, runtime.rowId item = .ok (some auteur)

/-- The object that `create` persists. -/
def newLivre (row : Livre) : Entity :=
  .livre {
    titre := some row.titre
    dateSortie := some row.dateSortie
    langue := some row.langue
    photoCouverture := row.photoCouverture
    categorie := some row.categorie }

/-- A body with string fields and a list of author ids. -/
structure Body where
  titre : String
  dateSortie : String
  langue : String
  photoCouverture : Option String
  categorieId : Value
  auteurIds : List Value

/-- `data` is such a body, perhaps with further keys. -/
structure Body.Reads (body : Body) (data : Value) : Prop where
  titre : data.field "titre" = some (.str body.titre)
  dateSortie : data.field "dateSortie" = some (.str body.dateSortie)
  langue : data.field "langue" = some (.str body.langue)
  photoCouverture : data.field "photoCouverture" = body.photoCouverture.map .str
  categorieId : data.field "categorieId" = some body.categorieId
  auteurIds : data.field "auteurIds" = some (.list body.auteurIds)

/-- The columns read back as the texts were written. -/
def Body.Fits (body : Body) : Prop :=
  Varchar 255 body.titre ∧ Varchar 255 body.langue ∧
    ∀ photo ∈ body.photoCouverture, Varchar 255 photo

theorem Body.Reads.row_eq {body : Body} (hbody : body.Reads data)
    (hrow : Describes runtime base.toTables data row) :
    row.titre = body.titre ∧ row.langue = body.langue ∧
      row.photoCouverture = body.photoCouverture ∧
      runtime.newDateTime (.str body.dateSortie) = .ok row.dateSortie ∧
      runtime.rowId body.categorieId = .ok (some row.categorie) := by
  obtain ⟨titre, htitre, -, htitreRow⟩ := hrow.titre
  obtain ⟨langue, hlangue, -, hlangueRow⟩ := hrow.langue
  obtain ⟨date, hdate, -, hdateRow⟩ := hrow.dateSortie
  obtain ⟨categorie, hcategorie, -, hcategorieRow⟩ := hrow.categorie
  have hphotoRow := hrow.photoCouverture
  cases hbody.titre.symm.trans htitre
  cases hbody.langue.symm.trans hlangue
  cases hbody.dateSortie.symm.trans hdate
  cases hbody.categorieId.symm.trans hcategorie
  rw [hbody.photoCouverture] at hphotoRow
  refine ⟨(Except.ok.inj htitreRow).symm, (Except.ok.inj hlangueRow).symm, ?_, hdateRow,
    hcategorieRow⟩
  cases hphoto : body.photoCouverture with
  | none =>
      rw [hphoto] at hphotoRow
      exact (Except.ok.inj hphotoRow).symm
  | some photo =>
      rw [hphoto] at hphotoRow
      exact (Except.ok.inj hphotoRow).symm

theorem Body.Reads.store_eq {body : Body} (hbody : body.Reads data) (hback : body.Fits)
    (hrow : Describes runtime base.toTables data row) : row.store = row := by
  obtain ⟨htitre, hlangue, hphoto, -⟩ := hbody.row_eq hrow
  simp only [Livre.store, htitre, hlangue, hphoto, Varchar.store_eq_self hback.1,
    Varchar.store_eq_self hback.2.1, Varchar.map_store_eq_self hback.2.2]
  rw [← htitre, ← hlangue, ← hphoto]

theorem Body.Reads.names_iff {body : Body} (hbody : body.Reads data) (auteur : ℕ) :
    Names runtime data auteur ↔
      ∃ item ∈ body.auteurIds, runtime.rowId item = .ok (some auteur) := by
  simp [Names, hbody.auteurIds]

/-- The authors of the body exist. -/
theorem Describes.auteur_mem (hrow : Describes runtime base.toTables data row)
    {auteur : ℕ} (hnames : Names runtime data auteur) : auteur ∈ base.auteur.ids := by
  obtain ⟨items, hitems, item, hitem, hread⟩ := hnames
  obtain ⟨given, hgiven, -, -, hall⟩ := hrow.auteurs
  rw [hgiven] at hitems
  obtain ⟨found, hfound, hrowId⟩ := hall items hitems item hitem
  cases hread.symm.trans hrowId
  exact hfound

/-- The session of `create` when it flushes. -/
def creating (runtime : Runtime) (base : Base) (data : Value) (row : Livre) :
    Session :=
  { Session.start base with
    liens := addAuteurs .fresh (sent runtime data).auteurs base.liens
    persisted := some (newLivre row) }

/-- The content after its flush. -/
def created (runtime : Runtime) (base : Base) (data : Value) (row : Livre) : Tables :=
  { base.toTables with
    livre := base.livre.insert row
    livreAuteur := base.livreAuteur ++
      (creating runtime base data row).newLinks base.livre.next }

theorem commit_creating :
    (creating runtime base data row).commit =
      .ok (created runtime base data row, base.livre.next) := by
  have hinsert : (newLivre row).insert base.toTables =
      some ({ base.toTables with livre := base.livre.insert row },
        base.livre.next) := rfl
  exact Session.commit_persisted base _ hinsert

theorem store_created :
    (created runtime base data row).store = created runtime base data row.store := by
  rw [created, base.valid.store_livre, Table.map_insert fun stored hstored =>
    (base.valid.livre_fits stored hstored).store_eq]
  rfl

theorem refuses_create : Refuses (create runtime data) := by
  refine (refuses_answerIf _ (by decide) _).bind fun _ => ?_
  refine (refuses_php _).bind fun _ => (refuses_php _).bind fun _ => ?_
  refine (refuses_php _).bind fun _ => (refuses_php _).bind fun _ => ?_
  refine refuses_findOr _ _ _ ?_ (refuses_answer (by decide) _)
  intro categorie
  refine (refuses_foreach _ _ fun auteurId => ?_).bind fun _ => ?_
  · exact refuses_findOr _ _ _ (fun _ => stops_modify _) (refuses_answer (by decide) _)
  · refine (refuses_persist _).bind fun _ => refuses_flush.bind fun _ => ?_
    exact refuses_insertedId.bind fun _ => stops_pure _

/-- `!empty($data['key'] ?? [])`. -/
theorem truthy_getD_iff (value : Option Value) :
    (value.getD (.arr [])).truthy = true ↔
      ∃ given, value = some given ∧ given.truthy = true := by
  cases value with
  | none => simp [Value.truthy]
  | some given => simp

/-- The end of `create`, once the columns of the book are known. -/
theorem completes_linked_iff {given : Value}
    (hgiven : data.field "auteurIds" = some given)
    {property : Response → Base → Prop} :
    Completes (do
        foreach runtime given
          (linkAuteur runtime .fresh (answer 404 [("error", .str "Author not found")]))
        persist (newLivre row)
        flush
        return ⟨201, .object [("message", .str "Livre created"), ("id", ← insertedId)]⟩)
      (fun sent final => property sent final.base) (Session.start base) ↔
      ((given.elements = none → runtime.debug = false) ∧
        ∀ items, given.elements = some items → ∀ item ∈ items,
          ∃ auteur ∈ base.auteur.ids, runtime.rowId item = .ok (some auteur)) ∧
        ∃ hvalid : (created runtime base data row.store).Valid,
          property ⟨201, .object [("message", .str "Livre created"),
            ("id", .int base.livre.next)]⟩ ⟨created runtime base data row.store, hvalid⟩ := by
  rw [Completes, wp_bind]
  refine (wp_foreach_linkAuteur_iff _ (fun _ _ => not_completes_answer _ _) given).trans ?_
  apply and_congr Iff.rfl
  have hsent : (given.elements.getD []).filterMap
      (fun item => (runtime.rowId item).toOption.join) = (sent runtime data).auteurs := by
    simp [sent, hgiven]
  rw [hsent, wp_bind, wp_persist, wp_bind]
  exact completes_flush_of_commit commit_creating store_created

/-- A book is created exactly from a body that describes a row the server
accepts. -/
theorem completes_create_iff {property : Response → Base → Prop} :
    Completes (create runtime data) (fun sent final => property sent final.base)
        (Session.start base) ↔
      ∃ row, Describes runtime base.toTables data row ∧
        ∃ hvalid : (created runtime base data row.store).Valid,
          property ⟨201, .object [("message", .str "Livre created"),
            ("id", .int base.livre.next)]⟩ ⟨created runtime base data row.store, hvalid⟩ := by
  unfold create
  simp only [completes_answerIf_iff, completes_php_iff, Bool.or_eq_false_iff,
    Value.missing_eq_false_iff, Bool.not_eq_false', truthy_getD_iff]
  constructor
  · rintro ⟨⟨⟨⟨⟨⟨titreGiven, htitreField, htitreTrue⟩, dateGiven, hdateField, hdateTrue⟩,
      langueGiven, hlangueField, hlangueTrue⟩, categorieGiven, hcategorieField,
      hcategorieTrue⟩, auteursGiven, hauteursField, hauteursTrue⟩, titre, htitre,
      dateSortie, hdateSortie, langue, hlangue, photo, hphoto, hrest⟩
    simp only [htitreField, hdateField, hlangueField, hcategorieField, hauteursField,
      Option.getD_some] at htitre hdateSortie hlangue hrest
    obtain ⟨categorie, hcategorieMem, hcategorie, hrest⟩ :=
      (completes_findOr_iff (not_completes_answer _ _)).mp hrest
    obtain ⟨hauteurs, hvalid, hproperty⟩ := (@completes_linked_iff runtime base data
      ⟨titre, dateSortie, langue, photo, categorie⟩ _ hauteursField property).mp hrest
    exact ⟨⟨titre, dateSortie, langue, photo, categorie⟩,
      { titre := ⟨titreGiven, htitreField, htitreTrue, htitre⟩
        dateSortie := ⟨dateGiven, hdateField, hdateTrue, hdateSortie⟩
        langue := ⟨langueGiven, hlangueField, hlangueTrue, hlangue⟩
        photoCouverture := hphoto
        categorie := ⟨categorieGiven, hcategorieField, hcategorieTrue, hcategorie⟩
        categorie_mem := hcategorieMem
        auteurs := ⟨auteursGiven, hauteursField, hauteursTrue, hauteurs⟩ },
      hvalid, hproperty⟩
  · rintro ⟨row, hrow, hvalid, hproperty⟩
    obtain ⟨titreGiven, htitreField, htitreTrue, htitre⟩ := hrow.titre
    obtain ⟨dateGiven, hdateField, hdateTrue, hdateSortie⟩ := hrow.dateSortie
    obtain ⟨langueGiven, hlangueField, hlangueTrue, hlangue⟩ := hrow.langue
    obtain ⟨categorieGiven, hcategorieField, hcategorieTrue, hcategorie⟩ := hrow.categorie
    obtain ⟨auteursGiven, hauteursField, hauteursTrue, hauteurs⟩ := hrow.auteurs
    simp only [htitreField, hdateField, hlangueField, hcategorieField, hauteursField,
      Option.getD_some]
    refine ⟨⟨⟨⟨⟨⟨_, rfl, htitreTrue⟩, _, rfl, hdateTrue⟩, _, rfl, hlangueTrue⟩, _, rfl,
      hcategorieTrue⟩, _, rfl, hauteursTrue⟩, row.titre, htitre, row.dateSortie,
      hdateSortie, row.langue, hlangue, row.photoCouverture, hrow.photoCouverture, ?_⟩
    refine (completes_findOr_iff (not_completes_answer _ _)).mpr
      ⟨row.categorie, hrow.categorie_mem, hcategorie, ?_⟩
    exact (completes_linked_iff hauteursField).mpr ⟨hauteurs, hvalid, hproperty⟩

/-- The row that a successful `create` inserts. -/
theorem exists_created (hsuccess : (serve (create runtime data) base).1.Success) :
    ∃ row, Describes runtime base.toTables data row ∧
      ∃ hvalid : (created runtime base data row.store).Valid,
        serve (create runtime data) base =
          (.response ⟨201, .object [("message", .str "Livre created"),
            ("id", .int base.livre.next)]⟩,
            ⟨created runtime base data row.store, hvalid⟩) :=
  passed_of_success refuses_create (fun _ => completes_create_iff) hsuccess

/-! ## The new links -/

theorem adds_creating_iff (livre auteur : Ref) :
    (creating runtime base data row).Adds livre auteur ↔
      livre = .fresh ∧ ∃ number ∈ (sent runtime data).auteurs,
        auteur = .managed number := by
  change auteur ∈ (addAuteurs .fresh _ base.liens).auteurs livre ∧
    auteur ∉ base.liens.auteurs livre ↔ _
  rw [mem_auteurs_addAuteurs]
  constructor
  · rintro ⟨hold | hnew, habsent⟩
    · exact absurd hold habsent
    · exact hnew
  · rintro ⟨rfl, hnumber⟩
    exact ⟨Or.inr ⟨rfl, hnumber⟩, by simp [Tables.liens]⟩

/-- The new book gets exactly the authors of the body. -/
theorem mem_newLinks_creating (link : ℕ × ℕ) :
    link ∈ (creating runtime base data row).newLinks base.livre.next ↔
      link.1 = base.livre.next ∧ link.2 ∈ (sent runtime data).auteurs := by
  simp only [Session.mem_newLinks_iff, adds_creating_iff]
  constructor
  · rintro ⟨-, -, -, ⟨rfl, number, hnumber, rfl⟩, rfl⟩
    exact ⟨rfl, hnumber⟩
  · obtain ⟨livre, auteur⟩ := link
    rintro ⟨rfl, hauteur⟩
    exact ⟨.fresh, .managed auteur, Or.inl rfl, ⟨rfl, auteur, hauteur, rfl⟩, rfl⟩

theorem nodup_newLinks_creating :
    ((creating runtime base data row).newLinks base.livre.next).Nodup := by
  refine Session.nodup_newLinks _ _ (nodup_auteurs_addAuteurs .fresh _ _
    base.valid.nodup_liens_auteurs) ?_
  intro livre auteur livre' auteur' hadds hadds' _ hauteur
  obtain ⟨rfl, number, -, rfl⟩ := (adds_creating_iff livre auteur).mp hadds
  obtain ⟨rfl, number', -, rfl⟩ := (adds_creating_iff livre' auteur').mp hadds'
  exact ⟨rfl, congrArg Ref.managed hauteur⟩

/-- The server accepts the book of a body exactly if the columns take it. -/
theorem Describes.valid_created_iff (hrow : Describes runtime base.toTables data row) :
    (created runtime base data row.store).Valid ↔ row.store.Fits := by
  constructor
  · intro hvalid
    apply hvalid.livre_fits (base.livre.next, row.store)
    simp [created]
  · intro hfits
    refine base.valid.insert_livre hfits hrow.categorie_mem nodup_newLinks_creating ?_
    intro link hlink
    obtain ⟨hlivre, hauteur⟩ := (mem_newLinks_creating link).mp hlink
    exact ⟨hlivre, hrow.auteur_mem ((mem_sent_auteurs_iff link.2).mp hauteur)⟩

/-- What `create` does with a book that its columns take. -/
theorem Describes.serve_create (hrow : Describes runtime base.toTables data row)
    (hfits : row.store.Fits) :
    serve (create runtime data) base =
      (.response ⟨201, .object [("message", .str "Livre created"),
        ("id", .int base.livre.next)]⟩,
        ⟨created runtime base data row.store, hrow.valid_created_iff.mpr hfits⟩) := by
  apply serve_of_wp
  exact (@completes_create_iff runtime base data fun sent final => sent = _ ∧ final = _).mpr
    ⟨row, hrow, hrow.valid_created_iff.mpr hfits, rfl, rfl⟩

/-- A body describes one book only. -/
theorem Describes.unique {tables : Tables} {left right : Livre}
    (hleft : Describes runtime tables data left)
    (hright : Describes runtime tables data right) : left = right := by
  have hphoto : left.photoCouverture = right.photoCouverture :=
    Except.ok.inj (hleft.photoCouverture.symm.trans hright.photoCouverture)
  have hcategorie : left.categorie = right.categorie :=
    Option.some.inj (hleft.categorie.unique hright.categorie)
  cases left with
  | mk titre dateSortie langue photoCouverture categorie =>
      cases right with
      | mk titre' dateSortie' langue' photoCouverture' categorie' =>
          rw [Livre.mk.injEq]
          exact ⟨hleft.titre.unique hright.titre,
            hleft.dateSortie.unique hright.dateSortie,
            hleft.langue.unique hright.langue, hphoto, hcategorie⟩

/-- The numbers of its authors, each once. -/
def auteursCreated (runtime : Runtime) (base : Base) (data : Value) (row : Livre) :
    List ℕ :=
  ((creating runtime base data row).newLinks base.livre.next).map Prod.snd

theorem newLinks_creating_eq :
    (creating runtime base data row).newLinks base.livre.next =
      (auteursCreated runtime base data row).map (base.livre.next, ·) := by
  have hself : ∀ link ∈ (creating runtime base data row).newLinks base.livre.next,
      (base.livre.next, link.2) = link := by
    intro link hlink
    exact Prod.ext ((mem_newLinks_creating link).mp hlink).1.symm rfl
  rw [auteursCreated, List.map_map]
  exact (List.map_id _).symm.trans (List.map_congr_left fun link hlink =>
    (hself link hlink).symm)

theorem mem_auteursCreated_iff (auteur : ℕ) :
    auteur ∈ auteursCreated runtime base data row ↔ Names runtime data auteur := by
  rw [← mem_sent_auteurs_iff]
  simp only [auteursCreated, List.mem_map, mem_newLinks_creating]
  constructor
  · rintro ⟨link, ⟨-, hauteur⟩, rfl⟩
    exact hauteur
  · intro hauteur
    exact ⟨(base.livre.next, auteur), ⟨rfl, hauteur⟩, rfl⟩

theorem nodup_auteursCreated : (auteursCreated runtime base data row).Nodup := by
  have hlinks := @nodup_newLinks_creating runtime base data row
  rw [newLinks_creating_eq] at hlinks
  exact hlinks.of_map _

/-! ## What the readers show -/

section Readers

variable (normalize : Date → String)

theorem auteursDe_created_next :
    (created runtime base data row).auteursDe base.livre.next =
      (auteursCreated runtime base data row).filterMap base.auteur.find := by
  have hold : base.livreAuteur.filter (·.1 = base.livre.next) = [] := by
    apply List.filter_eq_nil_iff.mpr
    intro link hlink hnext
    have hid := base.valid.livreAuteur_livre link hlink
    rw [of_decide_eq_true hnext] at hid
    exact base.livre.next_not_mem_ids hid
  simp only [Tables.auteursDe, created, newLinks_creating_eq, List.filter_append, hold,
    List.nil_append]
  have hall : ((auteursCreated runtime base data row).map (base.livre.next, ·)).filter
      (·.1 = base.livre.next) =
        (auteursCreated runtime base data row).map (base.livre.next, ·) := by
    apply List.filter_eq_self.mpr
    intro link hlink
    obtain ⟨auteur, -, rfl⟩ := List.mem_map.mp hlink
    exact decide_eq_true rfl
  rw [hall, List.filterMap_map]
  rfl

theorem auteursDe_created_of_mem {id : ℕ} (hid : id ∈ base.livre.ids) :
    (created runtime base data row).auteursDe id = base.auteursDe id := by
  have hne : base.livre.next ≠ id := by
    rintro rfl
    exact base.livre.next_not_mem_ids hid
  have hnone : ((auteursCreated runtime base data row).map (base.livre.next, ·)).filter
      (·.1 = id) = [] := by
    apply List.filter_eq_nil_iff.mpr
    intro link hlink
    obtain ⟨auteur, -, rfl⟩ := List.mem_map.mp hlink
    simpa using hne
  simp only [Tables.auteursDe, created, newLinks_creating_eq, List.filter_append, hnone,
    List.append_nil]

/-- The entries of the other books stay as they were. -/
theorem entry_created {stored : ℕ × Livre} (hstored : stored ∈ base.livre.rows) :
    entry normalize (created runtime base data row) stored.1 stored.2 =
      entry normalize base.toTables stored.1 stored.2 := by
  simp only [entry, auteursDe_created_of_mem (Table.mem_ids_of_mem hstored)]
  rfl

/-- The list gets one entry more. -/
theorem entries_created :
    ((created runtime base data row).livre.rows.map fun stored =>
        entry normalize (created runtime base data row) stored.1 stored.2) =
      (base.livre.rows.map fun stored =>
        entry normalize base.toTables stored.1 stored.2) ++
      [entry normalize (created runtime base data row) base.livre.next row] := by
  have hrows : (created runtime base data row).livre.rows =
      base.livre.rows ++ [(base.livre.next, row)] := rfl
  rw [hrows, List.map_append]
  congr 1
  apply List.map_congr_left
  intro stored hstored
  exact entry_created normalize hstored

/-- What the entry of the new book shows. -/
theorem entry_created_next {categorie : Categorie}
    (hcategorie : base.categorie.find row.categorie = some categorie) :
    entry normalize (created runtime base data row) base.livre.next row =
      .object [
        ("id", .int base.livre.next),
        ("titre", .str row.titre),
        ("dateSortie", .str (normalize row.dateSortie)),
        ("langue", .str row.langue),
        ("photoCouverture", .ofNullable row.photoCouverture),
        ("auteurs", .str (implode (((auteursCreated runtime base data row).filterMap
          base.auteur.find).map (·.nom)))),
        ("categorie", .str categorie.nom)] := by
  have hfind : (created runtime base data row).categorie.find row.categorie =
      some categorie := hcategorie
  simp only [entry, auteursDe_created_next, hfind]
  rfl

/-- Every entry of the list is what the other reader shows for its id. -/
theorem show_of_mem_index {tables : Tables} {shown : Value}
    (hshown : shown ∈ tables.livre.rows.map fun stored =>
      entry normalize tables stored.1 stored.2) :
    ∃ id : ℕ, shown.field "id" = some (.int id) ∧
      LivreController.show normalize tables id = ⟨200, shown⟩ := by
  obtain ⟨stored, hstored, rfl⟩ := List.mem_map.mp hshown
  refine ⟨stored.1, ?_, ?_⟩
  · simp [Value.field, entry, Value.object]
  · exact LivreController.show_of_find normalize
      ((Table.find_eq_some_iff _ _ _).mpr hstored)

end Readers

end LivreController

/-- After `POST /api/livre` answered 201 with the id `n`, where the columns read
back as they were written, both readers show the book that the body describes, with each
of its authors once, and nothing else has changed. -/
theorem Requete.livreCreate_then_get (normalize : Date → String) {runtime : Runtime}
    {base : Base} {data : Value} {body : LivreController.Body} {n : ℕ}
    (hbody : body.Reads data) (hback : body.Fits)
    (hanswer : ((Requete.livreCreate data).executer runtime base).1 =
      .response ⟨201, .object [("message", .str "Livre created"), ("id", .int n)]⟩) :
    let final := ((Requete.livreCreate data).step runtime base).toTables
    ∃ (day : Date) (categorie : ℕ) (named : Categorie) (auteurs : List ℕ) (shown : Value)
        (entries : List Value) (row : Livre),
      runtime.newDateTime (.str body.dateSortie) = .ok day ∧
      (runtime.rowId body.categorieId = .ok (some categorie) ∧
        base.categorie.find categorie = some named) ∧
      (auteurs.Nodup ∧ (∀ auteur ∈ auteurs, auteur ∈ base.auteur.ids) ∧
        ∀ auteur, auteur ∈ auteurs ↔
          ∃ item ∈ body.auteurIds, runtime.rowId item = .ok (some auteur)) ∧
      shown = .object [
        ("id", .int n),
        ("titre", .str body.titre),
        ("dateSortie", .str (normalize day)),
        ("langue", .str body.langue),
        ("photoCouverture", .ofNullable body.photoCouverture),
        ("auteurs", .str (implode ((auteurs.filterMap base.auteur.find).map (·.nom)))),
        ("categorie", .str named.nom)] ∧
      LivreController.show normalize final n = ⟨200, shown⟩ ∧
      LivreController.index normalize base.toTables = ⟨200, .list entries⟩ ∧
      LivreController.index normalize final = ⟨200, .list (entries ++ [shown])⟩ ∧
      (∀ entry ∈ entries ++ [shown], ∃ id : ℕ, entry.field "id" = some (.int id) ∧
        LivreController.show normalize final id = ⟨200, entry⟩) ∧
      final = { base.toTables with
        livre := base.livre.insert row
        livreAuteur := base.livreAuteur ++ auteurs.map (n, ·) } := by
  intro final
  have hsuccess : (serve (LivreController.create runtime data) base).1.Success := by
    rw [show (serve (LivreController.create runtime data) base).1 = _ from hanswer]
    exact Outcome.success_of_status (by decide)
  obtain ⟨row, hrow, hvalid, hserve⟩ := LivreController.exists_created hsuccess
  have hfinal : final = LivreController.created runtime base data row := by
    rw [← hbody.store_eq hback hrow]
    exact congrArg (fun result : Outcome × Base => result.2.toTables) hserve
  obtain rfl : base.livre.next = n := by
    have hsent : (serve (LivreController.create runtime data) base).1 = _ := hanswer
    rw [hserve] at hsent
    simpa [Value.object] using hsent
  obtain ⟨htitre, hlangue, hphoto, hday, hcategorie⟩ := hbody.row_eq hrow
  obtain ⟨named, hnamed⟩ := Table.exists_find_of_mem_ids hrow.categorie_mem
  have hentry := @LivreController.entry_created_next runtime base data row normalize named
    hnamed
  rw [htitre, hlangue, hphoto] at hentry
  have hentries := @LivreController.entries_created runtime base data row normalize
  rw [hentry] at hentries
  have hlast : final.livre.find base.livre.next = some row := by
    rw [hfinal]
    exact Table.find_insert_next base.livre row
  refine ⟨row.dateSortie, row.categorie, named,
    LivreController.auteursCreated runtime base data row, _, _, row, hday,
    ⟨hcategorie, hnamed⟩, ⟨LivreController.nodup_auteursCreated, ?_, ?_⟩, rfl, ?_, rfl,
    ?_, ?_, ?_⟩
  · intro auteur hauteur
    exact hrow.auteur_mem ((LivreController.mem_auteursCreated_iff auteur).mp hauteur)
  · intro auteur
    rw [LivreController.mem_auteursCreated_iff, hbody.names_iff]
  · rw [LivreController.show_of_find normalize hlast, hfinal, hentry]
  · rw [hfinal, LivreController.index, hentries]
  · intro entry hentry
    rw [hfinal]
    rw [← hentries] at hentry
    exact LivreController.show_of_mem_index normalize hentry
  · rw [hfinal, LivreController.created, LivreController.newLinks_creating_eq]

/-- The author of the sample library named twice, as a number and as a text. -/
def LivreController.Body.persuasion : LivreController.Body where
  titre := "Persuasion"
  dateSortie := "12/20/1817"
  langue := "EN"
  photoCouverture := none
  categorieId := .int 1
  auteurIds := [.int 1, .str "1"]

def Value.newPersuasion : Value :=
  .object [("titre", .str "Persuasion"), ("dateSortie", .str "12/20/1817"),
    ("langue", .str "EN"), ("categorieId", .int 1),
    ("auteurIds", .list [.int 1, .str "1"])]

/-- A second book of the sample library, as its reader shows it. -/
theorem Requete.livreCreate_then_get_sample :
    ∃ shown, LivreController.show (Date.rfc3339 fun _ => "+00:00")
        ((Requete.livreCreate Value.newPersuasion).step Runtime.dev
          Base.sample).toTables 2 = ⟨200, shown⟩ ∧
      shown.field "titre" = some (.str "Persuasion") := by
  obtain ⟨day, categorie, named, auteurs, shown, entries, row, -, -, -, hshown, hshow, -⟩ :=
    @livreCreate_then_get (Date.rfc3339 fun _ => "+00:00") Runtime.dev Base.sample
      Value.newPersuasion LivreController.Body.persuasion 2
      ⟨rfl, rfl, rfl, rfl, rfl, rfl⟩ ⟨by decide, by decide, by decide⟩
      (by decide +kernel)
  refine ⟨shown, hshow, ?_⟩
  rw [hshown]
  rfl

end Bibliotheque
