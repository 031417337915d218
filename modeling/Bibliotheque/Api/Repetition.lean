import Bibliotheque.Api.ConcurrentRuns
import Bibliotheque.Api.Plans

/-!
# A request sent again

A client that got no answer sends its request once more.  An update gets the same
answer then and changes nothing, and a deletion is told that the row is unknown.  Of
a creation there are two rows, unless a unique index refuses the second.
-/

namespace Bibliotheque

open Program Bibliotheque.Action

/-! ## The clock

A client may wait before it sends its request again.  What is read from the clock are
dates that the parser takes relative to it, and the current day that a user gets for a
date that could not be read. -/

namespace Runtime.Later

variable {runtime later : Runtime}

theorem debug_eq (hlater : runtime.Later later) : later.debug = runtime.debug := by
  rw [hlater]

theorem toInt_eq (hlater : runtime.Later later) : later.toInt = runtime.toInt := by
  funext value
  rw [hlater]
  cases value <;> rfl

section Steps

variable {Row : Type} {table : Tables → Table Row} {value : Value} {connus : List ℕ}

theorem trouver_eq (hlater : runtime.Later later) {missing : Response}
    (suite : Base → ℕ → Tache) :
    Tache.trouver later table value missing suite =
      .trouver runtime table value missing suite := by
  rw [Tache.trouver, Tache.trouver, hlater.rowId_eq]

theorem rechercher_eq (hlater : runtime.Later later) (suite : Option Base → Option ℕ → Tache) :
    Tache.rechercher later table connus value suite =
      .rechercher runtime table connus value suite := by
  rw [Tache.rechercher, Tache.rechercher, hlater.rowId_eq]

theorem obtenir_eq (hlater : runtime.Later later) {sinon : Outcome}
    (suite : Option Base → ℕ → Tache) :
    Tache.obtenir later table connus value sinon suite =
      .obtenir runtime table connus value sinon suite :=
  hlater.rechercher_eq _

theorem lierSteps_eq (hlater : runtime.Later later) {collection : List ℕ}
    {suite : List ℕ → Tache} (items : List Value) : ∀ auteurs : List ℕ,
      LivreController.lierSteps later collection suite items auteurs =
        LivreController.lierSteps runtime collection suite items auteurs := by
  induction items with
  | nil => exact fun _ => rfl
  | cons item items ih =>
      intro auteurs
      simp only [LivreController.lierSteps, hlater.obtenir_eq, ih]

theorem collectionSteps_eq (hlater : runtime.Later later) {base : Base} {id : ℕ}
    {suite : Base → List ℕ → Tache} (items : List Value) :
    LivreController.collectionSteps later base id suite items =
      LivreController.collectionSteps runtime base id suite items := by
  cases items with
  | nil => rfl
  | cons item items =>
      simp only [LivreController.collectionSteps, hlater.obtenir_eq, hlater.lierSteps_eq]

end Steps

end Runtime.Later

namespace Ressource

/-- At both times the dates in the body are the same days. -/
def MemesDates (runtime later : Runtime) (data : Value) : Ressource → Prop
  | livre => ∀ given, data.field "dateSortie" = some given →
      later.newDateTime given = runtime.newDateTime given
  | adherent =>
      (∀ given, data.field "dateAdhesion" = some given →
        AdherentController.parseDate later DateTime.dmY given =
          AdherentController.parseDate runtime DateTime.dmY given) ∧
      ∀ given, data.field "dateNaiss" = some given →
        AdherentController.parseDate later DateTime.dmy given =
          AdherentController.parseDate runtime DateTime.dmy given
  | _ => True

theorem siPresent_congr {Out : Type} {value : Option Value}
    {read other : Value → Except Throwable Out}
    (hread : ∀ given, value = some given → read given = other given)
    (suite : Option Out → Tache) :
    Tache.siPresent value read suite = .siPresent value other suite := by
  cases value with
  | none => rfl
  | some given => rw [Tache.siPresent, Tache.siPresent, hread given rfl]

/-- With the same dates an update goes the same way at a later time. -/
theorem updateSteps_later {runtime later : Runtime} (hlater : runtime.Later later)
    {ressource : Ressource} {data : Value} (hdates : ressource.MemesDates runtime later data)
    (id : ℕ) : ressource.updateSteps later id data = ressource.updateSteps runtime id data := by
  cases ressource with
  | livre =>
      have hdate := fun suite => siPresent_congr hdates suite
      simp only [updateSteps, LivreController.updateSteps, LivreController.categorieSteps,
        LivreController.auteurIdsSteps, hlater.trouver_eq, hlater.obtenir_eq,
        hlater.collectionSteps_eq, hlater.debug_eq, hdate]
  | categorie => simp only [updateSteps, CategorieController.updateSteps, hlater.trouver_eq]
  | auteur =>
      simp only [updateSteps, AuteurController.updateSteps, AuteurController.parcourir,
        hlater.trouver_eq, hlater.debug_eq]
  | emprunt =>
      simp only [updateSteps, EmpruntController.updateSteps, hlater.trouver_eq,
        hlater.rechercher_eq]
  | reservations =>
      simp only [updateSteps, ReservationsController.updateTache, hlater.trouver_eq,
        hlater.obtenir_eq]
  | adherent =>
      have hdateAdhesion := fun suite => siPresent_congr hdates.1 suite
      have hdateNaiss := fun suite => siPresent_congr hdates.2 suite
      simp only [updateSteps, AdherentController.updateSteps, hlater.trouver_eq,
        hlater.toInt_eq, hdateAdhesion, hdateNaiss]

end Ressource

/-! ## Updates and deletions sent again -/

namespace Ressource

variable {runtime later : Runtime} {ressource : Ressource} {id : ℕ} {base : Base}
variable {auteurs : List ℕ} {rewrite : ressource.Contenu → ressource.Contenu}

/-- The change of a row made again is no change. -/
theorem reecrite_again (hrewrite : ∀ row, rewrite (rewrite row) = rewrite row)
    (hauteurs : ressource ≠ .livre → auteurs = [])
    (hid : id ∈ (ressource.table base.toTables).ids) {first : Base}
    (hfirst : first.toTables = ressource.reecrite base id rewrite
      (nouveaux base base ressource id auteurs)) :
    ressource.reecrite first id rewrite (nouveaux first first ressource id auteurs) =
      first.toTables := by
  have htable : ressource.table first.toTables =
      (ressource.table base.toTables).modify id rewrite := by
    rw [hfirst, table_reecrite_self]
  have hliens : nouveaux first first ressource id auteurs = [] := by
    apply List.eq_nil_iff_forall_not_mem.mpr
    intro link hlink
    have hmember : id ∈ (ressource.table first.toTables).ids := by
      rwa [htable, Table.ids_modify]
    obtain ⟨hlivre, hauteur, hnew⟩ := (mem_nouveaux_iff hauteurs hmember link).mp hlink
    apply hnew
    have hstored : link ∈ base.livreAuteur ++ nouveaux base base ressource id auteurs := by
      rw [List.mem_append, mem_nouveaux_iff hauteurs hid]
      by_cases hold : link ∈ base.livreAuteur
      · exact Or.inl hold
      · exact Or.inr ⟨hlivre, hauteur, hold⟩
    rw [hfirst]
    exact hstored
  apply tables_ext
  · intro other
    by_cases hother : other = ressource
    · subst hother
      calc other.table (other.reecrite first id rewrite _)
        _ = (other.table first.toTables).modify id rewrite := table_reecrite_self
        _ = (other.table base.toTables).modify id (rewrite ∘ rewrite) := by
            rw [htable, Table.modify_modify]
        _ = other.table first.toTables := by
            rw [htable, show rewrite ∘ rewrite = rewrite from funext hrewrite]
    · rw [table_reecrite_of_ne hother]
  · rw [hliens]
    exact List.append_nil _

theorem executer_later (hlater : runtime.Later later) {data : Value}
    (hdates : ressource.MemesDates runtime later data) (id : ℕ) (base : Base) :
    (ressource.update id data).executer later base =
      (ressource.update id data).executer runtime base := by
  calc (ressource.update id data).executer later base
    _ = (ressource.updateSteps later id data).seule base :=
        Client.executer_update ressource id data
    _ = (ressource.updateSteps runtime id data).seule base := by
        rw [updateSteps_later hlater hdates]
    _ = (ressource.update id data).executer runtime base :=
        (Client.executer_update ressource id data).symm

/-- An update that is sent again, now or later, gets the same answer and changes nothing,
if its dates are the same days at both times. -/
theorem update_again (hlater : runtime.Later later) {data : Value}
    (hdates : ressource.MemesDates runtime later data) (id : ℕ) (base : Base) :
    (ressource.update id data).executer later ((ressource.update id data).step runtime base) =
      (((ressource.update id data).executer runtime base).1,
        (ressource.update id data).step runtime base) := by
  obtain ⟨plan, hcorrect, hplan⟩ := exists_plan runtime ressource id data base
  have hfirst := hplan base (.refl base)
  rw [executer_later hlater hdates, Requete.step, hfirst]
  cases plan with
  | fin outcome => exact hfirst
  | ecriture rewrite auteurs response =>
      obtain ⟨hrewrite, hauteurs, hid⟩ := hcorrect
      rw [Plan.executer] at hfirst ⊢
      by_cases hvalid : (ressource.reecrite base id (ressource.store ∘ rewrite)
          (nouveaux base base ressource id auteurs)).Valid
      · simp only [dif_pos hvalid]
        have hagain := @reecrite_again ressource id base auteurs (ressource.store ∘ rewrite)
          hrewrite hauteurs hid ⟨_, hvalid⟩ rfl
        have htwice : (ressource.reecrite ⟨_, hvalid⟩ id (ressource.store ∘ rewrite)
            (nouveaux ⟨_, hvalid⟩ ⟨_, hvalid⟩ ressource id auteurs)).Valid := by
          rwa [hagain]
        rw [hplan _ (memeNumeros_reecrite hvalid), Plan.executer, dif_pos htwice]
        exact congrArg (Prod.mk _) (Ressource.eq_of_toTables hagain)
      · simp only [dif_neg hvalid] at hfirst ⊢
        exact hfirst

/-- The server of the samples on another day. -/
def autreJour : Runtime := { Runtime.dev with today := .autreSample }

/-- A date of birth with the year in two digits. -/
def neeEn90 : Value := .object [("dateNaiss", .str "09/02/90")]

theorem update_again_neeEn90 :
    Runtime.dev.Later autreJour ∧ MemesDates .dev autreJour neeEn90 .adherent ∧
      (update 1 neeEn90 .adherent).executer autreJour
          ((update 1 neeEn90 .adherent).step .dev Base.sample) =
        (((update 1 neeEn90 .adherent).executer .dev Base.sample).1,
          (update 1 neeEn90 .adherent).step .dev Base.sample) := by
  have hdates : MemesDates .dev autreJour neeEn90 .adherent := by
    refine ⟨fun given hgiven => (nomatch hgiven), fun given hgiven => ?_⟩
    cases hgiven
    rfl
  exact ⟨rfl, hdates,
    @update_again .dev autreJour .adherent rfl neeEn90 hdates 1 Base.sample⟩

/-- With the year in full the date is not read, and the current day is stored. -/
example : ¬ MemesDates .dev autreJour (.object [("dateNaiss", .str "09/02/1990")]) .adherent :=
  fun hdates => absurd (hdates.2 (.str "09/02/1990") rfl) (by decide)

/-- Every request for the number is told that there is no such row. -/
structure Inconnu (rendering : Rendering) (runtime : Runtime) (base : Base)
    (ressource : Ressource) (id : ℕ) : Prop where
  get : ∃ sent, ressource.get rendering runtime base id = .ok sent ∧ sent.status = 404
  update : ∀ data, (ressource.update id data).executer runtime base =
    (.response ressource.missing, base)
  delete : (ressource.delete id).executer runtime base = (.response ressource.missing, base)

theorem inconnu_of_not_mem (rendering : Rendering) (runtime : Runtime)
    (hmissing : id ∉ (ressource.table base.toTables).ids) :
    Inconnu rendering runtime base ressource id where
  get := by
    have hfind : (ressource.table base.toTables).find id = none :=
      Option.not_isSome_iff_eq_none.mp fun hfiled => hmissing ((base.filed_iff _ _).mp hfiled)
    cases ressource with
    | livre =>
        change base.livre.find id = none at hfind
        exact ⟨_, rfl, by rw [LivreController.show, hfind]⟩
    | categorie =>
        change base.categorie.find id = none at hfind
        exact ⟨_, rfl, by rw [CategorieController.show, hfind]⟩
    | auteur =>
        change base.auteur.find id = none at hfind
        exact ⟨_, rfl, by rw [AuteurController.show, hfind]⟩
    | emprunt =>
        change base.emprunt.find id = none at hfind
        exact ⟨_, rfl, by rw [EmpruntController.getById, hfind]⟩
    | reservations =>
        change base.reservations.find id = none at hfind
        exact ⟨_, rfl, by rw [ReservationsController.getById, hfind]⟩
    | adherent =>
        change base.utilisateur.find id = none at hfind
        exact ⟨missing .adherent, by rw [get, AdherentController.show, hfind]; rfl, rfl⟩
  update := by
    intro data
    calc (ressource.update id data).executer runtime base
      _ = (ressource.updateSteps runtime id data).seule base :=
          Client.executer_update ressource id data
      _ = (.response ressource.missing, base) := by
          cases ressource <;>
            exact Commande.seule_trouver_of_not_mem (runtime.rowId_int id) hmissing
  delete := by
    rw [Commande.executer_delete]
    exact Commande.seule_trouver_of_not_mem (runtime.rowId_int id) hmissing

/-- What leaves with a row was stored itself. -/
theorem filed_of_emporte {other : Ressource} {number : ℕ}
    (hfiled : (base.fonds.file ressource id).isSome)
    (hgone : number ∈ base.fonds.emporte ressource id other) :
    (base.fonds.file other number).isSome := by
  have hreached : ∀ {target : Ressource × ℕ},
      Relation.ReflTransGen base.fonds.Suit (ressource, id) target →
        (base.fonds.file target.1 target.2).isSome := by
    intro target hpath
    cases hpath with
    | refl => exact hfiled
    | tail _ hsuit => exact (Base.filed_of_suit hsuit).2
  exact hreached hgone

/-- After an accepted deletion its row and all that it took along stay unknown,
whatever is requested later. -/
theorem delete_forever (rendering : Rendering) {ressource other : Ressource} {id number : ℕ}
    (hsuccess : ((ressource.delete id).executer runtime base).1.Success)
    (hgone : number ∈ base.fonds.emporte ressource id other) (requetes : List Requete) :
    Inconnu rendering runtime
      (Run.run (Requete.step runtime) ((ressource.delete id).step runtime base) requetes)
      other number := by
  obtain ⟨entry, hentry, hstep⟩ := Requete.inscrit_of_success _ hsuccess
  have hremove : entry = .remove (base.fonds.emporte ressource id) := by
    cases ressource <;> exact (Option.some.inj hentry).symm
  subst hremove
  have hnone : ((ressource.delete id).step runtime base).fonds.file other number = none := by
    rw [hstep.file]
    exact if_pos hgone
  have hfiled : (base.fonds.file ressource id).isSome := by
    by_contra hmissing
    have hrefused := (inconnu_of_not_mem rendering runtime (mt (base.filed_iff _ _).mpr
      hmissing)).delete
    rw [hrefused] at hsuccess
    exact ressource.not_success_missing hsuccess
  have hissued : number ∈ ((ressource.delete id).step runtime base).fonds.issued other :=
    hstep.issued_mono (base.fonds.issued_of_filed _ _ (filed_of_emporte hfiled hgone))
  have hlast := (Requete.path_journal runtime requetes _).filed_of_issued hissued
  apply inconnu_of_not_mem
  rw [← Base.filed_iff]
  intro hfiled
  have hback := hlast hfiled
  rw [hnone] at hback
  exact Bool.false_ne_true hback

/-- The loan of the only book leaves with the category of the book. -/
theorem delete_forever_sample :
    ((delete 1 .categorie).executer .dev Base.sample).1.Success ∧
      1 ∈ Base.sample.fonds.emporte .categorie 1 .emprunt ∧
        Inconnu utc .dev (Run.run (Requete.step .dev)
          ((delete 1 .categorie).step .dev Base.sample) [.empruntUpdate 1 .null]) .emprunt 1 := by
  have hsuccess : ((delete 1 .categorie).executer .dev Base.sample).1.Success := by decide
  have hlivre : Base.sample.fonds.Suit (.categorie, 1) (.livre, 1) :=
    @Fonds.Suit.livre_categorie Base.sample.fonds 1 _ rfl
  have hemprunt : Base.sample.fonds.Suit (.livre, 1) (.emprunt, 1) :=
    @Fonds.Suit.emprunt_livre Base.sample.fonds 1 _ rfl
  have hgone : 1 ∈ Base.sample.fonds.emporte .categorie 1 .emprunt :=
    Relation.ReflTransGen.tail (.single hlivre) hemprunt
  exact ⟨hsuccess, hgone, delete_forever _ hsuccess hgone _⟩

end Ressource

/-! ## Creations sent again

The unique indexes refuse the second reservation of a book and the second user with an
email.  Of everything else there are two rows then. -/

theorem UtilisateurDraft.email_eq_of_row {draft : UtilisateurDraft} {row : Utilisateur}
    (hrow : draft.row = some row) : draft.email = some row.email := by
  obtain ⟨email, hemail, hrest⟩ := Option.bind_eq_some_iff.mp hrow
  simp only [Option.bind_eq_bind, Option.bind_eq_some_iff] at hrest
  obtain ⟨password, -, dateAdhesion, -, nom, -, prenom, -, dateNaiss, -, adressePostale, -,
    numTel, -, hrow⟩ := hrest
  cases hrow
  exact hemail

section Later

variable {runtime later : Runtime} {tables : Tables} {data : Value}

theorem LivreController.Describes.of_later {row : Livre} (hlater : runtime.Later later)
    (hdates : Ressource.livre.MemesDates runtime later data)
    (hrow : Describes runtime tables data row) : Describes later tables data row where
  titre := hrow.titre
  dateSortie := by
    obtain ⟨given, hgiven, htrue, hread⟩ := hrow.dateSortie
    exact ⟨given, hgiven, htrue, (hdates given hgiven).trans hread⟩
  langue := hrow.langue
  photoCouverture := hrow.photoCouverture
  categorie := by
    rw [hlater.rowId_eq]
    exact hrow.categorie
  categorie_mem := hrow.categorie_mem
  auteurs := by
    rw [hlater.rowId_eq, hlater.debug_eq]
    exact hrow.auteurs

theorem AuteurController.Describes.of_later {row : Auteur} (hlater : runtime.Later later)
    (hrow : Describes runtime data row) : Describes later data row where
  truthy := hrow.truthy
  nom := hrow.nom
  prenom := hrow.prenom
  dateNaiss := hrow.dateNaiss
  dateDeces := hrow.dateDeces
  nationalite := hrow.nationalite
  photo := hrow.photo
  description := hrow.description
  livres := by
    rw [hlater.rowId_eq, hlater.debug_eq]
    exact hrow.livres

theorem EmpruntController.Describes.of_later {row : Emprunt} (hlater : runtime.Later later)
    (hrow : Describes runtime tables data row) : Describes later tables data row where
  dateEmprunt := hrow.dateEmprunt
  dateRetour := hrow.dateRetour
  emprunteur := by
    rw [hlater.rowId_eq]
    exact hrow.emprunteur
  livre := by
    rw [hlater.rowId_eq]
    exact hrow.livre
  emprunteur_mem := hrow.emprunteur_mem
  livre_mem := hrow.livre_mem

theorem ReservationsController.decrit_later (hlater : runtime.Later later) (data : Value) :
    decrit later data = decrit runtime data := by
  rw [decrit, decrit, hlater.rowId_eq]

end Later

namespace Requete

variable {runtime later : Runtime} {base : Base} {requete again : Requete}
variable {ressource : Ressource}

/-- The same request; the hash of a password draws another salt. -/
def renvoyee (salt : ℕ) : Requete → Requete
  | adherentCreate _ data => adherentCreate salt data
  | requete => requete

/-- The second request files a row like the first one under the next number. -/
structure Redouble (runtime later : Runtime) (base : Base) (ressource : Ressource)
    (requete again : Requete) : Prop where
  success : (again.executer later (requete.step runtime base)).1.Success
  numero : (again.executer later (requete.step runtime base)).1.numero =
    (requete.executer runtime base).1.numero + 1
  row : (ressource.table (again.step later (requete.step runtime base)).toTables).find
      ((requete.executer runtime base).1.numero + 1) =
    (ressource.table (requete.step runtime base).toTables).find
      (requete.executer runtime base).1.numero
  filed : ((ressource.table (requete.step runtime base).toTables).find
    (requete.executer runtime base).1.numero).isSome

/-- Two creations that both insert the row. -/
theorem redouble_of_insert {row : ressource.Contenu} {first second : Base}
    {sent reply : Response}
    (hfirst : requete.executer runtime base = (.response sent, first))
    (hsecond : again.executer later first = (.response reply, second))
    (hstored : ressource.table first.toTables = (ressource.table base.toTables).insert row)
    (htwice : ressource.table second.toTables = (ressource.table first.toTables).insert row)
    (hnumero : (Outcome.response sent).numero = (ressource.table base.toTables).next)
    (hnext : (Outcome.response reply).numero = (ressource.table first.toTables).next)
    (hsuccess : (Outcome.response reply).Success) :
    Redouble runtime later base ressource requete again := by
  have hstep : requete.step runtime base = first := congrArg Prod.snd hfirst
  have hagain : again.step later first = second := congrArg Prod.snd hsecond
  have hcounter : (ressource.table first.toTables).next =
      (ressource.table base.toTables).next + 1 := by
    rw [hstored]
    rfl
  have hrow : (ressource.table first.toTables).find (ressource.table base.toTables).next =
      some row := by
    rw [hstored, Table.find_insert_next]
  constructor
  · rw [hstep, hsecond]
    exact hsuccess
  · rw [hstep, hsecond, hfirst, hnumero, hnext, hcounter]
  · rw [hstep, hagain, hfirst, hnumero, hrow, htwice, ← hcounter, Table.find_insert_next]
  · rw [hstep, hfirst, hnumero, hrow]
    rfl

theorem redouble_livreCreate (hlater : runtime.Later later) {data : Value}
    (hdates : Ressource.livre.MemesDates runtime later data)
    (hsuccess : ((livreCreate data).executer runtime base).1.Success) :
    Redouble runtime later base .livre (livreCreate data) (livreCreate data) := by
  obtain ⟨row, hrow, hvalid, hfirst⟩ := LivreController.exists_created hsuccess
  have hfits := hrow.valid_created_iff.mp hvalid
  have hagain : LivreController.Describes runtime
      (LivreController.created runtime base data row.store) data row :=
    ⟨hrow.titre, hrow.dateSortie, hrow.langue, hrow.photoCouverture, hrow.categorie,
      hrow.categorie_mem, hrow.auteurs⟩
  have hsecond := @LivreController.Describes.serve_create later
    ⟨LivreController.created runtime base data row.store, hvalid⟩ data row
    (hagain.of_later hlater hdates) hfits
  exact @redouble_of_insert runtime later base _ _ .livre row.store _ _ _ _ hfirst hsecond rfl rfl
    rfl rfl (Outcome.success_of_status (by decide))

theorem redouble_categorieCreate {data : Value}
    (hsuccess : ((categorieCreate data).executer runtime base).1.Success) :
    Redouble runtime later base .categorie (categorieCreate data) (categorieCreate data) := by
  obtain ⟨hconverts, row, hrow, hvalid, hfirst⟩ := passed_of_success
    CategorieController.refuses_create (fun _ => CategorieController.completes_create_iff)
    hsuccess
  have hfits := CategorieController.valid_created_iff.mp hvalid
  have hagain := @CategorieController.valid_created_iff
    ⟨CategorieController.created base row.store, hvalid⟩ row.store
  have hsecond := serve_of_wp ((@CategorieController.completes_create_iff
    ⟨CategorieController.created base row.store, hvalid⟩ data fun sent final =>
      sent = _ ∧ final = _).mpr ⟨hconverts, row, hrow, hagain.mpr hfits, rfl, rfl⟩)
  exact @redouble_of_insert runtime later base _ _ .categorie row.store _ _ _ _ hfirst hsecond rfl
    rfl rfl rfl (Outcome.success_of_status (by decide))

theorem redouble_empruntCreate (hlater : runtime.Later later) {data : Value}
    (hsuccess : ((empruntCreate data).executer runtime base).1.Success) :
    Redouble runtime later base .emprunt (empruntCreate data) (empruntCreate data) := by
  obtain ⟨row, hrow, hvalid, hfirst⟩ := passed_of_success EmpruntController.refuses_create
    (fun _ => EmpruntController.completes_create_iff) hsuccess
  have hfits := hrow.valid_created_iff.mp hvalid
  have hagain : EmpruntController.Describes runtime
      (EmpruntController.created base row) data row :=
    ⟨hrow.dateEmprunt, hrow.dateRetour, hrow.emprunteur, hrow.livre, hrow.emprunteur_mem,
      hrow.livre_mem⟩
  have htwice := (@EmpruntController.Describes.valid_created_iff runtime
    ⟨EmpruntController.created base row, hvalid⟩ data row hagain).mpr hfits
  have hsecond := @EmpruntController.Describes.serve_create later
    ⟨EmpruntController.created base row, hvalid⟩ data row (hagain.of_later hlater) htwice
  exact @redouble_of_insert runtime later base _ _ .emprunt row _ _ _ _ hfirst hsecond rfl rfl rfl
    rfl (Outcome.success_of_status (by decide))

theorem redouble_auteurCreate (hlater : runtime.Later later) {data : Value}
    (hsuccess : ((auteurCreate data).executer runtime base).1.Success) :
    Redouble runtime later base .auteur (auteurCreate data) (auteurCreate data) := by
  obtain ⟨row, hrow, hvalid, hfirst⟩ := passed_of_success AuteurController.refuses_create
    (fun _ => AuteurController.completes_create_iff) hsuccess
  have hfits := AuteurController.valid_created_iff.mp hvalid
  have hsecond := @AuteurController.Describes.serve_create later
    ⟨AuteurController.created runtime base data row.store, hvalid⟩ data row (hrow.of_later hlater)
    hfits
  exact @redouble_of_insert runtime later base _ _ .auteur row.store _ _ _ _ hfirst hsecond rfl rfl
    rfl rfl (Outcome.success_of_status (by decide))

/-- The book has a reservation by now. -/
theorem not_success_reservationsCreate_again (hlater : runtime.Later later) {data : Value}
    (hsuccess : ((reservationsCreate data).executer runtime base).1.Success) :
    ¬ ((reservationsCreate data).executer later
      ((reservationsCreate data).step runtime base)).1.Success := by
  obtain ⟨row, hrow, hvalid, hfirst⟩ := passed_of_success
    ReservationsController.refuses_create
    (fun _ => ReservationsController.completes_create_iff) hsuccess
  have hstep : (reservationsCreate data).step runtime base =
      ⟨ReservationsController.created base row, hvalid⟩ := congrArg Prod.snd hfirst
  rw [hstep]
  intro hagain
  obtain ⟨other, hother, htwice, -⟩ := passed_of_success
    ReservationsController.refuses_create
    (fun _ => ReservationsController.completes_create_iff) hagain
  have hsame : some row = some other := by
    rw [← hrow.decrit_eq, ← hother.decrit_eq, ReservationsController.decrit_later hlater]
  cases hsame
  have hfree := ReservationsController.free_of_valid_created htwice
  have hstored : (base.reservations.next, row) ∈
      (ReservationsController.created base row).reservations.rows := by
    simp [ReservationsController.created]
  exact (hfree _ hstored (by simp)).1 rfl

/-- The email is taken by now, whatever the salt of the second hash. -/
theorem not_success_adherentCreate_again {data : Value} {salt other : ℕ}
    (hsuccess : ((adherentCreate salt data).executer runtime base).1.Success) :
    ¬ ((adherentCreate other data).executer later
      ((adherentCreate salt data).step runtime base)).1.Success := by
  obtain ⟨-, row, hrow, hvalid, hfirst⟩ := passed_of_success AdherentController.refuses_create
    (fun _ => AdherentController.completes_create_iff) hsuccess
  have hstep : (adherentCreate salt data).step runtime base =
      ⟨AdherentController.created base row.store, hvalid⟩ := congrArg Prod.snd hfirst
  rw [hstep]
  intro hagain
  obtain ⟨-, second, hsecond, htwice, -⟩ := passed_of_success
    AdherentController.refuses_create
    (fun _ => AdherentController.completes_create_iff) hagain
  have hemail : row.email = second.email :=
    Option.some.inj ((UtilisateurDraft.email_eq_of_row hrow).symm.trans
      (@UtilisateurDraft.email_eq_of_row (AdherentController.draft later other data) _ hsecond))
  have hold : (base.utilisateur.next, row.store) ∈ (base.utilisateur.insert row.store).rows := by
    simp
  have hstored : (base.utilisateur.next, row.store) ∈ (AdherentController.created
      ⟨AdherentController.created base row.store, hvalid⟩ second.store).utilisateur.rows :=
    Table.mem_rows_insert.mpr (Or.inl hold)
  have hnew : (base.utilisateur.next + 1, second.store) ∈ (AdherentController.created
      ⟨AdherentController.created base row.store, hvalid⟩ second.store).utilisateur.rows :=
    Table.mem_rows_insert.mpr (Or.inr rfl)
  have hsame := List.inj_on_of_nodup_map htwice.email_unique hstored hnew
    (congrArg (Varchar.store 180) hemail)
  exact absurd (congrArg Prod.fst hsame) (by simp)

/-- A creation that was accepted and is sent again, now or later: a reservation or a user is
refused and every row stays as it is; of anything else there are two equal rows under
consecutive numbers, if the date of a book is the same day at both times. -/
theorem create_again (hlater : runtime.Later later) (hcree : requete.cree = some ressource)
    (hdates : ∀ data, requete = livreCreate data →
      Ressource.livre.MemesDates runtime later data)
    (hsuccess : (requete.executer runtime base).1.Success) (salt : ℕ) :
    if ressource = .reservations ∨ ressource = .adherent then
      ¬ ((requete.renvoyee salt).executer later (requete.step runtime base)).1.Success ∧
        ((requete.renvoyee salt).step later (requete.step runtime base)).SameRows
          (requete.step runtime base).toTables
    else Redouble runtime later base ressource requete (requete.renvoyee salt) := by
  cases requete with
  | livreCreate data =>
      cases hcree
      exact redouble_livreCreate hlater (hdates data rfl) hsuccess
  | categorieCreate data =>
      cases hcree
      exact redouble_categorieCreate hsuccess
  | auteurCreate data =>
      cases hcree
      exact redouble_auteurCreate hlater hsuccess
  | empruntCreate data =>
      cases hcree
      exact redouble_empruntCreate hlater hsuccess
  | reservationsCreate data =>
      cases hcree
      have hrefused := not_success_reservationsCreate_again hlater hsuccess
      exact ⟨hrefused, (skipped_of_refused _ _ _ hrefused).sameRows⟩
  | adherentCreate first data =>
      cases hcree
      have hrefused := @not_success_adherentCreate_again runtime later base data first salt
        hsuccess
      exact ⟨hrefused, (skipped_of_refused _ _ _ hrefused).sameRows⟩
  | _ => cases hcree

/-- The category `Poésie`. -/
def poesie : Requete :=
  categorieCreate (.object [("nom", .str "Poésie"), ("description", .str "")])

theorem create_again_poesie :
    Runtime.dev.Later Ressource.autreJour ∧ poesie.cree = some .categorie ∧
      (poesie.executer .dev Base.sample).1.Success ∧
        Redouble .dev Ressource.autreJour Base.sample .categorie poesie (poesie.renvoyee 0) := by
  have hsuccess : (poesie.executer .dev Base.sample).1.Success := by decide
  have hagain := @create_again .dev Ressource.autreJour Base.sample poesie .categorie rfl rfl
    (fun _ hlivre => nomatch hlivre) hsuccess 0
  rw [if_neg (by decide)] at hagain
  exact ⟨rfl, rfl, hsuccess, hagain⟩

end Requete

end Bibliotheque
