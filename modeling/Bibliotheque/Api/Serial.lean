import Bibliotheque.Api.Commandes
import Bibliotheque.Api.StaleReads

/-!
# A request whose reads are old

A request that creates or deletes reads the database at some moments and flushes
at a later one.  If the server accepts the flush, the request alone at the moment
of the flush would have done the same, whatever was created and deleted since its
reads.  Only its answer can differ: a deletion whose row has left meanwhile still
answers success.
-/

namespace Bibliotheque

open Bibliotheque.Action

/-! ## A creation that read an old state -/

namespace LivreController

theorem auteurs_addAuteurs_of_ne {livre other : Ref} (hother : other ≠ livre) :
    ∀ (auteurs : List ℕ) (liens : Liens Ref Ref),
      (addAuteurs livre auteurs liens).auteurs other = liens.auteurs other := by
  intro auteurs
  induction auteurs with
  | nil => exact fun _ => rfl
  | cons auteur auteurs ih =>
      intro liens
      change (addAuteurs livre auteurs (liens.addAuteur livre (.managed auteur))).auteurs
        other = _
      rw [ih, Liens.addAuteur_eq]
      split
      · rfl
      · simp only [Liens.linkAuteurs]
        split
        · rfl
        · exact Function.update_of_ne hother _ _

/-- The collection of one book only depends on what it was. -/
theorem auteurs_addAuteurs_congr {livre : Ref} :
    ∀ (auteurs : List ℕ) {left right : Liens Ref Ref},
      left.auteurs livre = right.auteurs livre →
        (addAuteurs livre auteurs left).auteurs livre =
          (addAuteurs livre auteurs right).auteurs livre := by
  intro auteurs
  induction auteurs with
  | nil => exact fun hsame => hsame
  | cons auteur auteurs ih =>
      intro left right hsame
      refine ih ?_
      dsimp only
      rw [Liens.addAuteur_eq, Liens.addAuteur_eq]
      by_cases hmember : Ref.managed auteur ∈ left.auteurs livre
      · rw [if_pos hmember, if_pos (hsame ▸ hmember), hsame]
      · have hother : Ref.managed auteur ∉ right.auteurs livre := hsame ▸ hmember
        simp [Liens.linkAuteurs, hother, hsame]

/-- The links of a new book, whatever else was read. -/
theorem newLinks_linking (read current : Base) (auteurs : List ℕ) (persisted : Option Entity)
    (number : ℕ) :
    Session.newLinks { Session.start read with
        base := current
        liens := addAuteurs .fresh auteurs read.liens
        persisted := persisted } number =
      ((addAuteurs .fresh auteurs Liens.vide).auteurs .fresh).map
        fun auteur => (number, auteur.number number) := by
  have hmanaged : ∀ livre ∈ read.livre.ids.map Ref.managed,
      (((addAuteurs .fresh auteurs read.liens).auteurs livre).filter
        (· ∉ read.liens.auteurs livre)).map
          (fun auteur => (livre.number number, auteur.number number)) = [] := by
    intro livre hlivre
    obtain ⟨id, -, rfl⟩ := List.mem_map.mp hlivre
    rw [auteurs_addAuteurs_of_ne (by simp)]
    simp
  have hfresh := auteurs_addAuteurs_congr auteurs
    (show read.liens.auteurs .fresh = (Liens.vide : Liens Ref Ref).auteurs .fresh from rfl)
  change (read.livre.ids.map Ref.managed ++ [Ref.fresh]).flatMap (fun livre =>
    (((addAuteurs .fresh auteurs read.liens).auteurs livre).filter
      (· ∉ read.liens.auteurs livre)).map
        fun auteur => (livre.number number, auteur.number number)) = _
  rw [List.flatMap_append, List.flatMap_eq_nil_iff.mpr hmanaged, List.nil_append,
    List.flatMap_singleton, ← hfresh]
  congr 1
  exact List.filter_eq_self.mpr fun _ _ => by simp [Tables.liens]

end LivreController

/-- The statements of a creation do not depend on the state that was read. -/
theorem Session.commit_linking (read current : Base) (auteurs : List ℕ) (entity : Entity) :
    commit { start read with
        base := current
        liens := LivreController.addAuteurs .fresh auteurs read.liens
        persisted := some entity } =
      commit { start current with
        liens := LivreController.addAuteurs .fresh auteurs current.liens
        persisted := some entity } := by
  have hwritten : ∀ base : Base,
      Tables.write base.toTables base.toTables current.toTables = current.toTables :=
    fun base => Tables.write_unchanged base.toTables current.toTables
  have hlinks : ∀ base : Base, ∀ number, newLinks { start base with
      base := current
      liens := LivreController.addAuteurs .fresh auteurs base.liens
      persisted := some entity } number =
        ((LivreController.addAuteurs .fresh auteurs Liens.vide).auteurs .fresh).map
          fun auteur => (number, auteur.number number) :=
    fun base number => LivreController.newLinks_linking base current auteurs _ number
  have hcurrent := hlinks current
  change ∀ number, newLinks { start current with
    liens := LivreController.addAuteurs .fresh auteurs current.liens
    persisted := some entity } number = _ at hcurrent
  simp only [commit, hlinks read, hcurrent]
  simp only [start, hwritten]

/-- The statements of a deletion that was planned on an old state. -/
theorem Session.eq_of_commit_removed {read current : Base} {removed : List Ligne}
    {tables : Tables} {fresh : ℕ}
    (hcommit : commit { start read with base := current, removed := removed } =
      .ok (tables, fresh)) : tables = current.without removed := by
  have hupdated : updated { start read with base := current, removed := removed } =
      current.toTables := by
    have hlinks : newLinks { start read with base := current, removed := removed } 0 = [] :=
      newLinks_eq_nil rfl 0
    simp only [updated, hlinks, List.append_nil]
    exact Tables.write_unchanged read.toTables current.toTables
  rw [commit_of_not_persisted rfl, hupdated] at hcommit
  cases hdeleted : current.executeDeletions (Tables.commitOrder removed) with
  | error throwable =>
      simp only [hdeleted] at hcommit
      cases hcommit
  | ok deleted =>
      simp only [hdeleted] at hcommit
      cases hcommit
      rw [Tables.eq_without_of_executeDeletions hdeleted]
      exact Tables.mem_without_iff_of_perm (Tables.mem_commitOrder removed)

/-! ## Requests that are as good as alone -/

/-- The resource of a new row. -/
def Entity.ressource : Entity → Ressource
  | livre _ => .livre
  | auteur _ => .auteur
  | categorie _ => .categorie
  | emprunt _ => .emprunt
  | reservations _ => .reservations
  | utilisateur _ => .adherent

theorem flush_eq_ok_iff {session final : Session} :
    flush session = .ok () final ↔
      ∃ (tables : Tables) (fresh : ℕ) (hvalid : tables.store.Valid),
        session.commit = .ok (tables, fresh) ∧
          final = { Session.start ⟨tables.store, hvalid⟩ with insertId := fresh } := by
  unfold flush
  cases session.commit with
  | error throwable => simp
  | ok result =>
      obtain ⟨tables, fresh⟩ := result
      by_cases hvalid : tables.store.Valid
      · simp only [hvalid, ↓reduceDIte, EStateM.Result.ok.injEq, true_and, Except.ok.injEq,
          Prod.mk.injEq]
        constructor
        · rintro rfl
          exact ⟨tables, fresh, hvalid, ⟨rfl, rfl⟩, rfl⟩
        · rintro ⟨_, _, _, ⟨rfl, rfl⟩, rfl⟩
          rfl
      · simp only [hvalid, ↓reduceDIte, reduceCtorEq, Except.ok.injEq, Prod.mk.injEq,
          false_iff, not_exists, not_and]
        rintro _ _ hother ⟨rfl, rfl⟩
        exact absurd hother hvalid

namespace Commande

variable {runtime : Runtime} {commande : Commande} {avant apres base : Base}
variable {permis : Base → Base → Prop}

/-- The request is a deletion that is told its row is unknown. -/
def Perdue (commande : Commande) (outcome : Outcome) : Prop :=
  ∃ ressource id, commande = delete ressource id ∧ outcome = .response ressource.missing

/-- The flush of a request did to `base` what the request alone does, and `outcome`
is the answer to give. -/
structure Accord (runtime : Runtime) (commande : Commande) (base final : Base)
    (outcome : Outcome) : Prop where
  success : outcome.Success
  state : commande.requete.step runtime base = final
  answer : outcome = (commande.requete.executer runtime base).1 ∨
    commande.Perdue (commande.requete.executer runtime base).1

/-- What is left of a request that read states no later than `avant` ends without
success, or its flush agrees with the request alone at that moment and inserts nothing
but the row to create.  The database changes meanwhile as `permis` says. -/
def Serie (permis : Base → Base → Prop) (runtime : Runtime) (commande : Commande) :
    Base → Tache → Prop
  | _, .terminee outcome => ¬ outcome.Success
  | avant, .lecture suite =>
      ∀ base, permis avant base → Serie permis runtime commande base (suite base)
  | avant, .ecriture session answer =>
      (∀ entity ∈ session.persisted, commande.requete.cree = some entity.ressource) ∧
        ∀ base, permis avant base → ∀ final, flush { session with base := base } =
          .ok () final → commande.Accord runtime base final.base (.response (answer final))

theorem Serie.mono [IsTrans Base permis] {tache : Tache}
    (hserie : commande.Serie permis runtime avant tache) (hdevient : permis avant apres) :
    commande.Serie permis runtime apres tache := by
  cases tache with
  | terminee outcome => exact hserie
  | lecture suite => exact fun base hbase => hserie base (IsTrans.trans _ _ _ hdevient hbase)
  | ecriture session answer =>
      exact hserie.imp_right fun hserie base hbase =>
        hserie base (IsTrans.trans _ _ _ hdevient hbase)

/-! ### Reads -/

theorem serie_refus {status : ℕ} {body : Value} (hstatus : 300 ≤ status) :
    commande.Serie permis runtime avant (.terminee (.response ⟨status, body⟩)) :=
  not_success_of_le hstatus body

theorem serie_php {Out : Type} {result : Except Throwable Out} {suite : Out → Tache}
    (hsuite : ∀ out, result = .ok out → commande.Serie permis runtime avant (suite out)) :
    commande.Serie permis runtime avant (.php result suite) := by
  cases result with
  | error throwable => exact not_success_thrown throwable
  | ok out => exact hsuite out rfl

theorem serie_siPresent {Out : Type} {value : Option Value}
    {read : Value → Except Throwable Out} {suite : Option Out → Tache}
    (hsuite : ∀ out, (∀ {alone}, (Tache.siPresent value read alone) = alone out) →
      commande.Serie permis runtime avant (suite out)) :
    commande.Serie permis runtime avant (.siPresent value read suite) := by
  cases value with
  | none => exact hsuite none rfl
  | some given =>
      refine serie_php fun out hread => hsuite (some out) ?_
      intro alone
      rw [Tache.siPresent, hread]
      rfl

theorem serie_chercher {Row : Type} {table : Tables → Table Row} {id : Value}
    {suite : Base → Option ℕ → Tache}
    (hsuite : ∀ base, permis avant base → ∀ number, runtime.rowId id = .ok number →
      commande.Serie permis runtime base
        (suite base (number.filter fun id => id ∈ (table base.toTables).ids))) :
    commande.Serie permis runtime avant (.chercher runtime table id suite) :=
  fun base hbase => serie_php fun number hnumber => hsuite base hbase number hnumber

theorem serie_trouver {Row : Type} {table : Tables → Table Row} {id : Value}
    {missing : Response} {suite : Base → ℕ → Tache}
    (hmissing : ¬ (Outcome.response missing).Success)
    (hsuite : ∀ base, permis avant base → ∀ number, runtime.rowId id = .ok (some number) →
      number ∈ (table base.toTables).ids → commande.Serie permis runtime base (suite base number)) :
    commande.Serie permis runtime avant (.trouver runtime table id missing suite) := by
  intro base hbase
  cases hrow : runtime.rowId id with
  | error throwable => exact not_success_thrown throwable
  | ok number =>
      cases hfound : number.filter fun id => id ∈ (table base.toTables).ids with
      | none =>
          simp only [hfound]
          exact hmissing
      | some found =>
          obtain ⟨hnumber, hmember⟩ := Option.filter_eq_some_iff.mp hfound
          simp only [hfound]
          exact hsuite base hbase found (by rw [hrow, hnumber]) (by simpa using hmember)

/-- What the unit of work has is not read again. -/
theorem serie_rechercher [IsPreorder Base permis] {Row : Type} {table : Tables → Table Row}
    {connus : List ℕ} {id : Value} {suite : Option Base → Option ℕ → Tache}
    (hsuite : ∀ base, permis avant base → ∀ lu found,
      (∀ number ∈ found, runtime.rowId id = .ok (some number)) →
        commande.Serie permis runtime base (suite lu found)) :
    commande.Serie permis runtime avant (.rechercher runtime table connus id suite) := by
  refine serie_php fun number hnumber => ?_
  split
  · exact hsuite avant (refl_of permis avant) none number fun found hfound => by
      rw [hnumber, Option.mem_def.mp hfound]
  · refine fun base hbase => hsuite base hbase (some base) _ fun found hfound => ?_
    rw [hnumber, (Option.filter_eq_some_iff.mp hfound).1]

theorem serie_obtenir [IsPreorder Base permis] {Row : Type} {table : Tables → Table Row}
    {connus : List ℕ} {id : Value} {sinon : Outcome} {suite : Option Base → ℕ → Tache}
    (hsinon : ¬ sinon.Success)
    (hsuite : ∀ base, permis avant base → ∀ lu number,
      runtime.rowId id = .ok (some number) →
        commande.Serie permis runtime base (suite lu number)) :
    commande.Serie permis runtime avant (.obtenir runtime table connus id sinon suite) := by
  refine serie_rechercher fun base hbase lu found hfound => ?_
  cases found with
  | none => exact hsinon
  | some number => exact hsuite base hbase lu number (hfound number rfl)

/-! ### Creations -/

theorem seule_ecriture_of_ok {session final : Session} {answer : Session → Response}
    (hflush : flush { session with base := base } = .ok () final) :
    (Tache.ecriture session answer).seule base = (.response (answer final), final.base) := by
  rw [Tache.seule, hflush]

/-- A flush agrees if the request alone gets to one with the same statements. -/
theorem serie_ecriture {session : Session} {answer : Session → Response}
    (hcree : ∀ entity ∈ session.persisted, commande.requete.cree = some entity.ressource)
    (hsuccess : ∀ final, (Outcome.response (answer final)).Success)
    (halone : ∀ base, permis avant base → ∀ tables fresh, tables.store.Valid →
      Session.commit { session with base := base } = .ok (tables, fresh) →
        ∃ other : Session, Session.commit { other with base := base } = .ok (tables, fresh) ∧
          commande.requete.executer runtime base =
            (Tache.ecriture other answer).seule base) :
    commande.Serie permis runtime avant (.ecriture session answer) := by
  refine ⟨hcree, fun base hbase final hflush => ?_⟩
  obtain ⟨tables, fresh, hvalid, hcommit, rfl⟩ := flush_eq_ok_iff.mp hflush
  obtain ⟨other, hother, hseule⟩ := halone base hbase tables fresh hvalid hcommit
  have hsame := flush_eq_ok_iff.mpr ⟨tables, fresh, hvalid, hother, rfl⟩
  have hexecuter : commande.requete.executer runtime base =
      (.response (answer { Session.start ⟨tables.store, hvalid⟩ with insertId := fresh }),
        ⟨tables.store, hvalid⟩) := by
    rw [hseule]
    exact seule_ecriture_of_ok hsame
  refine ⟨hsuccess _, ?_, Or.inl ?_⟩
  · rw [Requete.step, hexecuter]
    rfl
  · rw [hexecuter]

/-- The same for a creation: its statements are those of the request that only
now reads what it needs. -/
theorem serie_creation {read : Base} {auteurs : List ℕ} {entity : Entity}
    {answer : Session → Response} (hcree : commande.requete.cree = some entity.ressource)
    (hsuccess : ∀ final, (Outcome.response (answer final)).Success)
    (halone : ∀ base, permis avant base → ∀ tables fresh, tables.store.Valid →
      Session.commit { Session.start base with
        liens := LivreController.addAuteurs .fresh auteurs base.liens
        persisted := some entity } = .ok (tables, fresh) →
      commande.requete.executer runtime base = (Tache.ecriture { Session.start base with
        liens := LivreController.addAuteurs .fresh auteurs base.liens
        persisted := some entity } answer).seule base) :
    commande.Serie permis runtime avant (.ecriture { Session.start read with
      liens := LivreController.addAuteurs .fresh auteurs read.liens
      persisted := some entity } answer) := by
  have hentity : ∀ other ∈ some entity, commande.requete.cree = some other.ressource :=
    fun other hother => Option.some.inj hother ▸ hcree
  refine serie_ecriture hentity hsuccess fun base hbase tables fresh hvalid hcommit => ?_
  have hlinking := Session.commit_linking read base auteurs entity
  have hnow := hlinking.symm.trans hcommit
  exact ⟨{ Session.start base with
    liens := LivreController.addAuteurs .fresh auteurs base.liens
    persisted := some entity }, hnow, halone base hbase tables fresh hvalid hnow⟩

/-- `find` of a row that is there. -/
theorem seule_trouver {Row : Type} {table : Tables → Table Row} {id : Value}
    {missing : Response} {suite : Base → ℕ → Tache} {number : ℕ}
    (hrow : runtime.rowId id = .ok (some number))
    (hmember : number ∈ (table base.toTables).ids) :
    (Tache.trouver runtime table id missing suite).seule base =
      (suite base number).seule base := by
  have hfilter : (some number).filter (fun id => id ∈ (table base.toTables).ids) =
      some number := by
    simp [hmember]
  simp only [Tache.trouver, Tache.seule, hrow, hfilter]

theorem seule_trouver_of_not_mem {Row : Type} {table : Tables → Table Row} {id : Value}
    {missing : Response} {suite : Base → ℕ → Tache} {number : ℕ}
    (hrow : runtime.rowId id = .ok (some number))
    (hmember : number ∉ (table base.toTables).ids) :
    (Tache.trouver runtime table id missing suite).seule base = (.response missing, base) := by
  have hfilter : (some number).filter (fun id => id ∈ (table base.toTables).ids) = none := by
    simp [hmember]
  simp only [Tache.trouver, Tache.seule, hrow, hfilter]

theorem seule_chercher {Row : Type} {table : Tables → Table Row} {id : Value}
    {suite : Base → Option ℕ → Tache} {number : ℕ}
    (hrow : runtime.rowId id = .ok (some number))
    (hmember : number ∈ (table base.toTables).ids) :
    (Tache.chercher runtime table id suite).seule base =
      (suite base (some number)).seule base := by
  have hfilter : (some number).filter (fun id => id ∈ (table base.toTables).ids) =
      some number := by
    simp [hmember]
  simp only [Tache.chercher, Tache.seule, Tache.php, hrow, hfilter]

theorem seule_rechercher {Row : Type} {table : Tables → Table Row} {connus : List ℕ}
    {id : Value} {suite : Option Base → Option ℕ → Tache} {number : ℕ} {fin : Outcome × Base}
    (hrow : runtime.rowId id = .ok (some number))
    (hmember : number ∈ (table base.toTables).ids)
    (hsuite : ∀ lu, (suite lu (some number)).seule base = fin) :
    (Tache.rechercher runtime table connus id suite).seule base = fin := by
  have hfilter : (some number).filter (fun id => id ∈ (table base.toTables).ids) =
      some number := by
    simp [hmember]
  rw [Tache.rechercher, hrow, Tache.php]
  split
  · exact hsuite none
  · rw [Tache.seule, hfilter]
    exact hsuite (some base)

theorem seule_obtenir {Row : Type} {table : Tables → Table Row} {connus : List ℕ}
    {id : Value} {sinon : Outcome} {suite : Option Base → ℕ → Tache} {number : ℕ}
    {fin : Outcome × Base} (hrow : runtime.rowId id = .ok (some number))
    (hmember : number ∈ (table base.toTables).ids)
    (hsuite : ∀ lu, (suite lu number).seule base = fin) :
    (Tache.obtenir runtime table connus id sinon suite).seule base = fin :=
  seule_rechercher hrow hmember hsuite

theorem serie_categorieCreate (data : Value) :
    (categorieCreate data).Serie permis runtime avant (CategorieController.createSteps data) := by
  refine serie_php fun nom hnom => serie_php fun description hdescription => ?_
  intro read _
  refine @serie_creation runtime _ read permis read [] _ _ rfl
    (fun _ => Outcome.success_of_status (by simp)) fun base _ _ _ _ _ => ?_
  refine (serve_categorieCreate data).trans ?_
  rw [CategorieController.createSteps, hnom, hdescription]
  rfl

theorem serie_adherentCreate (salt : ℕ) (data : Value) :
    (adherentCreate salt data).Serie permis runtime avant
      (AdherentController.createSteps runtime salt data) := by
  refine serie_siPresent fun dateAdhesion hdateAdhesion => ?_
  refine serie_siPresent fun nom hnom => serie_siPresent fun prenom hprenom => ?_
  refine serie_siPresent fun dateNaiss hdateNaiss => serie_siPresent fun email hemail => ?_
  refine serie_siPresent fun adressePostale hadressePostale => ?_
  refine serie_siPresent fun numTel hnumTel => serie_siPresent fun photo hphoto => ?_
  refine serie_siPresent fun roles hroles => serie_siPresent fun password hpassword => ?_
  intro read _
  refine @serie_creation runtime _ read permis read [] _ _ rfl
    (fun _ => Outcome.success_of_status (by simp)) fun base _ _ _ _ _ => ?_
  refine (serve_adherentCreate salt data).trans ?_
  rw [AdherentController.createSteps, hdateAdhesion, hnom, hprenom, hdateNaiss, hemail,
    hadressePostale, hnumTel, hphoto, hroles, hpassword]
  rfl

/-- The server accepts a reservation only for a book and a user that are there. -/
theorem mem_of_valid_insert {row : Reservations}
    (hvalid : (ReservationsController.created base row).store.Valid) :
    row.livre ∈ base.livre.ids ∧ row.reservateur ∈ base.utilisateur.ids := by
  have hnew := Table.mem_rows_insert.mpr (Or.inr (Eq.refl (base.reservations.next, row)))
  constructor
  · simpa [Tables.store, ReservationsController.created] using
      hvalid.reservations_livre _ hnew
  · simpa [Tables.store, ReservationsController.created] using
      hvalid.reservations_reservateur _ hnew

theorem serie_reservationsCreate [IsPreorder Base permis] (data : Value) :
    (reservationsCreate data).Serie permis runtime avant
      (ReservationsController.createTache runtime data) := by
  unfold ReservationsController.createTache
  dsimp only
  split
  · exact serie_refus (by decide)
  · rename_i hpresent
    refine serie_php fun dateResa hdate => ?_
    cases dateResa with
    | none => exact serie_refus (by decide)
    | some dateResa =>
        refine serie_trouver (by decide) fun read _ reservateur hreservateur _ => ?_
        refine serie_obtenir (by decide) fun _ _ _ livre hlivre => ?_
        refine @serie_creation runtime _ _ permis read [] _ _ rfl
          (fun _ => Outcome.success_of_status (by simp))
          fun base _ tables fresh hvalid hcommit => ?_
        cases (@ReservationsController.commit_creating base
          ⟨dateResa, livre, reservateur⟩).symm.trans hcommit
        obtain ⟨hlivreMem, hreservateurMem⟩ := mem_of_valid_insert hvalid
        refine (serve_reservationsCreate data).trans ?_
        rw [ReservationsController.createTache]
        simp only [if_neg hpresent, hdate, Tache.php]
        rw [seule_trouver hreservateur hreservateurMem]
        exact seule_obtenir hlivre hlivreMem fun _ => rfl

theorem serie_empruntCreate [IsPreorder Base permis] (data : Value) :
    (empruntCreate data).Serie permis runtime avant
      (EmpruntController.createSteps runtime data) := by
  unfold EmpruntController.createSteps
  dsimp only
  split
  · exact serie_refus (by decide)
  · rename_i hpresent
    refine serie_php fun dateEmprunt hdateEmprunt => ?_
    refine serie_php fun dateRetour hdateRetour => ?_
    cases dateEmprunt with
    | none => exact serie_refus (by decide)
    | some dateEmprunt =>
        cases dateRetour with
        | none => exact serie_refus (by decide)
        | some dateRetour =>
            refine serie_chercher fun read _ emprunteur hemprunteur => ?_
            refine serie_rechercher fun _ _ _ livre hlivre => ?_
            cases hemprunteurFound : emprunteur.filter
              fun id => id ∈ read.utilisateur.ids with
            | none => exact serie_refus (by decide)
            | some emprunteurId =>
                cases livre with
                | none => exact serie_refus (by decide)
                | some livreId =>
                    obtain ⟨rfl, -⟩ := Option.filter_eq_some_iff.mp hemprunteurFound
                    refine @serie_creation runtime _ _ permis read [] _ _ rfl
                      (fun _ => Outcome.success_of_status (by simp))
                      fun base _ tables fresh hvalid hcommit => ?_
                    cases (@EmpruntController.commit_creating base
                      ⟨dateEmprunt, some dateRetour, emprunteurId, livreId⟩).symm.trans
                        hcommit
                    have hnew := Table.mem_rows_insert.mpr (Or.inr (Eq.refl
                      (base.emprunt.next,
                        (⟨dateEmprunt, some dateRetour, emprunteurId, livreId⟩ : Emprunt))))
                    have hemprunteurMem : emprunteurId ∈ base.utilisateur.ids := by
                      simpa [Tables.store, EmpruntController.created] using
                        hvalid.emprunt_emprunteur _ hnew
                    have hlivreMem : livreId ∈ base.livre.ids := by
                      simpa [Tables.store, EmpruntController.created] using
                        hvalid.emprunt_livre _ hnew
                    refine (serve_empruntCreate data).trans ?_
                    rw [EmpruntController.createSteps]
                    simp only [if_neg hpresent, hdateEmprunt, hdateRetour, Tache.php]
                    rw [seule_chercher hemprunteur hemprunteurMem]
                    exact seule_rechercher (hlivre livreId rfl) hlivreMem fun _ => rfl

/-- The items of the loop name these authors. -/
def Designe (runtime : Runtime) : List Value → List ℕ → Prop :=
  List.Forall₂ fun item auteur => runtime.rowId item = .ok (some auteur)

theorem serie_auteursSteps [IsPreorder Base permis] {suite : List ℕ → Tache} :
    ∀ {items : List Value} {auteurs : List ℕ} {avant : Base},
      (∀ named, Designe runtime items named → ∀ base, permis avant base →
        commande.Serie permis runtime base (suite (auteurs ++ named))) →
      commande.Serie permis runtime avant
        (LivreController.auteursSteps runtime suite items auteurs) := by
  intro items
  induction items with
  | nil =>
      intro auteurs avant hsuite
      have hend := hsuite [] .nil avant (Std.Refl.refl avant)
      rwa [List.append_nil] at hend
  | cons item items ih =>
      intro auteurs avant hsuite
      refine serie_obtenir (by decide) fun read hread _ auteur hauteur => ih ?_
      intro named hnamed base hbase
      have hend := hsuite (auteur :: named) (.cons hauteur hnamed) base
        (IsTrans.trans _ _ _ hread hbase)
      rwa [List.append_cons] at hend

theorem seule_auteursSteps {suite : List ℕ → Tache} {items : List Value} {named : List ℕ}
    (hnamed : Designe runtime items named) :
    ∀ {auteurs : List ℕ}, (∀ auteur ∈ named, auteur ∈ base.auteur.ids) →
      (LivreController.auteursSteps runtime suite items auteurs).seule base =
        (suite (auteurs ++ named)).seule base := by
  induction hnamed with
  | nil =>
      intro auteurs _
      rw [List.append_nil]
      rfl
  | @cons item auteur items named hauteur _ ih =>
      intro auteurs hmembers
      rw [LivreController.auteursSteps, List.append_cons]
      exact seule_obtenir hauteur (hmembers auteur List.mem_cons_self) fun _ =>
        ih fun other hother => hmembers other (List.mem_cons_of_mem _ hother)

/-- The server accepts a new book only if its category and its authors are there. -/
theorem mem_of_commit_creatingWith {row : Livre} {auteurs : List ℕ} {tables : Tables}
    {fresh : ℕ} (hvalid : tables.store.Valid)
    (hcommit : (LivreController.creatingWith base row auteurs).commit =
      .ok (tables, fresh)) :
    row.categorie ∈ base.categorie.ids ∧
      ∀ auteur ∈ auteurs, auteur ∈ base.auteur.ids := by
  have hinsert : (LivreController.newLivre row).insert base.toTables =
      some ({ base.toTables with livre := base.livre.insert row }, base.livre.next) := rfl
  have hcreated := (Session.commit_persisted base
    (LivreController.addAuteurs .fresh auteurs base.liens) hinsert).symm.trans hcommit
  cases hcreated
  have hnew : (base.livre.next, row.store) ∈ ((base.livre.insert row).map Livre.store).rows :=
    List.mem_map.mpr ⟨_, Table.mem_rows_insert.mpr (Or.inr rfl), rfl⟩
  have hcategorie : row.categorie ∈ (base.categorie.map Categorie.store).ids :=
    hvalid.livre_categorie _ hnew
  refine ⟨by simpa using hcategorie, fun auteur hauteur => ?_⟩
  have hlink : (base.livre.next, auteur) ∈
      (LivreController.creatingWith base row auteurs).newLinks base.livre.next := by
    refine (Session.mem_newLinks_iff _ _ _).mpr
      ⟨.fresh, .managed auteur, Or.inl rfl, ⟨?_, ?_⟩, rfl⟩
    · exact (LivreController.mem_auteurs_addAuteurs _ _ _ _ _).mpr
        (Or.inr ⟨rfl, auteur, hauteur, rfl⟩)
    · exact List.not_mem_nil
  have hstored := hvalid.livreAuteur_auteur _ (List.mem_append_right _ hlink)
  simpa [Tables.store] using hstored

theorem serie_livreCreate [IsPreorder Base permis] (data : Value) :
    (livreCreate data).Serie permis runtime avant (LivreController.createSteps runtime data) := by
  unfold LivreController.createSteps
  dsimp only
  split
  · exact serie_refus (by decide)
  · rename_i hpresent
    refine serie_php fun titre htitre => serie_php fun dateSortie hdateSortie => ?_
    refine serie_php fun langue hlangue => serie_php fun photoCouverture hphoto => ?_
    refine serie_trouver (by decide) fun read _ categorie hcategorie _ => ?_
    have hcreation : ∀ items auteurs, ∀ avant : Base,
        ((data.field "auteurIds").getD (.arr [])).elements = some items ∧
            Designe runtime items auteurs ∨
          ((data.field "auteurIds").getD (.arr [])).elements = none ∧
            runtime.debug = false ∧ auteurs = [] →
        (livreCreate data).Serie permis runtime avant (.ecriture
          (LivreController.creatingWith read
            ⟨titre, dateSortie, langue, photoCouverture, categorie⟩ auteurs)
          fun final => ⟨201, .object [("message", .str "Livre created"),
            ("id", .int final.insertId)]⟩) := by
      intro items auteurs avant hauteurs
      refine serie_creation rfl (fun _ => Outcome.success_of_status (by simp))
        fun base _ tables fresh hvalid hcommit => ?_
      obtain ⟨hcategorieMem, hauteursMem⟩ := @mem_of_commit_creatingWith base
        ⟨titre, dateSortie, langue, photoCouverture, categorie⟩ auteurs _ _ hvalid hcommit
      refine (serve_livreCreate data).trans ?_
      rw [LivreController.createSteps]
      simp only [if_neg hpresent, htitre, hdateSortie, hlangue, hphoto, Tache.php]
      rw [seule_trouver hcategorie hcategorieMem]
      rcases hauteurs with ⟨helements, hnamed⟩ | ⟨helements, hdebug, rfl⟩
      · simp only [helements]
        exact seule_auteursSteps hnamed hauteursMem
      · simp only [helements, hdebug]
        rfl
    cases helements : ((data.field "auteurIds").getD (.arr [])).elements with
    | some items =>
        exact serie_auteursSteps fun named hnamed base _ =>
          hcreation items named base (Or.inl ⟨helements, hnamed⟩)
    | none =>
        dsimp only
        split
        · exact not_success_thrown _
        · rename_i hdebug
          exact hcreation [] [] read
            (Or.inr ⟨helements, by simpa using hdebug, rfl⟩)

/-! ### Deletions -/

theorem modifie_requete (commande : Commande) : commande.requete.modifie = none := by
  cases commande with
  | delete ressource id => cases ressource <;> rfl
  | _ => rfl

/-- The flush of a removal whose walk met earlier states. -/
theorem serie_vus {ressource : Ressource} {id : ℕ} {lus : List Base} {marche : Marche}
    (hfondee : marche.Fondee lus (ressource.ligne id)) (hpile : marche.pile = [])
    (hlus : ∀ lu ∈ lus, lu.Devient avant) (read : Base) :
    (delete ressource id).Serie Base.Devient runtime avant (.ecriture
      { Session.start read with removed := marche.vus } fun _ => ressource.deleted) := by
  refine ⟨fun _ hentity => (nomatch hentity), fun base hbase final hflush => ?_⟩
  obtain ⟨tables, fresh, hvalid, hcommit, rfl⟩ := flush_eq_ok_iff.mp hflush
  cases Session.eq_of_commit_removed hcommit
  have hstored := base.valid.store_without marche.vus
  have hearlier : ∀ lu ∈ lus, lu.Devient base := fun lu hlu => (hlus lu hlu).trans hbase
  by_cases hnow : ressource.ligne id ∈ base.lignes
  · obtain ⟨now, hwalk⟩ := Tables.exists_removed base.valid hnow
    have hsame := Base.without_vus_eq hfondee hearlier hpile (hstored ▸ hvalid) hwalk
    have hexecuter : (delete ressource id).requete.executer runtime base =
        (.response ressource.deleted, ⟨(base.without marche.vus).store, hvalid⟩) := by
      have hplan : flush { Session.start base with removed := now } = .ok ()
          { Session.start ⟨(base.without marche.vus).store, hvalid⟩ with insertId := 0 } :=
        flush_eq_ok_iff.mpr ⟨_, 0, hvalid, by rw [Session.commit_remove base hwalk, hsame],
          rfl⟩
      refine (executer_delete ressource id).trans ?_
      rw [deleteSteps, seule_trouver (runtime.rowId_int id)
        ((Ressource.mem_lignes_ligne _ _ _).mp hnow)]
      simp only [hwalk]
      exact @seule_ecriture_of_ok base { Session.start base with removed := now } _ _ hplan
    refine ⟨ressource.success_deleted, ?_, Or.inl ?_⟩
    · rw [Requete.step, hexecuter]
      rfl
    · rw [hexecuter]
  · have hself := Base.without_vus_eq_self hfondee hearlier hnow
    have hexecuter : (delete ressource id).requete.executer runtime base =
        (.response ressource.missing, base) := by
      refine (executer_delete ressource id).trans ?_
      rw [deleteSteps, seule_trouver_of_not_mem (runtime.rowId_int id)
        fun hmem => hnow ((Ressource.mem_lignes_ligne _ _ _).mpr hmem)]
    refine ⟨ressource.success_deleted, ?_, Or.inr ⟨ressource, id, rfl, ?_⟩⟩
    · rw [Requete.step, hexecuter]
      exact Ressource.eq_of_toTables (hself.symm.trans hstored.symm)
    · rw [hexecuter]

/-! ### Every request -/

/-- What is left of a request goes on as if it had only started now. -/
def EnOrdre (runtime : Runtime) (commande : Commande) (avant : Base) : Processus → Prop
  | .tache reste => commande.Serie Base.Devient runtime avant reste
  | .suppression ressource id => commande = delete ressource id
  | .marche ressource etat => ∃ id lus, commande = delete ressource id ∧
      etat.Fondee lus (ressource.ligne id) ∧ ∀ lu ∈ lus, lu.Devient avant

theorem enOrdre_steps (runtime : Runtime) (commande : Commande) (base : Base) :
    commande.EnOrdre runtime base (commande.steps runtime) := by
  cases commande with
  | livreCreate data => exact serie_livreCreate data
  | categorieCreate data => exact serie_categorieCreate data
  | empruntCreate data => exact serie_empruntCreate data
  | reservationsCreate data => exact serie_reservationsCreate data
  | adherentCreate salt data => exact serie_adherentCreate salt data
  | delete ressource id => rfl

theorem EnOrdre.mono {processus : Processus}
    (hordre : commande.EnOrdre runtime avant processus) (hdevient : avant.Devient apres) :
    commande.EnOrdre runtime apres processus := by
  cases processus with
  | tache reste => exact Serie.mono hordre hdevient
  | suppression ressource id => exact hordre
  | marche ressource etat =>
      obtain ⟨id, lus, hdelete, hfondee, hlus⟩ := hordre
      exact ⟨id, lus, hdelete, hfondee, fun lu hlu => (hlus lu hlu).trans hdevient⟩

/-- One step of a removal before its flush. -/
theorem EnOrdre.avancer_marche {ressource : Ressource} {etat : Marche}
    (hordre : commande.EnOrdre runtime base (.marche ressource etat)) :
    commande.EnOrdre runtime base ((Processus.marche ressource etat).avancer base).1 := by
  obtain ⟨id, lus, rfl, hfondee, hlus⟩ := hordre
  rw [Processus.avancer]
  split
  · rename_i hpile
    exact serie_vus hfondee (List.isEmpty_iff.mp hpile) hlus base
  · cases havancer : etat.avancer base.toTables with
    | none => exact not_success_thrown _
    | some suivante =>
        refine ⟨id, lus ++ [base], rfl, hfondee.avancer havancer, fun lu hlu => ?_⟩
        rcases List.mem_append.mp hlu with hold | hnew
        · exact hlus lu hold
        · rw [List.mem_singleton.mp hnew]
          exact .refl base

theorem EnOrdre.avancer_suppression {ressource : Ressource} {id : ℕ}
    (hordre : commande.EnOrdre runtime base (.suppression ressource id)) :
    commande.EnOrdre runtime base ((Processus.suppression ressource id).avancer base).1 := by
  cases hordre
  rw [Processus.avancer]
  split
  · rename_i hid
    have hligne := (Ressource.mem_lignes_ligne base.toTables ressource id).mpr hid
    refine ⟨id, [base], rfl, Marche.fondee_debut hligne, fun lu hlu => ?_⟩
    rw [List.mem_singleton.mp hlu]
    exact .refl base
  · exact ressource.not_success_missing

end Commande

end Bibliotheque
