import Bibliotheque.Api.Concurrence

/-!
# What an update is going to do

The steps of an update only ask which numbers are in use, and what the unit of work has
is among them.  As long as the numbers are the same, whatever else others do between its
reads, it ends with the same answer, or it comes to the flush of the same change of its
row with the same authors.
-/

namespace Bibliotheque

open Program Bibliotheque.Action

/-- In both databases the same numbers are in use. -/
def Base.MemeNumeros (base other : Base) : Prop :=
  ∀ ressource : Ressource,
    (ressource.table base.toTables).ids = (ressource.table other.toTables).ids

namespace Base.MemeNumeros

variable {base other last : Base}

theorem refl (base : Base) : base.MemeNumeros base := fun _ => rfl

theorem symm (hsame : base.MemeNumeros other) : other.MemeNumeros base :=
  fun ressource => (hsame ressource).symm

theorem trans (hfirst : base.MemeNumeros other) (hsecond : other.MemeNumeros last) :
    base.MemeNumeros last :=
  fun ressource => (hfirst ressource).trans (hsecond ressource)

end Base.MemeNumeros

/-- The session of an update at its flush: the row was read from `lu` and the authors
of a book from `charge`. -/
def Ressource.reecriture (lu charge : Base) (ressource : Ressource) (id : ℕ) (data : Value)
    (relu rewrite : ressource.Contenu → ressource.Contenu) (auteurs : List ℕ) : Session :=
  let session := ressource.modifiant lu id data relu rewrite
  { session with
    loaded := { session.loaded with livreAuteur := charge.livreAuteur }
    liens := LivreController.addAuteurs (.managed id) auteurs charge.liens }

/-- An update ends before its flush, or it flushes a change of its row. -/
inductive Plan (ressource : Ressource) where
  | fin (outcome : Outcome)
  | ecriture (rewrite : ressource.Contenu → ressource.Contenu) (auteurs : List ℕ)
      (response : Response)

/-- The row is there, a change that is stored twice is that change, and only a book gets
authors. -/
def Plan.Correct {ressource : Ressource} (base : Base) (id : ℕ) : Plan ressource → Prop
  | fin _ => True
  | ecriture rewrite auteurs _ =>
      (∀ row, ressource.store (rewrite (ressource.store (rewrite row))) =
        ressource.store (rewrite row)) ∧
      (ressource ≠ .livre → auteurs = []) ∧ id ∈ (ressource.table base.toTables).ids

/-- If every read meets one of these states, the request does what is planned. -/
def Tache.Realise {ressource : Ressource} (permis : Base → Prop) (id : ℕ) (data : Value)
    (plan : Plan ressource) : Tache → Prop
  | terminee outcome => plan = .fin outcome
  | lecture suite => ∀ base, permis base → (suite base).Realise permis id data plan
  | ecriture session answer => ∃ lu charge relu rewrite auteurs response,
      permis lu ∧ permis charge ∧
        (∀ row, (ressource.table lu.toTables).find id = some row → relu row = row) ∧
          plan = .ecriture rewrite auteurs response ∧
            session = ressource.reecriture lu charge id data relu rewrite auteurs ∧
              answer = fun _ => response

/-- In these states the numbers of `base` are in use.  Reservations are only planned for
one state, since the `SELECT` of another one may change them. -/
structure Tranquille (ressource : Ressource) (base : Base) (permis : Base → Prop) : Prop where
  numeros : ∀ other, permis other → base.MemeNumeros other
  seul : ressource = .reservations → ∀ lu other, permis lu → permis other → lu = other

/-- There is one plan for all runs on such states, whatever the request has `lu`. -/
def Convergent {Lu : Type} (ressource : Ressource) (id : ℕ) (data : Value) (base : Base)
    (lu : (Base → Prop) → Lu → Prop) (tache : Lu → Tache) : Prop :=
  ∃ plan : Plan ressource, plan.Correct base id ∧
    ∀ permis, Tranquille ressource base permis → ∀ read, lu permis read →
      (tache read).Realise permis id data plan

namespace Convergent

variable {runtime : Runtime} {ressource : Ressource} {id : ℕ} {data : Value} {base : Base}
variable {Lu Moins : Type} {lu : (Base → Prop) → Lu → Prop}

theorem terminee (outcome : Outcome) :
    Convergent ressource id data base lu fun _ => .terminee outcome :=
  ⟨.fin outcome, trivial, fun _ _ _ _ => rfl⟩

/-- Some of what was read may be forgotten. -/
theorem oublier {moins : (Base → Prop) → Moins → Prop} {tache : Moins → Tache}
    (reduire : Lu → Moins) (hreduire : ∀ permis read, lu permis read →
      moins permis (reduire read)) (htache : Convergent ressource id data base moins tache) :
    Convergent ressource id data base lu fun read => tache (reduire read) := by
  obtain ⟨plan, hcorrect, hrealise⟩ := htache
  exact ⟨plan, hcorrect, fun permis hpermis read hread =>
    hrealise permis hpermis (reduire read) (hreduire permis read hread)⟩

theorem php {Out : Type} {result : Except Throwable Out} {suite : Lu → Out → Tache}
    (hsuite : ∀ out, result = .ok out →
      Convergent ressource id data base lu fun read => suite read out) :
    Convergent ressource id data base lu fun read => .php result (suite read) := by
  cases result with
  | error throwable => exact terminee (.thrown throwable)
  | ok out => exact hsuite out rfl

theorem siPresent {Out : Type} {value : Option Value} {read : Value → Except Throwable Out}
    {suite : Lu → Option Out → Tache}
    (hsuite : ∀ out, Convergent ressource id data base lu fun read => suite read out) :
    Convergent ressource id data base lu fun before => .siPresent value read (suite before) := by
  cases value with
  | none => exact hsuite none
  | some given => exact php fun out _ => hsuite (some out)

/-! ### Reads -/

/-- The read that loads the authors. -/
theorem charger {suite : Lu → Base → Tache}
    (hsuite : Convergent ressource id data base
      (fun permis (read : Lu × Base) => lu permis read.1 ∧ permis read.2)
      fun read => suite read.1 read.2) :
    Convergent ressource id data base lu fun read => .lecture (suite read) := by
  obtain ⟨plan, hcorrect, hrealise⟩ := hsuite
  exact ⟨plan, hcorrect, fun permis hpermis read hread other hother =>
    hrealise permis hpermis (read, other) ⟨hread, hother⟩⟩

/-- A state that a `find` has met, if it has read one. -/
def Apres (lu : (Base → Prop) → Lu → Prop) (permis : Base → Prop) (read : Lu × Option Base) :
    Prop :=
  lu permis read.1 ∧ ∀ other ∈ read.2, permis other

/-- What is known is in use, so a `find` finds what it would read. -/
theorem rechercher (source : Ressource) {value : Value} {connus : Lu → List ℕ}
    {suite : Lu → Option Base → Option ℕ → Tache}
    (hconnus : ∀ permis, Tranquille ressource base permis → ∀ read, lu permis read →
      ∀ number ∈ connus read, number ∈ (source.table base.toTables).ids)
    (hsuite : ∀ found, (∀ number ∈ found, number ∈ (source.table base.toTables).ids) →
      Convergent ressource id data base (Apres lu) fun read => suite read.1 read.2 found) :
    Convergent ressource id data base lu fun read =>
      .rechercher runtime (fun tables => source.table tables) (connus read) value
        (suite read) := by
  unfold Tache.rechercher
  refine php fun number _ => ?_
  obtain ⟨plan, hcorrect, hrealise⟩ := hsuite
    (number.filter fun id => id ∈ (source.table base.toTables).ids)
    fun found hfound => by simpa using (Option.filter_eq_some_iff.mp hfound).2
  refine ⟨plan, hcorrect, fun permis hpermis read hread => ?_⟩
  by_cases hconnu : number.any (Tache.connu (connus read) value)
  · dsimp only
    rw [if_pos hconnu]
    obtain ⟨known, rfl, hknown⟩ := (Option.any_eq_true _ _).mp hconnu
    have hused := hconnus permis hpermis read hread known (of_decide_eq_true hknown).1
    have hfound := hrealise permis hpermis (read, none) ⟨hread, fun _ hother => nomatch hother⟩
    rwa [Option.filter_some, if_pos (by simpa using hused)] at hfound
  · dsimp only
    rw [if_neg hconnu]
    intro other hother
    have hread' := hrealise permis hpermis (read, some other)
      ⟨hread, fun state hstate => by cases hstate; exact hother⟩
    rwa [hpermis.numeros other hother source] at hread'

theorem obtenir (source : Ressource) {value : Value} {connus : Lu → List ℕ} {sinon : Outcome}
    {suite : Lu → Option Base → ℕ → Tache}
    (hconnus : ∀ permis, Tranquille ressource base permis → ∀ read, lu permis read →
      ∀ number ∈ connus read, number ∈ (source.table base.toTables).ids)
    (hsuite : ∀ number, number ∈ (source.table base.toTables).ids →
      Convergent ressource id data base (Apres lu) fun read => suite read.1 read.2 number) :
    Convergent ressource id data base lu fun read =>
      .obtenir runtime (fun tables => source.table tables) (connus read) value sinon
        (suite read) := by
  refine rechercher source hconnus fun found hfound => ?_
  cases found with
  | none => exact terminee sinon
  | some number => exact hsuite number (hfound number rfl)

/-- `find` with the number in the path; the row it finds is managed from now on. -/
theorem findPath {missing : Response} {suite : Base → ℕ → Tache}
    (hsuite : id ∈ (ressource.table base.toTables).ids →
      Convergent ressource id data base (fun permis read => permis read)
        fun read => suite read id) :
    Convergent ressource id data base (fun _ (_ : Unit) => True) fun _ =>
      .trouver runtime (fun tables => ressource.table tables) (.int id) missing suite := by
  have hrow := runtime.rowId_int id
  by_cases hid : id ∈ (ressource.table base.toTables).ids
  · obtain ⟨plan, hcorrect, hrealise⟩ := hsuite hid
    refine ⟨plan, hcorrect, fun permis hpermis _ _ other hother => ?_⟩
    have hfound : (some id).filter (fun id => id ∈ (ressource.table other.toTables).ids) =
        some id := by
      rw [← hpermis.numeros other hother ressource]
      simp [hid]
    simp only [hrow, hfound]
    exact hrealise permis hpermis other hother
  · refine ⟨.fin (.response missing), trivial, fun permis hpermis _ _ other hother => ?_⟩
    have hnone : (some id).filter (fun id => id ∈ (ressource.table other.toTables).ids) =
        none := by
      rw [← hpermis.numeros other hother ressource]
      simp [hid]
    simp only [hrow, hnone]
    rfl

/-! ### The flush -/

/-- The end of every update but that of a book. -/
theorem modifiant {relu : Lu → ressource.Contenu → ressource.Contenu} {read : Lu → Base}
    {rewrite : ressource.Contenu → ressource.Contenu} {response : Response}
    (hid : id ∈ (ressource.table base.toTables).ids)
    (hrewrite : ∀ row, ressource.store (rewrite (ressource.store (rewrite row))) =
      ressource.store (rewrite row))
    (hread : ∀ permis before, lu permis before → permis (read before))
    (hrelu : ∀ permis, Tranquille ressource base permis → ∀ before, lu permis before →
      ∀ row, (ressource.table (read before).toTables).find id = some row →
        relu before row = row) :
    Convergent ressource id data base lu fun before =>
      .ecriture (ressource.modifiant (read before) id data (relu before) rewrite)
        fun _ => response := by
  refine ⟨.ecriture rewrite [] response, ⟨hrewrite, fun _ => rfl, hid⟩,
    fun permis hpermis before hbefore => ?_⟩
  have hpermitted := hread permis before hbefore
  refine ⟨read before, read before, relu before, rewrite, [], response, hpermitted, hpermitted,
    hrelu permis hpermis before hbefore, rfl, ?_, rfl⟩
  cases ressource <;> rfl

/-! ### The loops of a book -/

section Livre

variable {suite : Base → Base → List ℕ → Tache}

/-- The book and its collection were read. -/
def Charge (permis : Base → Prop) (read : Base × Base) : Prop :=
  permis read.1 ∧ permis read.2

theorem lierSteps {read : Lu → Base} {suite : Lu → List ℕ → Tache} {number : ℕ}
    (hread : ∀ permis before, lu permis before → permis (read before))
    (hsuite : ∀ auteurs, Convergent ressource id data base lu fun before => suite before auteurs) :
    ∀ (items : List Value) (auteurs : List ℕ), (∀ auteur ∈ auteurs, auteur ∈ base.auteur.ids) →
      Convergent ressource id data base lu fun before =>
        LivreController.lierSteps runtime
          (((read before).livreAuteur.filter (·.1 = number)).map Prod.snd)
          (suite before) items auteurs := by
  intro items
  induction items with
  | nil => exact fun auteurs _ => hsuite auteurs
  | cons item items ih =>
      intro auteurs hauteurs
      refine obtenir .auteur (fun permis hpermis before hbefore auteur hauteur => ?_)
        fun auteur hauteur => ?_
      · rcases List.mem_append.mp hauteur with hlinked | hfound
        · obtain ⟨link, hlink, rfl⟩ := List.mem_map.mp hlinked
          rw [hpermis.numeros _ (hread permis before hbefore) .auteur]
          exact (read before).valid.livreAuteur_auteur link (List.mem_of_mem_filter hlink)
        · exact hauteurs auteur hfound
      · exact oublier Prod.fst (fun _ _ hbefore => hbefore.1) (ih (auteurs ++ [auteur])
          (List.forall_mem_append.mpr ⟨hauteurs, List.forall_mem_singleton.mpr hauteur⟩))

theorem auteurIdsSteps
    (hsuite : ∀ auteurs, Convergent ressource id data base Charge
      fun read => suite read.1 read.2 auteurs) :
    Convergent ressource id data base (fun permis read => permis read) fun read =>
      LivreController.auteurIdsSteps runtime read id data (suite read) := by
  have hnone : Convergent ressource id data base (fun permis read => permis read)
      fun read => suite read read [] :=
    oublier (fun read => (read, read)) (fun _ _ hread => ⟨hread, hread⟩) (hsuite [])
  unfold LivreController.auteurIdsSteps
  cases data.field "auteurIds" with
  | none => exact hnone
  | some auteurIds =>
      dsimp only
      cases auteurIds.elements with
      | some items =>
          cases items with
          | nil => exact hnone
          | cons item items =>
              refine obtenir .auteur
                (fun _ _ _ _ _ hauteur => absurd hauteur List.not_mem_nil)
                fun auteur hauteur => charger ?_
              have hloop := @lierSteps runtime ressource id data base _ Charge Prod.snd
                (fun read => suite read.1 read.2) id (fun _ _ hread => hread.2) hsuite items
                [auteur] (List.forall_mem_singleton.mpr hauteur)
              exact oublier (fun read : (Base × Option Base) × Base => (read.1.1, read.2))
                (fun _ _ hread => ⟨hread.1.1, hread.2⟩) hloop
      | none =>
          dsimp only
          split
          · exact terminee _
          · exact hnone

theorem categorieSteps {suite : Base → Option ℕ → Tache} {number : ℕ}
    (hsuite : ∀ categorie, Convergent ressource id data base (fun permis read => permis read)
      fun read => suite read categorie) :
    Convergent ressource id data base (fun permis read => permis read) fun read =>
      LivreController.categorieSteps runtime read number data (suite read) := by
  unfold LivreController.categorieSteps
  cases data.field "categorieId" with
  | none => exact hsuite none
  | some categorieId =>
      refine obtenir .categorie (fun permis hpermis read hread categorie hconnu => ?_)
        fun categorie _ => oublier Prod.fst (fun _ _ hread => hread.1) (hsuite (some categorie))
      rw [hpermis.numeros read hread .categorie]
      exact Table.mem_ids_of_lie read.valid.livre_categorie hconnu

end Livre

/-! ### The handlers -/

/-- A column that is set and stored twice. -/
theorem store_getD {Out : Type} {garde : Out → Out} (hgarde : ∀ out, garde (garde out) = garde out)
    (value : Option Out) (old : Out) :
    garde (value.getD (garde (value.getD old))) = garde (value.getD old) := by
  cases value with
  | none => exact hgarde old
  | some out => rfl

/-- A column that is stored as it is. -/
theorem getD_getD {Out : Type} (value : Option Out) (old : Out) :
    value.getD (value.getD old) = value.getD old :=
  @store_getD Out id (fun _ => rfl) value old

theorem empruntUpdate (runtime : Runtime) (id : ℕ) (data : Value) (base : Base) :
    Convergent .emprunt id data base (fun _ (_ : Unit) => True) fun _ =>
      EmpruntController.updateSteps runtime id data := by
  refine @findPath runtime .emprunt id data base _ _ fun hid => ?_
  dsimp only
  split
  · exact terminee _
  · refine php fun dateEmprunt _ => php fun dateRetour _ => ?_
    cases dateEmprunt with
    | none => exact terminee _
    | some dateEmprunt =>
        cases dateRetour with
        | none => exact terminee _
        | some dateRetour =>
            refine rechercher .adherent (fun permis hpermis read hread number hconnu => ?_)
              fun emprunteur _ => ?_
            · rw [hpermis.numeros read hread .adherent]
              exact Table.mem_ids_of_lie read.valid.emprunt_emprunteur hconnu
            refine rechercher .livre (fun permis hpermis read hread number hconnu => ?_)
              fun livre _ => ?_
            · rcases List.mem_append.mp hconnu with hown | hjoint
              · rw [hpermis.numeros read.1 hread.1 .livre]
                exact Table.mem_ids_of_lie read.1.valid.emprunt_livre hown
              · obtain ⟨other, hother, hjoint⟩ := List.mem_flatMap.mp hjoint
                obtain ⟨reservateur, -, hmember⟩ := List.mem_flatMap.mp hjoint
                rw [hpermis.numeros other (hread.2 other (Option.mem_toList.mp hother)) .livre]
                exact Base.livre_of_mem_joints hmember
            cases emprunteur with
            | none => exact terminee _
            | some emprunteur =>
                cases livre with
                | none => exact terminee _
                | some livre =>
                    exact modifiant hid (fun _ => rfl) (fun _ _ hread => hread.1.1)
                      fun _ _ _ _ _ _ => rfl

/-- A reservation is only planned for one state, so what was loaded as the other side of
a user or a book is the reservation as it was read. -/
theorem reservationsUpdate (runtime : Runtime) (id : ℕ) (data : Value) (base : Base) :
    Convergent .reservations id data base (fun _ (_ : Unit) => True) fun _ =>
      ReservationsController.updateTache runtime id data := by
  refine @findPath runtime .reservations id data base _ _ fun hid => ?_
  dsimp only
  split
  · exact terminee _
  · refine php fun dateResa _ => ?_
    cases dateResa with
    | none => exact terminee _
    | some dateResa =>
        refine obtenir .adherent (fun permis hpermis read hread number hconnu => ?_)
          fun reservateur _ => ?_
        · rw [hpermis.numeros read hread .adherent]
          exact Table.mem_ids_of_lie read.valid.reservations_reservateur hconnu
        refine obtenir .livre (fun permis hpermis read hread number hconnu => ?_)
          fun livre _ => ?_
        · rcases List.mem_append.mp hconnu with hown | hjoint
          · rw [hpermis.numeros read.1 hread.1 .livre]
            exact Table.mem_ids_of_lie read.1.valid.reservations_livre hown
          · obtain ⟨lu, luReservateur⟩ := read
            cases luReservateur with
            | none => cases hjoint
            | some other =>
                obtain ⟨row, hrow, rfl⟩ := List.mem_map.mp hjoint
                have hjointe := (Option.filter_eq_some_iff.mp (Option.mem_toList.mp hrow)).1
                rw [hpermis.numeros other (hread.2 other rfl) .livre]
                exact other.valid.reservations_livre _ (Bout.jointe_mem hjointe).1
        refine modifiant hid (fun _ => rfl) (fun _ _ hread => hread.1.1)
          fun permis hpermis read hread row hrow => ?_
        rw [Client.relire_self hrow fun other hother =>
            hpermis.seul rfl other read.1.1 (hread.1.2 other hother) hread.1.1,
          Client.relire_self hrow fun other hother =>
            hpermis.seul rfl other read.1.1 (hread.2 other hother) hread.1.1]

/-- The end of the update of a book. -/
theorem liant {rewrite : Livre → Livre} {auteurs : List ℕ} {response : Response}
    (hid : id ∈ base.livre.ids)
    (hrewrite : ∀ row, (rewrite (rewrite row).store).store = (rewrite row).store) :
    Convergent .livre id data base Charge fun read =>
      .ecriture (LivreController.liant read.1 read.2 id data rewrite auteurs)
        fun _ => response :=
  ⟨.ecriture rewrite auteurs response, ⟨hrewrite, fun hlivre => absurd rfl hlivre, hid⟩,
    fun _ _ read hread => ⟨read.1, read.2, fun row => row, rewrite, auteurs, response, hread.1,
      hread.2, fun _ _ => rfl, rfl, rfl, rfl⟩⟩

/-- Where the same numbers are in use, an update goes the same way. -/
theorem updateSteps (runtime : Runtime) (ressource : Ressource) (id : ℕ) (data : Value)
    (base : Base) :
    Convergent ressource id data base (fun _ (_ : Unit) => True) fun _ =>
      ressource.updateSteps runtime id data := by
  have htexte := fun size => @store_getD String _ (Varchar.store_store size)
  have hphoto := @store_getD (Option String) _ (Varchar.map_store_store 255)
  cases ressource with
  | livre =>
      refine @findPath runtime .livre id data base _ _ fun hid => ?_
      refine siPresent fun titre => siPresent fun dateSortie => siPresent fun langue => ?_
      refine siPresent fun photoCouverture => categorieSteps fun categorie => ?_
      refine auteurIdsSteps fun auteurs => liant hid fun row => ?_
      simp only [Livre.store, htexte, hphoto, getD_getD]
  | categorie =>
      refine @findPath runtime .categorie id data base _ _ fun hid => ?_
      refine siPresent fun nom => siPresent fun description => ?_
      refine modifiant hid (fun row => ?_) (fun _ _ hread => hread) fun _ _ _ _ _ _ => rfl
      simp only [Ressource.store, Categorie.store, htexte]
  | auteur =>
      refine @findPath runtime .auteur id data base _ _ fun hid => php fun _ _ => ?_
      refine siPresent fun nom => siPresent fun prenom => siPresent fun dateNaiss => ?_
      refine siPresent fun dateDeces => siPresent fun nationalite => ?_
      refine siPresent fun photo => siPresent fun description => ?_
      refine modifiant hid (fun row => ?_) (fun _ _ hread => hread) fun _ _ _ _ _ _ => rfl
      simp only [Ressource.store, Auteur.store, htexte, hphoto, getD_getD]
  | emprunt => exact empruntUpdate runtime id data base
  | reservations => exact reservationsUpdate runtime id data base
  | adherent =>
      refine @findPath runtime .adherent id data base _ _ fun hid => ?_
      refine siPresent fun dateAdhesion => siPresent fun nom => siPresent fun prenom => ?_
      refine siPresent fun dateNaiss => siPresent fun email => ?_
      refine siPresent fun adressePostale => siPresent fun numTel => ?_
      refine siPresent fun photo => siPresent fun roles => siPresent fun password => ?_
      refine modifiant hid (fun row => ?_) (fun _ _ hread => hread) fun _ _ _ _ _ _ => rfl
      simp only [Ressource.store, Utilisateur.store, htexte, hphoto, getD_getD]

end Convergent

/-! ## The flush of a plan -/

namespace Ressource

variable {lu charge current : Base} {ressource : Ressource} {id : ℕ} {data : Value}
variable {relu rewrite : ressource.Contenu → ressource.Contenu} {old : ressource.Contenu}
variable {auteurs : List ℕ} {liens : List (ℕ × ℕ)}

/-- The content after the row was rewritten and some authors were linked. -/
def reecrite (base : Base) (ressource : Ressource) (id : ℕ)
    (rewrite : ressource.Contenu → ressource.Contenu) (liens : List (ℕ × ℕ)) : Tables :=
  { ressource.set base.toTables ((ressource.table base.toTables).modify id rewrite) with
    livreAuteur := base.livreAuteur ++ liens }

theorem table_reecrite_self :
    ressource.table (ressource.reecrite current id rewrite liens) =
      (ressource.table current.toTables).modify id rewrite := by
  rw [reecrite, table_livreAuteur, table_set_self]

theorem table_reecrite_of_ne {other : Ressource} (hother : other ≠ ressource) :
    other.table (ressource.reecrite current id rewrite liens) =
      other.table current.toTables := by
  rw [reecrite, table_livreAuteur, table_set_of_ne _ hother]

theorem ids_reecrite (other : Ressource) :
    (other.table (ressource.reecrite current id rewrite liens)).ids =
      (other.table current.toTables).ids := by
  by_cases hother : other = ressource
  · subst hother
    rw [table_reecrite_self, Table.ids_modify]
  · rw [table_reecrite_of_ne hother]

theorem memeNumeros_reecrite (hvalid : (ressource.reecrite current id rewrite liens).Valid) :
    current.MemeNumeros ⟨ressource.reecrite current id rewrite liens, hvalid⟩ :=
  fun other => (ids_reecrite other).symm

/-- The columns take the row as it is stored. -/
theorem store_reecrite : (ressource.reecrite current id rewrite liens).store =
    ressource.reecrite current id (ressource.store ∘ rewrite) liens :=
  ressource.store_modify current id rewrite (current.livreAuteur ++ liens)

/-- The links that an update inserts; the columns do not matter. -/
def nouveaux (lu charge : Base) (ressource : Ressource) (id : ℕ) (auteurs : List ℕ) :
    List (ℕ × ℕ) :=
  (ressource.reecriture lu charge id .null (fun row => row) (fun row => row) auteurs).newLinks 0

theorem newLinks_reecriture :
    Session.newLinks
        { ressource.reecriture lu charge id data relu rewrite auteurs with base := current } 0 =
      nouveaux lu charge ressource id auteurs := by
  have hids : ∀ change : ressource.Contenu → ressource.Contenu,
      (ressource.set lu.toTables ((ressource.table lu.toTables).modify id change)).livre.ids =
        lu.livre.ids := by
    intro change
    cases ressource with
    | livre => exact Table.ids_modify _ _ _
    | _ => rfl
  rw [nouveaux, Session.newLinks, Session.newLinks]
  simp only [reecriture, modifiant, hids]
  rfl

theorem nouveaux_eq_nil (hauteurs : auteurs = []) :
    nouveaux lu charge ressource id auteurs = [] := by
  subst hauteurs
  exact Session.newLinks_eq_nil rfl 0

theorem mem_nouveaux_iff (hauteurs : ressource ≠ .livre → auteurs = [])
    (hid : id ∈ (ressource.table lu.toTables).ids) (link : ℕ × ℕ) :
    link ∈ nouveaux lu charge ressource id auteurs ↔
      link.1 = id ∧ link.2 ∈ auteurs ∧ link ∉ charge.livreAuteur := by
  cases ressource with
  | livre => exact @LivreController.mem_newLinks_liant lu charge lu id .null _ auteurs hid link
  | _ =>
      have hnone := hauteurs (by decide)
      rw [nouveaux_eq_nil hnone, hnone]
      simp

/-- Where the row is as it was read, it gets what was set. -/
theorem commit_reecriture (hold : (ressource.table lu.toTables).find id = some old)
    (hrelu : relu old = old) (hcurrent : (ressource.table current.toTables).find id = some old) :
    Session.commit
        { ressource.reecriture lu charge id data relu rewrite auteurs with base := current } =
      .ok (ressource.reecrite current id rewrite (nouveaux lu charge ressource id auteurs),
        0) := by
  have hrow : (ressource.table current.toTables).modify id
      (ressource.ecrit data (relu old) (rewrite old)) =
        (ressource.table current.toTables).modify id rewrite := by
    apply Table.modify_congr
    intro row hrow
    cases hcurrent.symm.trans hrow
    rw [hrelu, ecrit_loaded]
  have hwritten := write_set lu.toTables current.toTables hold
    (fun row => ressource.instantane data (relu row) (rewrite row)) rewrite
  rw [Session.commit_update rfl rfl, Session.updated, newLinks_reecriture]
  refine congrArg (fun written : Tables => Except.ok ({ written with
    livreAuteur := current.livreAuteur ++ nouveaux lu charge ressource id auteurs }, 0)) ?_
  exact hwritten.trans (congrArg (ressource.set current.toTables) hrow)

end Ressource

/-! ## A plan alone -/

/-- What a planned update does on a database. -/
def Plan.executer {ressource : Ressource} (base : Base) (id : ℕ) : Plan ressource → Outcome × Base
  | fin outcome => (outcome, base)
  | ecriture rewrite auteurs response =>
      let tables := ressource.reecrite base id (ressource.store ∘ rewrite)
        (Ressource.nouveaux base base ressource id auteurs)
      if hvalid : tables.Valid then (.response response, ⟨tables, hvalid⟩)
      else (.thrown .integrityViolation, base)

section Alone

variable {runtime : Runtime} {ressource : Ressource} {id : ℕ} {data : Value} {base : Base}
variable {plan : Plan ressource}

theorem Tache.avancer_ecriture (session : Session) (answer : Session → Response) (base : Base) :
    (Tache.ecriture session answer).avancer base =
      (.terminee ((Tache.ecriture session answer).seule base).1,
        ((Tache.ecriture session answer).seule base).2) := by
  rw [Tache.avancer, Tache.seule]
  cases flush { session with base := base } with
  | ok value final => rfl
  | error outcome final => rfl

/-- The flush of what was planned, where the row is as it was read. -/
theorem Tache.seule_reecriture {lu charge current : Base} {old : ressource.Contenu}
    {relu rewrite : ressource.Contenu → ressource.Contenu} {auteurs : List ℕ}
    {response : Response} (hold : (ressource.table lu.toTables).find id = some old)
    (hrelu : relu old = old) (hcurrent : (ressource.table current.toTables).find id = some old) :
    (Tache.ecriture (ressource.reecriture lu charge id data relu rewrite auteurs)
        fun _ => response).seule current =
      if hvalid : (ressource.reecrite current id (ressource.store ∘ rewrite)
          (Ressource.nouveaux lu charge ressource id auteurs)).Valid then
        (.response response, ⟨_, hvalid⟩)
      else (.thrown .integrityViolation, current) := by
  have hcommit := @Ressource.commit_reecriture lu charge current ressource id data relu rewrite
    old auteurs hold hrelu hcurrent
  rw [Tache.seule, flush, hcommit]
  simp only [Ressource.store_reecrite]
  by_cases hvalid : (ressource.reecrite current id (ressource.store ∘ rewrite)
      (Ressource.nouveaux lu charge ressource id auteurs)).Valid
  · simp only [dif_pos hvalid, Session.start]
  · simp only [dif_neg hvalid]
    rfl

theorem Tache.Realise.seule_eq (hid : ∀ rewrite auteurs response,
      plan = .ecriture rewrite auteurs response → id ∈ (ressource.table base.toTables).ids) :
    ∀ {tache : Tache}, tache.Realise (base = ·) id data plan →
      tache.seule base = plan.executer base id := by
  intro tache
  induction tache with
  | terminee outcome =>
      intro hrealise
      rw [hrealise]
      rfl
  | lecture suite ih => exact fun hrealise => ih base (hrealise base rfl)
  | ecriture session answer =>
      intro hrealise
      obtain ⟨lu, charge, relu, rewrite, auteurs, response, rfl, rfl, hrelu, rfl, rfl, rfl⟩ :=
        hrealise
      obtain ⟨old, hold⟩ := Table.exists_find_of_mem_ids (hid _ _ _ rfl)
      exact seule_reecriture hold (hrelu old hold) hold

/-- Wherever the numbers of `base` are in use, an update does what is planned. -/
theorem Ressource.exists_plan (runtime : Runtime) (ressource : Ressource) (id : ℕ)
    (data : Value) (base : Base) :
    ∃ plan : Plan ressource, plan.Correct base id ∧ ∀ other, base.MemeNumeros other →
      (ressource.update id data).executer runtime other = plan.executer other id := by
  obtain ⟨plan, hcorrect, hrealise⟩ := Convergent.updateSteps runtime ressource id data base
  refine ⟨plan, hcorrect, fun other hother => ?_⟩
  have hsteps := hrealise (other = ·)
    ⟨fun last hlast => hlast ▸ hother, fun _ _ _ hlu hlast => hlu ▸ hlast⟩ () trivial
  have hid : ∀ rewrite auteurs response, plan = .ecriture rewrite auteurs response →
      id ∈ (ressource.table other.toTables).ids := by
    rintro rewrite auteurs response rfl
    rw [← hother ressource]
    exact hcorrect.2.2
  calc (ressource.update id data).executer runtime other
    _ = (ressource.updateSteps runtime id data).seule other :=
        Client.executer_update ressource id data
    _ = plan.executer other id := hsteps.seule_eq hid

end Alone

end Bibliotheque
