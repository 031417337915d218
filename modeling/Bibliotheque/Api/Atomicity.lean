import Bibliotheque.Api.Router

/-!
# A request that fails changes nothing

Handlers set fields of managed entities before they have validated the rest of
the body.  What makes them atomic is the shape they share: statements that do
not write, then one `flush`, then an answer that cannot fail any more.
-/

namespace Bibliotheque

open Program Bibliotheque.Action

/-- The two contents hold the same rows.  The counters may differ. -/
def Tables.SameRows (left right : Tables) : Prop :=
  left.livre.rows = right.livre.rows ∧ left.auteur.rows = right.auteur.rows ∧
    left.categorie.rows = right.categorie.rows ∧
    left.emprunt.rows = right.emprunt.rows ∧
    left.reservations.rows = right.reservations.rows ∧
    left.utilisateur.rows = right.utilisateur.rows ∧
    left.livreAuteur = right.livreAuteur

theorem Tables.sameRows_refl (tables : Tables) : tables.SameRows tables :=
  ⟨rfl, rfl, rfl, rfl, rfl, rfl, rfl⟩

theorem Tables.Skipped.sameRows {before after : Tables} (hskipped : before.Skipped after) :
    after.SameRows before :=
  ⟨hskipped.livre.1, hskipped.auteur.1, hskipped.categorie.1, hskipped.emprunt.1,
    hskipped.reservations.1, hskipped.utilisateur.1, hskipped.livreAuteur⟩

/-- What a failed handler may leave: the committed state, but for the number of a
row that was to be created. -/
def Session.Kept (creates : Bool) (start : Session) (final : Base) : Prop :=
  if creates then start.base.Skipped final.toTables
  else start.persisted = none → final = start.base

theorem Session.kept_base (creates : Bool) (start : Session) :
    start.Kept creates start.base := by
  cases creates with
  | false => exact fun _ => rfl
  | true => exact start.base.skipped_refl

theorem Session.kept_rolledBack (creates : Bool) (start : Session) :
    start.Kept creates start.rolledBack := by
  cases creates with
  | false => exact start.rolledBack_of_not_persisted
  | true => exact start.skipped_rolledBack

/-- A handler that leaves the committed state alone unless it succeeds. -/
def Atomic (creates : Bool) (handler : Action Response) : Prop :=
  ∀ start, wp handler
    (fun response final =>
      (Outcome.response response).Success ∨ start.Kept creates final.base)
    (fun _ final => start.Kept creates final.base) start

namespace Atomic

variable {creates : Bool}

/-- A statement that does not write may stand in front. -/
theorem bind {Out : Type} {program : Action Out} {next : Out → Action Response}
    (hprogram : Calme program) (hnext : ∀ value, Atomic creates (next value)) :
    Atomic creates (program >>= next) := by
  intro start
  rw [wp_bind]
  have hkept : ∀ {middle : Session},
      (middle.base, middle.persisted) = (start.base, start.persisted) →
        start.Kept creates = middle.Kept creates := by
    intro middle hmiddle
    obtain ⟨hbase, hpersisted⟩ := Prod.mk.inj hmiddle
    funext final
    rw [Session.Kept, Session.Kept, hbase, hpersisted]
  refine wp_mono (hprogram.wp start) ?_ ?_
  · intro value middle hmiddle
    have htail := hnext value middle
    rwa [← hkept hmiddle] at htail
  · intro _ final hfinal
    rw [hkept hfinal]
    exact final.kept_base creates

/-- An early answer comes before any write. -/
theorem answer (status : ℕ) (body : List (String × Value)) :
    Atomic creates (answer status body) := fun start => start.kept_base creates

/-- What is created is inserted at the flush. -/
theorem persist {next : Action Response} (entity : Entity) (hnext : Atomic true next) :
    Atomic true (persist entity >>= fun _ => next) := by
  intro start
  rw [wp_bind, wp_persist]
  exact hnext { start with persisted := some entity }

/-- `flush` may only be followed by an answer that reports success. -/
theorem flush {next : Action Response}
    (hnext : ∀ session, wp next
      (fun response _ => (Outcome.response response).Success)
      (fun _ _ => False) session) :
    Atomic creates (flush >>= fun _ => next) := by
  intro start
  rw [wp_bind, wp_flush]
  cases start.commit with
  | ok result =>
      obtain ⟨tables, fresh⟩ := result
      dsimp only
      split
      · refine wp_mono (hnext _) ?_ ?_
        · exact fun _ _ hsuccess => Or.inl hsuccess
        · exact fun _ _ hstop => hstop.elim
      · exact start.kept_rolledBack creates
  | error throwable => exact start.kept_base creates

theorem flush_return {status : ℕ} {body : Value} (hlower : 200 ≤ status)
    (hupper : status < 300) :
    Atomic creates (Action.flush >>= fun _ => pure ⟨status, body⟩) :=
  flush fun _ => ⟨hlower, hupper⟩

/-- The answer of a create handler shows the number of the new row. -/
theorem persist_flush (entity : Entity) {body : Value → Value} :
    Atomic true (Action.persist entity >>= fun _ => Action.flush >>= fun _ =>
      insertedId >>= fun id => pure ⟨201, body id⟩) :=
  persist entity (flush fun _ => ⟨(by decide : 200 ≤ 201), (by decide : 201 < 300)⟩)

/-- `find`, the answer for an unknown row, and the rest of the handler. -/
theorem find {Row : Type} (runtime : Runtime) (table : Tables → Table Row)
    (id : Value) {status : ℕ} {body : List (String × Value)}
    {next : ℕ → Action Response} (hnext : ∀ found, Atomic creates (next found)) :
    Atomic creates (do
      let some found ← find runtime table id | Action.answer status body
      next found) := by
  refine bind (calme_find runtime table id) ?_
  intro found
  cases found with
  | some found => exact hnext found
  | none => exact answer status body

/-- A handler that is atomic fails without a trace in the rows. -/
theorem serve_kept {handler : Action Response} (hatomic : Atomic creates handler)
    (base : Base) (hfailure : ¬ (serve handler base).1.Success) :
    (Session.start base).Kept creates (serve handler base).2 := by
  have hend : (serve handler base).1.Success ∨
      (Session.start base).Kept creates (serve handler base).2 := by
    rw [serve_iff_wp handler base fun outcome final =>
      outcome.Success ∨ (Session.start base).Kept creates final]
    exact wp_mono (hatomic (Session.start base)) (fun _ _ hpost => hpost)
      (fun _ _ hstop => Or.inr hstop)
  exact hend.resolve_left hfailure

end Atomic

/-! ## Setters -/

theorem calme_setLivre (id : ℕ) (rewrite : Livre → Livre) :
    Calme (setLivre id rewrite) := calme_modify fun _ => ⟨rfl, rfl⟩

theorem calme_setAuteur (id : ℕ) (rewrite : Auteur → Auteur) :
    Calme (setAuteur id rewrite) := calme_modify fun _ => ⟨rfl, rfl⟩

theorem calme_setCategorie (id : ℕ) (rewrite : Categorie → Categorie) :
    Calme (setCategorie id rewrite) := calme_modify fun _ => ⟨rfl, rfl⟩

theorem calme_setEmprunt (id : ℕ) (rewrite : Emprunt → Emprunt) :
    Calme (setEmprunt id rewrite) := calme_modify fun _ => ⟨rfl, rfl⟩

theorem calme_setReservations (id : ℕ) (rewrite : Reservations → Reservations) :
    Calme (setReservations id rewrite) := calme_modify fun _ => ⟨rfl, rfl⟩

theorem calme_setUtilisateur (id : ℕ) (rewrite : Utilisateur → Utilisateur) :
    Calme (setUtilisateur id rewrite) := calme_modify fun _ => ⟨rfl, rfl⟩

/-! ## Books, authors and categories -/

theorem calme_linkAuteur (runtime : Runtime) (livre : Ref) {missing : Action Unit}
    (hmissing : Calme missing) (auteurId : Value) :
    Calme (LivreController.linkAuteur runtime livre missing auteurId) := by
  refine (calme_find runtime Tables.auteur auteurId).bind ?_
  intro auteur
  cases auteur with
  | some auteur => exact calme_modify fun _ => ⟨rfl, rfl⟩
  | none => exact hmissing

theorem atomic_livreCreate (runtime : Runtime) (data : Value) :
    Atomic true (LivreController.create runtime data) := by
  refine Atomic.bind (calme_answerIf _ _ _) fun _ => ?_
  refine Atomic.bind (calme_php _) fun titre => ?_
  refine Atomic.bind (calme_php _) fun dateSortie => ?_
  refine Atomic.bind (calme_php _) fun langue => ?_
  refine Atomic.bind (calme_php _) fun photoCouverture => ?_
  refine Atomic.find runtime _ _ fun categorie => ?_
  refine Atomic.bind (calme_foreach runtime _
    (calme_linkAuteur runtime _ (calme_answer _ _))) fun _ => ?_
  exact Atomic.persist_flush _

/-- The part of `PUT /api/livre/{id}` before its flush. -/
theorem calme_updateFields (runtime : Runtime) (id : ℕ) (data : Value) :
    Calme (LivreController.updateFields runtime id data) := by
  refine (calme_find runtime Tables.livre (.int id)).bind ?_
  intro livre
  cases livre with
  | none => exact calme_answer _ _
  | some livre =>
      refine (calme_setter _ _ fun _ => calme_setLivre _ _).bind fun _ => ?_
      refine (calme_setter _ _ fun _ => calme_setLivre _ _).bind fun _ => ?_
      refine (calme_setter _ _ fun _ => calme_setLivre _ _).bind fun _ => ?_
      refine (calme_setter _ _ fun _ => calme_setLivre _ _).bind fun _ => ?_
      refine (calme_ifSet _ fun categorieId => ?_).bind fun _ => ?_
      · refine (calme_find runtime Tables.categorie categorieId).bind ?_
        intro categorie
        cases categorie with
        | some categorie => exact calme_setLivre _ _
        | none => exact preserves_throw _
      · exact calme_ifSet _ fun _ => calme_foreach runtime _
          (calme_linkAuteur runtime _ (preserves_throw _))

theorem atomic_livreUpdate (runtime : Runtime) (id : ℕ) (data : Value) :
    Atomic false (LivreController.update runtime id data) := by
  refine Atomic.bind (calme_updateFields runtime id data) fun _ => ?_
  exact Atomic.flush_return (by decide) (by decide)

theorem atomic_livreDelete (runtime : Runtime) (id : ℕ) :
    Atomic false (LivreController.delete runtime id) := by
  refine Atomic.find runtime _ _ fun livre => ?_
  refine Atomic.bind (calme_remove _) fun _ => ?_
  exact Atomic.flush_return (by decide) (by decide)

theorem calme_auteurReadDate (value : Value) :
    Calme (AuteurController.readDate value) :=
  (calme_php _).bind fun _ => calme_php _

theorem atomic_auteurUpdate (runtime : Runtime) (id : ℕ) (data : Value) :
    Atomic false (AuteurController.update runtime id data) := by
  refine Atomic.find runtime _ _ fun auteur => ?_
  refine Atomic.bind (calme_foreach runtime _ fun _ => preserves_throw _)
    fun _ => ?_
  refine Atomic.bind (calme_setter _ _ fun _ => calme_setAuteur _ _) fun _ => ?_
  refine Atomic.bind (calme_setter _ _ fun _ => calme_setAuteur _ _) fun _ => ?_
  refine Atomic.bind (calme_ifSet _ fun _ =>
    (calme_auteurReadDate _).bind fun _ => calme_setAuteur _ _) fun _ => ?_
  refine Atomic.bind (calme_ifSet _ fun _ =>
    (calme_auteurReadDate _).bind fun _ => calme_setAuteur _ _) fun _ => ?_
  refine Atomic.bind (calme_setter _ _ fun _ => calme_setAuteur _ _) fun _ => ?_
  refine Atomic.bind (calme_setter _ _ fun _ => calme_setAuteur _ _) fun _ => ?_
  refine Atomic.bind (calme_setter _ _ fun _ => calme_setAuteur _ _) fun _ => ?_
  exact Atomic.flush_return (by decide) (by decide)

theorem atomic_auteurDelete (runtime : Runtime) (id : ℕ) :
    Atomic false (AuteurController.delete runtime id) := by
  refine Atomic.find runtime _ _ fun auteur => ?_
  refine Atomic.bind (calme_remove _) fun _ => ?_
  exact Atomic.flush_return (by decide) (by decide)

theorem calme_optionalDate (value : Option Value) :
    Calme (AuteurController.optionalDate value) := by
  cases value with
  | some value =>
      exact (calme_auteurReadDate value).bind fun _ => preserves_pure _
  | none => exact preserves_pure _

theorem calme_linkLivre (runtime : Runtime) (livreId : Value) :
    Calme (AuteurController.linkLivre runtime livreId) := by
  refine (calme_find runtime Tables.livre livreId).bind ?_
  intro livre
  cases livre with
  | some livre => exact calme_modify fun _ => ⟨rfl, rfl⟩
  | none => exact preserves_pure _

theorem atomic_auteurCreate (runtime : Runtime) (data : Value) :
    Atomic true (AuteurController.create runtime data) := by
  refine Atomic.bind (calme_answerIf _ _ _) fun _ => ?_
  refine Atomic.bind (calme_php _) fun nom => ?_
  refine Atomic.bind (calme_php _) fun prenom => ?_
  refine Atomic.bind (calme_optionalDate _) fun dateNaiss => ?_
  refine Atomic.bind (calme_optionalDate _) fun dateDeces => ?_
  refine Atomic.bind (calme_php _) fun nationalite => ?_
  refine Atomic.bind (calme_php _) fun photo => ?_
  refine Atomic.bind (calme_php _) fun description => ?_
  refine Atomic.bind (calme_foreach runtime _ (calme_linkLivre runtime))
    fun _ => ?_
  exact Atomic.persist_flush _

theorem atomic_categorieCreate (data : Value) :
    Atomic true (CategorieController.create data) := by
  refine Atomic.bind (calme_php _) fun nom => ?_
  refine Atomic.bind (calme_php _) fun description => ?_
  exact Atomic.persist_flush _

theorem atomic_categorieUpdate (runtime : Runtime) (id : ℕ) (data : Value) :
    Atomic false (CategorieController.update runtime id data) := by
  refine Atomic.find runtime _ _ fun categorie => ?_
  refine Atomic.bind (calme_setter _ _ fun _ => calme_setCategorie _ _) fun _ => ?_
  refine Atomic.bind (calme_setter _ _ fun _ => calme_setCategorie _ _) fun _ => ?_
  exact Atomic.flush_return (by decide) (by decide)

theorem atomic_categorieDelete (runtime : Runtime) (id : ℕ) :
    Atomic false (CategorieController.delete runtime id) := by
  refine Atomic.find runtime _ _ fun categorie => ?_
  refine Atomic.bind (calme_remove _) fun _ => ?_
  exact Atomic.flush_return (by decide) (by decide)

/-! ## Loans and reservations -/

theorem calme_empruntReadBody (data : Value) :
    Calme (EmpruntController.readBody data) := by
  refine (calme_answerIf _ _ _).bind fun _ => ?_
  refine (calme_php _).bind fun dateEmprunt => ?_
  refine (calme_php _).bind fun dateRetour => ?_
  cases dateEmprunt with
  | none => exact calme_answer _ _
  | some dateEmprunt =>
      cases dateRetour with
      | none => exact calme_answer _ _
      | some dateRetour => exact preserves_pure _

theorem atomic_empruntCreate (runtime : Runtime) (data : Value) :
    Atomic true (EmpruntController.create runtime data) := by
  refine Atomic.bind (calme_empruntReadBody data) fun read => ?_
  refine Atomic.bind (calme_find runtime _ _) fun emprunteur => ?_
  refine Atomic.bind (calme_find runtime _ _) fun livre => ?_
  refine Atomic.bind (calme_answerIf _ _ _) fun _ => ?_
  exact Atomic.persist_flush _

theorem atomic_empruntUpdate (runtime : Runtime) (id : ℤ) (data : Value) :
    Atomic false (EmpruntController.update runtime id data) := by
  refine Atomic.find runtime _ _ fun emprunt => ?_
  refine Atomic.bind (calme_empruntReadBody data) fun read => ?_
  refine Atomic.bind (calme_find runtime _ _) fun emprunteur => ?_
  refine Atomic.bind (calme_find runtime _ _) fun livre => ?_
  cases emprunteur with
  | none => exact Atomic.answer _ _
  | some emprunteur =>
      cases livre with
      | none => exact Atomic.answer _ _
      | some livre =>
          refine Atomic.bind (calme_setEmprunt _ _) fun _ => ?_
          refine Atomic.bind (calme_setEmprunt _ _) fun _ => ?_
          refine Atomic.bind (calme_setEmprunt _ _) fun _ => ?_
          refine Atomic.bind (calme_setEmprunt _ _) fun _ => ?_
          exact Atomic.flush_return (by decide) (by decide)

theorem atomic_empruntDelete (runtime : Runtime) (id : ℤ) :
    Atomic false (EmpruntController.delete runtime id) := by
  refine Atomic.find runtime _ _ fun emprunt => ?_
  refine Atomic.bind (calme_remove _) fun _ => ?_
  exact Atomic.flush_return (by decide) (by decide)

theorem calme_reservationsReadBody (runtime : Runtime) (data : Value) :
    Calme (ReservationsController.readBody runtime data) := by
  refine (calme_answerIf _ _ _).bind fun _ => ?_
  refine (calme_php _).bind fun dateResa => ?_
  cases dateResa with
  | none => exact calme_answer _ _
  | some dateResa =>
      refine (calme_find runtime _ _).bind fun reservateur => ?_
      cases reservateur with
      | none => exact calme_answer _ _
      | some reservateur =>
          refine (calme_find runtime _ _).bind fun livre => ?_
          cases livre with
          | none => exact calme_answer _ _
          | some livre => exact preserves_pure _

theorem atomic_reservationsCreate (runtime : Runtime) (data : Value) :
    Atomic true (ReservationsController.create runtime data) := by
  refine Atomic.bind (calme_reservationsReadBody runtime data) fun read => ?_
  exact Atomic.persist_flush _

theorem atomic_reservationsUpdate (runtime : Runtime) (id : ℕ) (data : Value) :
    Atomic false (ReservationsController.update runtime id data) := by
  refine Atomic.find runtime _ _ fun reservation => ?_
  refine Atomic.bind (calme_reservationsReadBody runtime data) fun read => ?_
  refine Atomic.bind (calme_setReservations _ _) fun _ => ?_
  refine Atomic.bind (calme_setReservations _ _) fun _ => ?_
  refine Atomic.bind (calme_setReservations _ _) fun _ => ?_
  exact Atomic.flush_return (by decide) (by decide)

theorem atomic_reservationsDelete (runtime : Runtime) (id : ℕ) :
    Atomic false (ReservationsController.delete runtime id) := by
  refine Atomic.find runtime _ _ fun reservation => ?_
  refine Atomic.bind (calme_remove _) fun _ => ?_
  exact Atomic.flush_return (by decide) (by decide)

/-! ## Users -/

theorem calme_adherentReadDate (runtime : Runtime) (format : List DateTime.Format)
    (value : Value) : Calme (AdherentController.readDate runtime format value) :=
  (calme_php _).bind fun _ => calme_php _

theorem atomic_adherentUpdate (runtime : Runtime) (id : ℕ) (data : Value) :
    Atomic false (AdherentController.update runtime id data) := by
  have hsetter : ∀ {Out : Type} (value : Option Value)
      (read : Value → Except Throwable Out)
      (rewrite : Out → Utilisateur → Utilisateur) (adherent : ℕ),
      Calme (ifSet value fun value =>
        php (read value) >>= fun out => setUtilisateur adherent (rewrite out)) :=
    fun value read rewrite adherent =>
      calme_setter value read fun _ => calme_setUtilisateur adherent _
  refine Atomic.find runtime _ _ fun adherent => ?_
  refine Atomic.bind (calme_ifSet _ fun _ =>
    (calme_adherentReadDate runtime _ _).bind fun _ =>
      calme_setUtilisateur _ _) fun _ => ?_
  refine Atomic.bind (hsetter _ _ _ _) fun _ => ?_
  refine Atomic.bind (hsetter _ _ _ _) fun _ => ?_
  refine Atomic.bind (calme_ifSet _ fun _ =>
    (calme_adherentReadDate runtime _ _).bind fun _ =>
      calme_setUtilisateur _ _) fun _ => ?_
  refine Atomic.bind (hsetter _ _ _ _) fun _ => ?_
  refine Atomic.bind (hsetter _ _ _ _) fun _ => ?_
  refine Atomic.bind (hsetter _ _ _ _) fun _ => ?_
  refine Atomic.bind (hsetter _ _ _ _) fun _ => ?_
  refine Atomic.bind (hsetter _ _ _ _) fun _ => ?_
  refine Atomic.bind (hsetter _ _ _ _) fun _ => ?_
  exact Atomic.flush_return (by decide) (by decide)

theorem calme_whenSet {Out : Type} (value : Option Value)
    {read : Value → Action Out} (hread : ∀ value, Calme (read value)) :
    Calme (AdherentController.whenSet value read) := by
  cases value with
  | some value => exact (hread value).bind fun _ => preserves_pure _
  | none => exact preserves_pure _

theorem atomic_adherentCreate (runtime : Runtime) (salt : ℕ) (data : Value) :
    Atomic true (AdherentController.create runtime salt data) := by
  refine Atomic.bind
    (calme_whenSet _ (calme_adherentReadDate runtime _)) fun dateAdhesion => ?_
  refine Atomic.bind (calme_whenSet _ fun _ => calme_php _) fun nom => ?_
  refine Atomic.bind (calme_whenSet _ fun _ => calme_php _) fun prenom => ?_
  refine Atomic.bind
    (calme_whenSet _ (calme_adherentReadDate runtime _)) fun dateNaiss => ?_
  refine Atomic.bind (calme_whenSet _ fun _ => calme_php _) fun email => ?_
  refine Atomic.bind (calme_whenSet _ fun _ => calme_php _)
    fun adressePostale => ?_
  refine Atomic.bind (calme_whenSet _ fun _ => calme_php _) fun numTel => ?_
  refine Atomic.bind (calme_whenSet _ fun _ => calme_php _) fun photo => ?_
  refine Atomic.bind (calme_whenSet _ fun _ => calme_php _) fun roles => ?_
  refine Atomic.bind (calme_whenSet _ fun _ =>
    (calme_php _).bind fun _ => calme_php _) fun password => ?_
  exact Atomic.persist_flush _

theorem atomic_adherentDelete (runtime : Runtime) (id : ℕ) :
    Atomic false (AdherentController.delete runtime id) := by
  refine Atomic.find runtime _ _ fun adherent => ?_
  refine Atomic.bind (calme_remove _) fun _ => ?_
  exact Atomic.flush_return (by decide) (by decide)

/-! ## Every request -/

/-- The request inserts a row. -/
def Requete.creates : Requete → Bool
  | .livreCreate _ | .auteurCreate _ | .categorieCreate _ | .empruntCreate _
  | .reservationsCreate _ | .adherentCreate _ _ => true
  | _ => false

theorem Requete.atomic_handler (runtime : Runtime) (requete : Requete) :
    Atomic requete.creates (requete.handler runtime) := by
  cases requete with
  | livreCreate data => exact atomic_livreCreate runtime data
  | livreUpdate id data => exact atomic_livreUpdate runtime id data
  | livreDelete id => exact atomic_livreDelete runtime id
  | auteurCreate data => exact atomic_auteurCreate runtime data
  | auteurUpdate id data => exact atomic_auteurUpdate runtime id data
  | auteurDelete id => exact atomic_auteurDelete runtime id
  | categorieCreate data => exact atomic_categorieCreate data
  | categorieUpdate id data => exact atomic_categorieUpdate runtime id data
  | categorieDelete id => exact atomic_categorieDelete runtime id
  | empruntCreate data => exact atomic_empruntCreate runtime data
  | empruntUpdate id data => exact atomic_empruntUpdate runtime id data
  | empruntDelete id => exact atomic_empruntDelete runtime id
  | reservationsCreate data => exact atomic_reservationsCreate runtime data
  | reservationsUpdate id data => exact atomic_reservationsUpdate runtime id data
  | reservationsDelete id => exact atomic_reservationsDelete runtime id
  | adherentCreate salt data => exact atomic_adherentCreate runtime salt data
  | adherentUpdate id data => exact atomic_adherentUpdate runtime id data
  | adherentDelete id => exact atomic_adherentDelete runtime id

/-- A refused request may have used up a number. -/
theorem Requete.skipped_of_refused (runtime : Runtime) (base : Base) (requete : Requete)
    (hfailure : ¬ (requete.executer runtime base).1.Success) :
    base.Skipped (requete.executer runtime base).2.toTables := by
  have hkept := (atomic_handler runtime requete).serve_kept base hfailure
  unfold executer
  cases hcreates : requete.creates with
  | true =>
      rw [hcreates] at hkept
      exact hkept
  | false =>
      rw [hcreates] at hkept
      rw [hkept rfl]
      exact base.skipped_refl

/-- A refused update or deletion leaves everything as it was. -/
theorem Requete.unchanged_of_refused (runtime : Runtime) (base : Base) {requete : Requete}
    (hcreates : requete.creates = false)
    (hfailure : ¬ (requete.executer runtime base).1.Success) :
    (requete.executer runtime base).2 = base := by
  have hkept := (atomic_handler runtime requete).serve_kept base hfailure
  rw [hcreates] at hkept
  exact hkept rfl

/-- A request that does not end with a 2xx answer leaves every row as it was. -/
theorem Requete.sameRows_of_not_success (runtime : Runtime) (base : Base)
    (requete : Requete)
    (hfailure : ¬ (requete.executer runtime base).1.Success) :
    (requete.executer runtime base).2.SameRows base.toTables :=
  (skipped_of_refused runtime base requete hfailure).sameRows

/-- An unknown author is met when the title is already set. -/
theorem Requete.sameRows_of_unknown_auteur :
    ¬ ((livreUpdate 1 (.object [("titre", .str "Persuasion"),
        ("auteurIds", .list [.int 7])])).executer .dev Base.sample).1.Success ∧
      ((livreUpdate 1 (.object [("titre", .str "Persuasion"),
        ("auteurIds", .list [.int 7])])).executer .dev Base.sample).2.SameRows
          Base.sample.toTables :=
  ⟨by decide, sameRows_of_not_success _ _ _ (by decide)⟩

end Bibliotheque
