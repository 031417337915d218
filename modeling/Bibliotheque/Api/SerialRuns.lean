import Bibliotheque.Api.Serial

/-!
# Overlapping requests one after the other

Any number of clients create and delete rows of all resources at once.  Whatever
the order of their reads and flushes, the database ends as if the requests whose
flushes were accepted had run alone, one after the other, in the order of their
flushes, and that run gives the answers too.  Between them the counters lose the
numbers that were given to insertions the server then refused.
-/

namespace Bibliotheque

open Bibliotheque.Action

/-! ## Lost numbers -/

namespace Base

/-- The next number of a resource is given to no row. -/
def perdre (base : Base) : Option Ressource → Base
  | none => base
  | some .livre => ⟨{ base.toTables with livre := base.livre.skip }, { base.valid with }⟩
  | some .categorie =>
      ⟨{ base.toTables with categorie := base.categorie.skip }, { base.valid with }⟩
  | some .auteur => ⟨{ base.toTables with auteur := base.auteur.skip }, { base.valid with }⟩
  | some .emprunt =>
      ⟨{ base.toTables with emprunt := base.emprunt.skip }, { base.valid with }⟩
  | some .reservations =>
      ⟨{ base.toTables with reservations := base.reservations.skip }, { base.valid with }⟩
  | some .adherent =>
      ⟨{ base.toTables with utilisateur := base.utilisateur.skip }, { base.valid with }⟩

/-- The resource whose counter has moved. -/
def perdu (base final : Base) : Option Ressource :=
  [Ressource.livre, .categorie, .auteur, .emprunt, .reservations, .adherent].find?
    fun ressource =>
      (ressource.table base.toTables).next < (ressource.table final.toTables).next

theorem perdu_perdre (base : Base) (perdu : Option Ressource) :
    base.perdu (base.perdre perdu) = perdu := by
  cases perdu with
  | none => simp [Base.perdu, perdre]
  | some ressource =>
      cases ressource <;> simp [Base.perdu, perdre, Ressource.table, Table.skip]

theorem skipped_perdre (base : Base) (perdu : Option Ressource) :
    base.Skipped (base.perdre perdu).toTables := by
  cases perdu with
  | none => exact base.skipped_refl
  | some ressource =>
      cases ressource with
      | livre => exact { base.skipped_refl with livre := ⟨rfl, Nat.le_succ _⟩ }
      | categorie => exact { base.skipped_refl with categorie := ⟨rfl, Nat.le_succ _⟩ }
      | auteur => exact { base.skipped_refl with auteur := ⟨rfl, Nat.le_succ _⟩ }
      | emprunt => exact { base.skipped_refl with emprunt := ⟨rfl, Nat.le_succ _⟩ }
      | reservations => exact { base.skipped_refl with reservations := ⟨rfl, Nat.le_succ _⟩ }
      | adherent => exact { base.skipped_refl with utilisateur := ⟨rfl, Nat.le_succ _⟩ }

end Base

/-- A transaction that is rolled back loses at most the number of its new row. -/
theorem Session.exists_perdre (session : Session) :
    ∃ perdu, session.rolledBack = session.base.perdre perdu ∧
      ∀ ressource ∈ perdu, ∃ entity ∈ session.persisted, entity.ressource = ressource := by
  cases hpersisted : session.persisted with
  | none =>
      exact ⟨none, rolledBack_of_not_persisted hpersisted, fun _ hlost => nomatch hlost⟩
  | some entity =>
      have hrolled : session.rolledBack.toTables = entity.reserve session.base.toTables := by
        rw [rolledBack, hpersisted]
      have hkept : entity.reserve session.base.toTables = session.base.toTables ∨
          entity.reserve session.base.toTables =
            (session.base.perdre (some entity.ressource)).toTables := by
        cases entity <;> exact (ite_eq_or_eq _ _ _).symm
      rcases hkept with hsame | hlost
      · exact ⟨none, Ressource.eq_of_toTables (hrolled.trans hsame),
          fun _ hlost => nomatch hlost⟩
      · refine ⟨some entity.ressource, Ressource.eq_of_toTables (hrolled.trans hlost),
          fun ressource hressource => ⟨entity, rfl, ?_⟩⟩
        exact Option.some.inj hressource

/-! ## Flushes -/

/-- What became of a flush; a refused one may have lost a number. -/
inductive Ecrit where
  | accepte
  | refuse (perdu : Option Ressource)
  deriving DecidableEq

/-- What becomes of the next step of a request if that is a flush. -/
def Tache.flushe (base : Base) : Tache → Option Ecrit
  | .ecriture session _ =>
      match flush { session with base := base } with
      | .ok _ _ => some .accepte
      | .error _ final => some (.refuse (base.perdu final.base))
  | .terminee _ | .lecture _ => none

def Processus.flushe (base : Base) : Processus → Option Ecrit
  | .tache reste => reste.flushe base
  | .suppression _ _ | .marche _ _ => none

theorem Action.not_success_of_flush_error {session final : Session} {outcome : Outcome}
    (hflush : flush session = .error outcome final) : ¬ outcome.Success :=
  refuses_flush.of_error hflush

theorem Action.perdre_of_flush_error {session final : Session} {outcome : Outcome}
    (hflush : flush session = .error outcome final) :
    final.base = session.base.perdre (session.base.perdu final.base) ∧
      ∀ ressource ∈ session.base.perdu final.base,
        ∃ entity ∈ session.persisted, entity.ressource = ressource := by
  have hlost : ∃ perdu, final.base = session.base.perdre perdu ∧
      ∀ ressource ∈ perdu, ∃ entity ∈ session.persisted, entity.ressource = ressource := by
    rcases flush_error hflush with hsame | hrolled
    · exact ⟨none, hsame, fun _ hlost => nomatch hlost⟩
    · rw [hrolled]
      exact session.exists_perdre
  obtain ⟨perdu, hfinal, hpersisted⟩ := hlost
  rw [hfinal, Base.perdu_perdre]
  exact ⟨rfl, hpersisted⟩

section Flush

variable {base : Base} {tache : Tache} {processus : Processus}

theorem Tache.avancer_of_flushe_none (hflushe : tache.flushe base = none) :
    (tache.avancer base).2 = base := by
  cases tache with
  | terminee outcome => rfl
  | lecture suite => rfl
  | ecriture session answer =>
      rw [Tache.flushe] at hflushe
      split at hflushe <;> cases hflushe

/-- A flush that is not accepted ends the request without success. -/
theorem Tache.avancer_of_refuse {perdu : Option Ressource}
    (hflushe : tache.flushe base = some (.refuse perdu)) :
    (tache.avancer base).2 = base.perdre perdu ∧ ∃ outcome : Outcome,
      (tache.avancer base).1 = .terminee outcome ∧ ¬ outcome.Success := by
  cases tache with
  | terminee outcome => cases hflushe
  | lecture suite => cases hflushe
  | ecriture session answer =>
      rw [Tache.flushe] at hflushe
      rw [Tache.avancer]
      cases hflush : flush { session with base := base } with
      | ok value final =>
          rw [hflush] at hflushe
          cases hflushe
      | error outcome final =>
          rw [hflush] at hflushe
          cases hflushe
          exact ⟨(perdre_of_flush_error hflush).1, outcome, rfl,
            not_success_of_flush_error hflush⟩

theorem Processus.avancer_of_flushe_none (hflushe : processus.flushe base = none) :
    (processus.avancer base).2 = base := by
  cases processus with
  | tache reste => exact reste.avancer_of_flushe_none hflushe
  | suppression ressource id =>
      rw [Processus.avancer]
      split <;> rfl
  | marche ressource etat =>
      rw [Processus.avancer]
      split
      · rfl
      · split <;> rfl

/-- A flush ends its request. -/
theorem Processus.terminee_of_flushe {ecrit : Ecrit}
    (hflushe : processus.flushe base = some ecrit) :
    ∃ outcome, (processus.avancer base).1 = .terminee outcome := by
  cases processus with
  | suppression ressource id => cases hflushe
  | marche ressource etat => cases hflushe
  | tache reste =>
      cases reste with
      | terminee outcome => cases hflushe
      | lecture suite => cases hflushe
      | ecriture session answer =>
          rw [Processus.avancer, Tache.avancer]
          split <;> exact ⟨_, rfl⟩

end Flush

namespace Commande

def initial (runtime : Runtime) (commandes : ℕ → Commande) (base : Base) : Systeme :=
  ⟨base, fun who => (commandes who).steps runtime⟩

/-- The flushes of a run in their order, and who made them. -/
def flushs : Systeme → List ℕ → List (ℕ × Ecrit) :=
  Run.trace Systeme.avancer fun systeme who =>
    ((systeme.taches who).flushe systeme.base).toList.map (who, ·)

/-- The database after the request of a flush, alone. -/
def rejoue (runtime : Runtime) (commandes : ℕ → Commande) (base : Base)
    (flush : ℕ × Ecrit) : Base :=
  match flush.2 with
  | .accepte => (commandes flush.1).requete.step runtime base
  | .refuse perdu => base.perdre perdu

/-- The answers of requests that run alone one after the other. -/
def reponses (runtime : Runtime) (commandes : ℕ → Commande) :
    Base → List (ℕ × Ecrit) → List (ℕ × Outcome) :=
  Run.trace (rejoue runtime commandes) fun base flush =>
    if flush.2 = .accepte then
      [(flush.1, ((commandes flush.1).requete.executer runtime base).1)]
    else []

/-- A run of overlapped requests is the serial run of its flushes: every accepted
request runs alone, and every refused insertion loses its number if it had one. -/
structure EnSerie (runtime : Runtime) (commandes : ℕ → Commande) (base : Base)
    (flushs : List (ℕ × Ecrit)) (final : Systeme) : Prop where
  nodup : (flushs.map Prod.fst).Nodup
  base_eq : final.base = Run.run (rejoue runtime commandes) base flushs
  answers : ∀ who alone, (who, alone) ∈ reponses runtime commandes base flushs →
    ∃ outcome, final.taches who = .terminee outcome ∧ outcome.Success ∧
      (outcome = alone ∨ (commandes who).Perdue alone)
  refused : ∀ who, (who, .accepte) ∉ flushs → ∀ outcome,
    final.taches who = .terminee outcome → ¬ outcome.Success
  lost : ∀ who ressource, (who, .refuse (some ressource)) ∈ flushs →
    (commandes who).requete.cree = some ressource

/-! ## Steps that keep the order -/

section Step

variable {runtime : Runtime} {commande : Commande} {base : Base} {processus : Processus}

theorem EnOrdre.avancer_of_none (hordre : commande.EnOrdre runtime base processus)
    (hflushe : processus.flushe base = none) :
    commande.EnOrdre runtime base (processus.avancer base).1 := by
  cases processus with
  | suppression ressource id => exact hordre.avancer_suppression
  | marche ressource etat => exact hordre.avancer_marche
  | tache reste =>
      cases reste with
      | terminee outcome => exact hordre
      | lecture suite => exact hordre base (.refl base)
      | ecriture session answer =>
          rw [Processus.flushe, Tache.flushe] at hflushe
          split at hflushe <;> cases hflushe

theorem EnOrdre.avancer_of_refuse (hordre : commande.EnOrdre runtime base processus)
    {perdu : Option Ressource} (hflushe : processus.flushe base = some (.refuse perdu)) :
    (processus.avancer base).2 = base.perdre perdu ∧
      (∀ apres, commande.EnOrdre runtime apres (processus.avancer base).1) ∧
        ∀ ressource ∈ perdu, commande.requete.cree = some ressource := by
  cases processus with
  | suppression ressource id => cases hflushe
  | marche ressource etat => cases hflushe
  | tache reste =>
      obtain ⟨hbase, outcome, hended, hrefused⟩ := Tache.avancer_of_refuse hflushe
      refine ⟨hbase, fun apres => ?_, fun ressource hressource => ?_⟩
      · rw [Processus.avancer, hended]
        exact hrefused
      · cases reste with
        | terminee outcome => cases hflushe
        | lecture suite => cases hflushe
        | ecriture session answer =>
            rw [Processus.flushe, Tache.flushe] at hflushe
            cases hflush : flush { session with base := base } with
            | ok value final =>
                rw [hflush] at hflushe
                cases hflushe
            | error outcome final =>
                rw [hflush] at hflushe
                cases hflushe
                obtain ⟨entity, hentity, rfl⟩ :=
                  (perdre_of_flush_error hflush).2 ressource hressource
                exact hordre.1 entity hentity

/-- An accepted flush does what the request alone does. -/
theorem EnOrdre.avancer_of_accepte (hordre : commande.EnOrdre runtime base processus)
    (hflushe : processus.flushe base = some .accepte) :
    ∃ outcome, (processus.avancer base).1 = .terminee outcome ∧
      commande.Accord runtime base (processus.avancer base).2 outcome := by
  cases processus with
  | suppression ressource id => cases hflushe
  | marche ressource etat => cases hflushe
  | tache reste =>
      cases reste with
      | terminee outcome => cases hflushe
      | lecture suite => cases hflushe
      | ecriture session answer =>
          rw [Processus.flushe, Tache.flushe] at hflushe
          rw [Processus.avancer, Tache.avancer]
          cases hflush : flush { session with base := base } with
          | error outcome final =>
              rw [hflush] at hflushe
              cases hflushe
          | ok value final => exact ⟨_, rfl, hordre.2 base (.refl base) final hflush⟩

end Step

/-! ## Runs of many clients -/

section Runs

variable {runtime : Runtime} {commandes : ℕ → Commande} {systeme : Systeme} {who : ℕ}

/-- Each request goes on as if it had only started now, or was flushed. -/
def Serieux (runtime : Runtime) (commandes : ℕ → Commande) (systeme : Systeme) : Prop :=
  ∀ who, (commandes who).EnOrdre runtime systeme.base (systeme.taches who) ∨
    ∃ outcome, systeme.taches who = .terminee outcome ∧ outcome.Success

theorem serieux_initial (runtime : Runtime) (commandes : ℕ → Commande) (base : Base) :
    Serieux runtime commandes (initial runtime commandes base) :=
  fun who => Or.inl (enOrdre_steps runtime (commandes who) base)

/-- A request that has ended makes no flush. -/
theorem Serieux.enOrdre_of_flushe (hserieux : Serieux runtime commandes systeme)
    {ecrit : Ecrit} (hflushe : (systeme.taches who).flushe systeme.base = some ecrit) :
    (commandes who).EnOrdre runtime systeme.base (systeme.taches who) := by
  refine (hserieux who).resolve_right ?_
  rintro ⟨outcome, hended, -⟩
  rw [hended] at hflushe
  cases hflushe

/-- The database only changes by the flush of the step. -/
theorem Serieux.base_avancer (hserieux : Serieux runtime commandes systeme) (who : ℕ) :
    (systeme.avancer who).base = Run.run (rejoue runtime commandes) systeme.base
      (((systeme.taches who).flushe systeme.base).toList.map (who, ·)) := by
  change ((systeme.taches who).avancer systeme.base).2 = _
  cases hflushe : (systeme.taches who).flushe systeme.base with
  | none => exact Processus.avancer_of_flushe_none hflushe
  | some ecrit =>
      have hordre := hserieux.enOrdre_of_flushe hflushe
      cases ecrit with
      | accepte =>
          obtain ⟨_, -, haccord⟩ := hordre.avancer_of_accepte hflushe
          exact haccord.state.symm
      | refuse perdu => exact (hordre.avancer_of_refuse hflushe).1

theorem Serieux.devient_avancer (hserieux : Serieux runtime commandes systeme) (who : ℕ) :
    systeme.base.Devient (systeme.avancer who).base := by
  rw [hserieux.base_avancer who]
  cases (systeme.taches who).flushe systeme.base with
  | none => exact .refl systeme.base
  | some ecrit =>
      cases ecrit with
      | accepte => exact Requete.devient_step (modifie_requete (commandes who))
      | refuse perdu =>
          exact Base.devient_lost (Base.lost_of_skipped (systeme.base.skipped_perdre perdu))

/-- What the step leaves of its request, unless it was an accepted flush. -/
theorem EnOrdre.avancer_self
    (hordre : (commandes who).EnOrdre runtime systeme.base (systeme.taches who))
    (hflushe : (systeme.taches who).flushe systeme.base ≠ some .accepte) :
    (commandes who).EnOrdre runtime (systeme.avancer who).base
      ((systeme.avancer who).taches who) := by
  rw [Systeme.taches_avancer_self]
  cases hecrit : (systeme.taches who).flushe systeme.base with
  | none =>
      have hbase : (systeme.avancer who).base = systeme.base :=
        Processus.avancer_of_flushe_none hecrit
      rw [hbase]
      exact hordre.avancer_of_none hecrit
  | some ecrit =>
      cases ecrit with
      | accepte => exact absurd hecrit hflushe
      | refuse perdu => exact (hordre.avancer_of_refuse hecrit).2.1 _

/-- The step lemma. -/
theorem Serieux.avancer (hserieux : Serieux runtime commandes systeme) (who : ℕ) :
    Serieux runtime commandes (systeme.avancer who) := by
  intro other
  by_cases hother : other = who
  · subst hother
    rcases hserieux other with hordre | ⟨outcome, hended, hsuccess⟩
    · by_cases hflushe : (systeme.taches other).flushe systeme.base = some .accepte
      · obtain ⟨outcome, hended, haccord⟩ := hordre.avancer_of_accepte hflushe
        rw [Systeme.taches_avancer_self]
        exact Or.inr ⟨outcome, hended, haccord.success⟩
      · exact Or.inl (hordre.avancer_self hflushe)
    · refine Or.inr ⟨outcome, ?_, hsuccess⟩
      rw [Systeme.taches_avancer_self, hended]
      rfl
  · rw [Systeme.taches_avancer_of_ne systeme hother]
    exact (hserieux other).imp_left fun hordre => hordre.mono (hserieux.devient_avancer who)

theorem flushs_cons (next : ℕ) (schedule : List ℕ) :
    flushs systeme (next :: schedule) =
      ((systeme.taches next).flushe systeme.base).toList.map (next, ·) ++
        flushs (systeme.avancer next) schedule := rfl

/-- A request that has ended stays so and is flushed no more. -/
theorem terminee_run {outcome : Outcome} :
    ∀ {schedule : List ℕ} {systeme : Systeme}, systeme.taches who = .terminee outcome →
      (Run.run Systeme.avancer systeme schedule).taches who = .terminee outcome ∧
        who ∉ (flushs systeme schedule).map Prod.fst := by
  intro schedule
  induction schedule with
  | nil => exact fun hended => ⟨hended, List.not_mem_nil⟩
  | cons next schedule ih =>
      intro systeme hended
      have hstays : (systeme.avancer next).taches who = .terminee outcome := by
        by_cases hnext : who = next
        · subst hnext
          rw [Systeme.taches_avancer_self, hended]
          rfl
        · rw [Systeme.taches_avancer_of_ne systeme hnext, hended]
      obtain ⟨hfinal, habsent⟩ := ih hstays
      refine ⟨hfinal, fun hmember => ?_⟩
      rw [flushs_cons, List.map_append, List.mem_append] at hmember
      rcases hmember with hfirst | hlater
      · obtain ⟨flush, hflush, rfl⟩ := List.mem_map.mp hfirst
        obtain ⟨ecrit, hecrit, rfl⟩ := List.mem_map.mp hflush
        have hflushe : (systeme.taches next).flushe systeme.base = some ecrit :=
          Option.mem_toList.mp hecrit
        rw [hended] at hflushe
        cases hflushe
      · exact habsent hlater

theorem nodup_flushs : ∀ {schedule : List ℕ} {systeme : Systeme},
    ((flushs systeme schedule).map Prod.fst).Nodup := by
  intro schedule
  induction schedule with
  | nil => exact List.nodup_nil
  | cons next schedule ih =>
      intro systeme
      rw [flushs_cons]
      cases hflushe : (systeme.taches next).flushe systeme.base with
      | none => exact ih
      | some ecrit =>
          obtain ⟨outcome, hended⟩ := Processus.terminee_of_flushe hflushe
          rw [← Systeme.taches_avancer_self] at hended
          exact List.nodup_cons.mpr ⟨(terminee_run hended).2, ih⟩

theorem answers_flushs : ∀ {schedule : List ℕ} {systeme : Systeme},
    Serieux runtime commandes systeme → ∀ who alone,
      (who, alone) ∈ reponses runtime commandes systeme.base (flushs systeme schedule) →
        ∃ outcome, (Run.run Systeme.avancer systeme schedule).taches who = .terminee outcome ∧
          outcome.Success ∧ (outcome = alone ∨ (commandes who).Perdue alone) := by
  intro schedule
  induction schedule with
  | nil => exact fun _ _ _ hmember => absurd hmember List.not_mem_nil
  | cons next schedule ih =>
      intro systeme hserieux who alone hmember
      have hrest := ih (hserieux.avancer next) who alone
      rw [hserieux.base_avancer next] at hrest
      rw [flushs_cons] at hmember
      cases hflushe : (systeme.taches next).flushe systeme.base with
      | none =>
          rw [hflushe] at hmember hrest
          exact hrest hmember
      | some ecrit =>
          rw [hflushe] at hmember hrest
          cases ecrit with
          | refuse perdu => exact hrest hmember
          | accepte =>
              rcases List.mem_cons.mp hmember with hfirst | hlater
              · cases hfirst
                obtain ⟨outcome, hended, haccord⟩ :=
                  (hserieux.enOrdre_of_flushe hflushe).avancer_of_accepte hflushe
                rw [← Systeme.taches_avancer_self] at hended
                exact ⟨outcome, (terminee_run hended).1, haccord.success, haccord.answer⟩
              · exact hrest hlater

theorem refused_flushs : ∀ {schedule : List ℕ} {systeme : Systeme},
    Serieux runtime commandes systeme →
      (commandes who).EnOrdre runtime systeme.base (systeme.taches who) →
        (who, .accepte) ∉ flushs systeme schedule → ∀ outcome,
          (Run.run Systeme.avancer systeme schedule).taches who = .terminee outcome →
            ¬ outcome.Success := by
  intro schedule
  induction schedule with
  | nil =>
      intro systeme _ hordre _ outcome hended
      rw [Run.run_nil] at hended
      rwa [hended] at hordre
  | cons next schedule ih =>
      intro systeme hserieux hordre habsent outcome hended
      rw [flushs_cons, List.mem_append, not_or] at habsent
      refine ih (hserieux.avancer next) ?_ habsent.2 outcome hended
      by_cases hother : who = next
      · subst hother
        refine hordre.avancer_self fun hflushe => habsent.1 ?_
        simp [hflushe]
      · rw [Systeme.taches_avancer_of_ne systeme hother]
        exact hordre.mono (hserieux.devient_avancer next)

/-- A refused flush only loses a number of the resource that its request creates. -/
theorem lost_flushs : ∀ {schedule : List ℕ} {systeme : Systeme},
    Serieux runtime commandes systeme → ∀ who ressource,
      (who, .refuse (some ressource)) ∈ flushs systeme schedule →
        (commandes who).requete.cree = some ressource := by
  intro schedule
  induction schedule with
  | nil => exact fun _ _ _ hmember => absurd hmember List.not_mem_nil
  | cons next schedule ih =>
      intro systeme hserieux who ressource hmember
      rw [flushs_cons, List.mem_append] at hmember
      rcases hmember with hfirst | hlater
      · obtain ⟨ecrit, hecrit, heq⟩ := List.mem_map.mp hfirst
        cases heq
        have hflushe := Option.mem_toList.mp hecrit
        exact ((hserieux.enOrdre_of_flushe hflushe).avancer_of_refuse hflushe).2.2
          ressource rfl
      · exact ih (hserieux.avancer next) who ressource hlater

/-- Whatever the order in which the clients read and flush, the run is the serial
run of its flushes in their order. -/
theorem run_enSerie (runtime : Runtime) (commandes : ℕ → Commande) (base : Base)
    (schedule : List ℕ) :
    EnSerie runtime commandes base (flushs (initial runtime commandes base) schedule)
      (Run.run Systeme.avancer (initial runtime commandes base) schedule) where
  nodup := nodup_flushs
  base_eq := Run.view_run_eq (Serieux runtime commandes)
    (fun _ who hserieux _ => ⟨hserieux.avancer who, hserieux.base_avancer who⟩)
    schedule _ (serieux_initial runtime commandes base) (Run.permitted_true schedule _)
  answers := answers_flushs (serieux_initial runtime commandes base)
  refused := fun who => refused_flushs (serieux_initial runtime commandes base)
    (enOrdre_steps runtime (commandes who) base)
  lost := lost_flushs (serieux_initial runtime commandes base)

end Runs

end Commande

end Bibliotheque
