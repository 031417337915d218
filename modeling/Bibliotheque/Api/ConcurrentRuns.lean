import Bibliotheque.Api.Concurrence
import Bibliotheque.Api.SerialRuns

/-!
# The journal of overlapping requests

Whatever the order of the reads and flushes of all clients, the database ends as
what the entries of the accepted requests make of it, in the order of their flushes.
An entry of a creation only depends on its body, the others also on what their request
had read.  The numbers of a resource are given out in the order of the flushes, and a
refused insertion may lose one in between.
-/

namespace Bibliotheque

open Bibliotheque.Action Bibliotheque.Commande

/-- The next step of the request belongs to its reads. -/
def Processus.lit : Processus → Bool
  | .tache (.lecture _) | .suppression _ _ | .marche _ _ => true
  | .tache (.terminee _) | .tache (.ecriture _ _) => false

/-- The number that a request was answered. -/
def Processus.numero : Processus → ℕ
  | .terminee outcome => outcome.numero
  | _ => 0

namespace Client

def initial (runtime : Runtime) (clients : ℕ → Client) (base : Base) : Systeme :=
  ⟨base, fun who => (clients who).steps runtime⟩

/-- What a step of `next` lets `who` read. -/
def lecture (who : ℕ) (systeme : Systeme) (next : ℕ) : List Base :=
  if next = who ∧ (systeme.taches who).lit then [systeme.base] else []

/-- The states that one client read, in order. -/
def lectures (who : ℕ) : Systeme → List ℕ → List Base :=
  Run.trace Systeme.avancer (lecture who)

/-- The clients whose flushes were accepted, in their order. -/
def ordre (systeme : Systeme) (schedule : List ℕ) : List ℕ :=
  ((flushs systeme schedule).filter (·.2 = .accepte)).map Prod.fst

section Runs

variable {runtime : Runtime} {clients : ℕ → Client} {systeme : Systeme} {who : ℕ}
variable {lus : ℕ → List Base}

/-! ## One step -/

/-- The request has ended with success and made its entry. -/
def Inscrite (runtime : Runtime) (client : Client) (lus : List Base) (processus : Processus)
    (entry : Inscription) : Prop :=
  ∃ outcome, processus = .terminee outcome ∧ outcome.Success ∧
    client.Inscrit runtime lus outcome.numero entry

section Step

variable {client : Client} {lus : List Base} {base : Base} {processus : Processus}

/-- A step that is no accepted flush keeps the promise, with what it has read. -/
theorem Tient.avancer (htient : client.Tient runtime lus processus)
    (hflushe : processus.flushe base ≠ some .accepte) :
    client.Tient runtime (lus ++ if processus.lit then [base] else [])
      (processus.avancer base).1 := by
  cases processus with
  | suppression ressource id =>
      obtain ⟨rfl, rfl⟩ := htient
      have hlit : (Processus.suppression ressource id).lit = true := rfl
      rw [hlit, if_pos rfl, Processus.avancer]
      split
      · rename_i hid
        exact ⟨id, rfl, Marche.rejouee_singleton
          ((Ressource.mem_lignes_ligne base.toTables ressource id).mpr hid)⟩
      · exact ressource.not_success_missing
  | marche ressource etat =>
      obtain ⟨id, rfl, hrejouee⟩ := htient
      have hnext := Marche.rejouee_append hrejouee base
      have hlit : (Processus.marche ressource etat).lit = true := rfl
      rw [hlit, if_pos rfl, Processus.avancer]
      split
      · rename_i hpile
        have hend := List.isEmpty_iff.mp hpile
        rw [Marche.avancer, hend] at hnext
        exact promet_marche hnext hend
      · cases havancer : etat.avancer base.toTables with
        | none => exact not_success_thrown _
        | some suivante => exact ⟨id, rfl, hnext.trans havancer⟩
  | tache reste =>
      cases reste with
      | terminee outcome => exact htient
      | lecture suite => exact htient base
      | ecriture session answer =>
          cases hecrit : (Tache.ecriture session answer).flushe base with
          | none =>
              rw [Tache.flushe] at hecrit
              split at hecrit <;> cases hecrit
          | some ecrit =>
              cases ecrit with
              | accepte => exact absurd hecrit hflushe
              | refuse perdu =>
                  obtain ⟨-, outcome, hended, hrefused⟩ := Tache.avancer_of_refuse hecrit
                  rw [Processus.avancer, hended]
                  exact hrefused

/-- An accepted flush makes the entry of the request. -/
theorem Tient.inscrite (htient : client.Tient runtime lus processus)
    (hflushe : processus.flushe base = some .accepte) :
    ∃ entry, client.Inscrite runtime lus (processus.avancer base).1 entry ∧
      Archive.Step base.fonds entry (processus.avancer base).2.fonds := by
  cases processus with
  | suppression ressource id => cases hflushe
  | marche ressource etat => cases hflushe
  | tache reste =>
      cases reste with
      | terminee outcome => cases hflushe
      | lecture suite => cases hflushe
      | ecriture session answer =>
          rw [Processus.flushe, Tache.flushe] at hflushe
          rw [Processus.avancer, Tache.avancer]
          cases hflush : flush { session with base := base } with
          | error outcome final =>
              rw [hflush] at hflushe
              cases hflushe
          | ok value final =>
              obtain ⟨hsuccess, entry, hentry, hstep⟩ := htient base final hflush
              exact ⟨entry, ⟨_, rfl, hsuccess, hentry⟩, hstep⟩

/-- A flush that is not accepted changes no file. -/
theorem lost_avancer (hflushe : processus.flushe base ≠ some .accepte) :
    Archive.Lost base.fonds (processus.avancer base).2.fonds := by
  cases hecrit : processus.flushe base with
  | none =>
      rw [Processus.avancer_of_flushe_none hecrit]
      exact Base.lost_of_skipped base.skipped_refl
  | some ecrit =>
      cases ecrit with
      | accepte => exact absurd hecrit hflushe
      | refuse perdu =>
          cases processus with
          | suppression ressource id => cases hecrit
          | marche ressource etat => cases hecrit
          | tache reste =>
              have hbase : ((Processus.tache reste).avancer base).2 = base.perdre perdu :=
                (Tache.avancer_of_refuse hecrit).1
              rw [hbase]
              exact Base.lost_of_skipped (base.skipped_perdre perdu)

end Step

/-! ## Reads that are out of date -/

/-- An entry rewrites and removes rows that its request had read. -/
theorem exists_lu_of_inscrit {client : Client} {lus : List Base} {numero : ℕ}
    {entry : Inscription} {ressource : Ressource} {number : ℕ}
    (hentry : client.Inscrit runtime lus numero entry)
    (htouched : entry.Removes ressource number ∨ entry.Changes ressource number) :
    ∃ lu ∈ lus, (lu.fonds.file ressource number).isSome := by
  cases client with
  | creerAuteur data =>
      obtain ⟨auteur, -, rfl⟩ := hentry
      exact (htouched.elim id id).elim
  | modifier source key data =>
      obtain ⟨row, charge, hchargee, -, rfl⟩ := hentry
      obtain ⟨rfl, rfl⟩ := htouched.resolve_left fun hremoves => hremoves
      obtain ⟨lu, hlu, hfound⟩ := Option.bind_eq_some_iff.mp hchargee
      obtain ⟨old, hold, -⟩ := Option.bind_eq_some_iff.mp hfound
      exact ⟨lu, List.mem_of_mem_head? hlu, Option.isSome_of_eq_some hold⟩
  | ecrire commande =>
      by_cases hdelete : ∃ source key, commande = .delete source key
      · obtain ⟨source, key, rfl⟩ := hdelete
        obtain ⟨etat, hrejouee, -, rfl⟩ := hentry
        have hmarked := htouched.resolve_right fun hchanges => hchanges
        obtain ⟨lu, hlu, hstored⟩ := (Marche.fondee_rejouee hrejouee).exists_lu
          (Marche.mem_lignes_of_rejouee hrejouee) hmarked
        exact ⟨lu, hlu, (lu.filed_iff ressource number).mpr
          ((Ressource.mem_lignes_ligne _ _ _).mp hstored)⟩
      · have hcree : ∀ source key, commande ≠ .delete source key :=
          fun source key heq => hdelete ⟨source, key, heq⟩
        obtain ⟨lu, -, hinscription⟩ := (inscrit_creation hcree).mp hentry
        have hnone : commande.requete.modifie = none ∧ commande.requete.supprime = none := by
          cases commande with
          | delete source key => exact absurd rfl (hcree source key)
          | _ => exact ⟨rfl, rfl⟩
        rcases Requete.inscription_cases hinscription with
          ⟨_, _, _, rfl, -⟩ | ⟨_, _, _, _, -, -, hmodifie, -⟩ | ⟨_, _, -, -, -, hsupprime⟩
        · exact (htouched.elim id id).elim
        · cases hnone.1.symm.trans hmodifie
        · cases hnone.2.symm.trans hsupprime

/-- The database came from the earlier one by some entries. -/
def Suite (avant base : Base) : Prop :=
  ∃ journal, Archive.Path avant.fonds journal base.fonds

theorem Suite.refl (base : Base) : Suite base base := ⟨[], .nil _⟩

theorem Suite.tail {avant base final : Base} {entry : Inscription} (hsuite : Suite avant base)
    (hstep : Archive.Step base.fonds entry final.fonds) : Suite avant final := by
  obtain ⟨journal, hpath⟩ := hsuite
  exact ⟨journal ++ [entry], hpath.append (.cons hstep (.nil _))⟩

theorem Suite.lose {avant base final : Base} (hsuite : Suite avant base)
    (hlost : Archive.Lost base.fonds final.fonds) : Suite avant final := by
  obtain ⟨journal, hpath⟩ := hsuite
  exact ⟨journal ++ [], hpath.append (.lose hlost (.nil _))⟩

/-- A request that read earlier states only touches numbers that were given out. -/
theorem issued_of_inscrit {client : Client} {lus : List Base} {base : Base} {numero : ℕ}
    {entry : Inscription} (hlus : ∀ lu ∈ lus, Suite lu base)
    (hentry : client.Inscrit runtime lus numero entry) (ressource : Ressource) (id : ℕ)
    (htouched : entry.Removes ressource id ∨ entry.Changes ressource id) :
    id ∈ base.fonds.issued ressource := by
  obtain ⟨lu, hlu, hfiled⟩ := exists_lu_of_inscrit hentry htouched
  obtain ⟨journal, hpath⟩ := hlus lu hlu
  exact hpath.issued_mono (lu.fonds.issued_of_filed _ _ hfiled)

/-- The step of a flush reads nothing. -/
theorem lecture_of_flushe {next : ℕ} {ecrit : Ecrit}
    (hflushe : (systeme.taches who).flushe systeme.base = some ecrit) :
    lecture who systeme next = [] := by
  refine if_neg fun hboth => ?_
  cases hprocessus : systeme.taches who with
  | suppression ressource id =>
      rw [hprocessus] at hflushe
      cases hflushe
  | marche ressource etat =>
      rw [hprocessus] at hflushe
      cases hflushe
  | tache reste =>
      rw [hprocessus] at hflushe hboth
      cases reste with
      | terminee outcome => cases hflushe
      | lecture suite => cases hflushe
      | ecriture session answer => cases hboth.2

/-! ## Any order of steps -/

/-- What the requests have read is earlier, and each of them keeps its promise with
it, or was flushed. -/
structure Tenu (runtime : Runtime) (clients : ℕ → Client) (lus : ℕ → List Base)
    (systeme : Systeme) : Prop where
  earlier : ∀ who, ∀ lu ∈ lus who, Suite lu systeme.base
  kept : ∀ who, (clients who).Tient runtime (lus who) (systeme.taches who) ∨
    ∃ outcome, systeme.taches who = .terminee outcome ∧ outcome.Success

theorem tenu_initial (runtime : Runtime) (clients : ℕ → Client) (base : Base) :
    Tenu runtime clients (fun _ => []) (initial runtime clients base) where
  earlier := fun _ _ hlu => absurd hlu List.not_mem_nil
  kept := fun who => Or.inl (tient_steps runtime (clients who))

/-- An accepted flush of a request that keeps its promise. -/
theorem Tenu.inscrite (htenu : Tenu runtime clients lus systeme)
    (hflushe : (systeme.taches who).flushe systeme.base = some .accepte) :
    ∃ entry, (clients who).Inscrite runtime (lus who) ((systeme.avancer who).taches who) entry ∧
      Archive.Step systeme.base.fonds entry (systeme.avancer who).base.fonds := by
  rw [Systeme.taches_avancer_self]
  rcases htenu.kept who with htient | ⟨outcome, hended, -⟩
  · exact htient.inscrite hflushe
  · rw [hended] at hflushe
    cases hflushe

/-- Nothing that was read gets later than the database. -/
theorem Tenu.suite_avancer (htenu : Tenu runtime clients lus systeme) (next : ℕ)
    {avant : Base} (hsuite : Suite avant systeme.base) :
    Suite avant (systeme.avancer next).base := by
  by_cases hflushe : (systeme.taches next).flushe systeme.base = some .accepte
  · obtain ⟨entry, -, hstep⟩ := htenu.inscrite hflushe
    exact hsuite.tail hstep
  · exact hsuite.lose (lost_avancer hflushe)

/-- A request whose step is no accepted flush. -/
theorem Tient.avancer_systeme {next : ℕ}
    (htient : (clients who).Tient runtime (lus who) (systeme.taches who))
    (hflushe : next = who → (systeme.taches who).flushe systeme.base ≠ some .accepte) :
    (clients who).Tient runtime (lus who ++ lecture who systeme next)
      ((systeme.avancer next).taches who) := by
  by_cases hnext : next = who
  · subst hnext
    rw [Systeme.taches_avancer_self]
    simpa only [lecture, true_and] using htient.avancer (hflushe rfl)
  · rw [Systeme.taches_avancer_of_ne systeme (Ne.symm hnext), lecture,
      if_neg fun hboth => hnext hboth.1, List.append_nil]
    exact htient

/-- The step lemma. -/
theorem Tenu.avancer (htenu : Tenu runtime clients lus systeme) (next : ℕ) :
    Tenu runtime clients (fun who => lus who ++ lecture who systeme next)
      (systeme.avancer next) where
  earlier := by
    intro who lu hlu
    apply htenu.suite_avancer
    rcases List.mem_append.mp hlu with hold | hnew
    · exact htenu.earlier who lu hold
    · rw [lecture] at hnew
      split at hnew
      · rw [List.mem_singleton.mp hnew]
        exact .refl _
      · exact absurd hnew List.not_mem_nil
  kept := by
    intro who
    rcases htenu.kept who with htient | ⟨outcome, hended, hsuccess⟩
    · by_cases hflushe : next = who ∧
          (systeme.taches who).flushe systeme.base = some .accepte
      · obtain ⟨rfl, haccepte⟩ := hflushe
        obtain ⟨entry, ⟨outcome, hended, hsuccess, -⟩, -⟩ := htenu.inscrite haccepte
        exact Or.inr ⟨outcome, hended, hsuccess⟩
      · exact Or.inl (htient.avancer_systeme fun hnext haccepte => hflushe ⟨hnext, haccepte⟩)
    · refine Or.inr ⟨outcome, ?_, hsuccess⟩
      have hstays := (@terminee_run who outcome [next] systeme hended).1
      rwa [Run.run_cons, Run.run_nil] at hstays

theorem lectures_cons (who next : ℕ) (schedule : List ℕ) :
    lectures who systeme (next :: schedule) =
      lecture who systeme next ++ lectures who (systeme.avancer next) schedule := rfl

theorem ordre_cons (next : ℕ) (schedule : List ℕ) :
    ordre systeme (next :: schedule) =
      (if (systeme.taches next).flushe systeme.base = some .accepte then [next] else []) ++
        ordre (systeme.avancer next) schedule := by
  rw [ordre, ordre, flushs_cons, List.filter_append, List.map_append]
  refine congrArg (· ++ _) ?_
  cases (systeme.taches next).flushe systeme.base with
  | none => rfl
  | some ecrit => cases ecrit <;> simp

theorem nodup_ordre (schedule : List ℕ) (systeme : Systeme) : (ordre systeme schedule).Nodup :=
  (@nodup_flushs schedule systeme).sublist (List.filter_sublist.map _)

/-- The run lemma for what was read. -/
theorem Tenu.run : ∀ {schedule : List ℕ} {lus : ℕ → List Base} {systeme : Systeme},
    Tenu runtime clients lus systeme →
      Tenu runtime clients (fun who => lus who ++ lectures who systeme schedule)
        (Run.run Systeme.avancer systeme schedule) := by
  intro schedule
  induction schedule with
  | nil =>
      intro lus systeme htenu
      simpa only [lectures, Run.trace_nil, List.append_nil, Run.run_nil] using htenu
  | cons next schedule ih =>
      intro lus systeme htenu
      simpa only [lectures_cons, Run.run_cons, List.append_assoc] using ih (htenu.avancer next)

/-- A request that has ended reads no more. -/
theorem lectures_terminee {outcome : Outcome} :
    ∀ {schedule : List ℕ} {systeme : Systeme}, systeme.taches who = .terminee outcome →
      lectures who systeme schedule = [] := by
  intro schedule
  induction schedule with
  | nil => exact fun _ => rfl
  | cons next schedule ih =>
      intro systeme hended
      have hstays := (@terminee_run who outcome [next] systeme hended).1
      rw [Run.run_cons, Run.run_nil] at hstays
      rw [lectures_cons, ih hstays, lecture, hended, if_neg (fun hboth => nomatch hboth.2),
        List.append_nil]

/-- The run lemma: the entries of the accepted requests lead to the final database. -/
theorem Tenu.exists_journal : ∀ {schedule : List ℕ} {lus : ℕ → List Base} {systeme : Systeme},
    Tenu runtime clients lus systeme →
      ∃ journal, List.Forall₂ (fun who entry => (clients who).Inscrite runtime
            (lus who ++ lectures who systeme schedule)
            ((Run.run Systeme.avancer systeme schedule).taches who) entry)
          (ordre systeme schedule) journal ∧
        Archive.Grounded systeme.base.fonds journal
          (Run.run Systeme.avancer systeme schedule).base.fonds := by
  intro schedule
  induction schedule with
  | nil => exact fun _ => ⟨[], .nil, .nil _⟩
  | cons next schedule ih =>
      intro lus systeme htenu
      obtain ⟨journal, hentries, hpath⟩ := ih (htenu.avancer next)
      have hlater : List.Forall₂ (fun who entry => (clients who).Inscrite runtime
            (lus who ++ lectures who systeme (next :: schedule))
            ((Run.run Systeme.avancer systeme (next :: schedule)).taches who) entry)
          (ordre (systeme.avancer next) schedule) journal := by
        refine hentries.imp fun who entry hentry => ?_
        rwa [lectures_cons, Run.run_cons, ← List.append_assoc]
      rw [ordre_cons]
      by_cases hflushe : (systeme.taches next).flushe systeme.base = some .accepte
      · obtain ⟨entry, ⟨outcome, hended, hsuccess, hentry⟩, hstep⟩ := htenu.inscrite hflushe
        have hread : lectures next systeme (next :: schedule) = [] := by
          rw [lectures_cons, lectures_terminee hended, List.append_nil]
          exact lecture_of_flushe hflushe
        have hfirst : (clients next).Inscrite runtime
            (lus next ++ lectures next systeme (next :: schedule))
            ((Run.run Systeme.avancer systeme (next :: schedule)).taches next) entry := by
          rw [hread, List.append_nil]
          exact ⟨outcome, (terminee_run hended).1, hsuccess, hentry⟩
        have htouched := issued_of_inscrit (htenu.earlier next) hentry
        rw [if_pos hflushe]
        exact ⟨entry :: journal, .cons hfirst hlater, .cons hstep htouched hpath⟩
      · rw [if_neg hflushe]
        exact ⟨journal, hlater, .lose (lost_avancer hflushe) hpath⟩

/-- A request whose flush was not accepted has not ended with success. -/
theorem Tenu.refused : ∀ {schedule : List ℕ} {lus : ℕ → List Base} {systeme : Systeme},
    Tenu runtime clients lus systeme →
      (clients who).Tient runtime (lus who) (systeme.taches who) →
        who ∉ ordre systeme schedule → ∀ outcome,
          (Run.run Systeme.avancer systeme schedule).taches who = .terminee outcome →
            ¬ outcome.Success := by
  intro schedule
  induction schedule with
  | nil =>
      intro lus systeme _ htient _ outcome hended
      rw [Run.run_nil] at hended
      rwa [hended] at htient
  | cons next schedule ih =>
      intro lus systeme htenu htient habsent outcome hended
      rw [ordre_cons, List.mem_append, not_or] at habsent
      refine ih (htenu.avancer next) (htient.avancer_systeme ?_) habsent.2 outcome hended
      rintro rfl haccepte
      exact habsent.1 (by simp [haccepte])

/-! ## Numbers -/

theorem adds_inscrit_iff {client : Client} {lus : List Base} {numero : ℕ} {entry : Inscription}
    (hentry : client.Inscrit runtime lus numero entry) (ressource : Ressource) (id : ℕ) :
    entry.Adds ressource id ↔ client.requete.cree = some ressource ∧ id = numero := by
  cases client with
  | creerAuteur data =>
      obtain ⟨auteur, -, rfl⟩ := hentry
      simp [Archive.Entry.Adds, requete, Requete.cree, eq_comm]
  | modifier source number data =>
      obtain ⟨row, charge, -, -, rfl⟩ := hentry
      cases source <;> simp [Archive.Entry.Adds, requete, Ressource.update, Requete.cree]
  | ecrire commande =>
      by_cases hdelete : ∃ source number, commande = .delete source number
      · obtain ⟨source, number, rfl⟩ := hdelete
        obtain ⟨etat, -, -, rfl⟩ := hentry
        cases source <;>
          simp [Archive.Entry.Adds, requete, Commande.requete, Ressource.delete, Requete.cree]
      · obtain ⟨lu, -, hinscription⟩ := (inscrit_creation
          fun source number heq => hdelete ⟨source, number, heq⟩).mp hentry
        exact Requete.adds_inscription_iff hinscription ressource id

theorem next_le_of_issued {base final : Base} {ressource : Ressource}
    (hissued : ∀ number, number ∈ base.fonds.issued ressource →
      number ∈ final.fonds.issued ressource) :
    (ressource.table base.toTables).next ≤ (ressource.table final.toTables).next := by
  by_contra hless
  rw [not_le] at hless
  have hlast := hissued _ ((base.mem_issued_fonds ressource _).mpr hless)
  exact lt_irrefl _ ((final.mem_issued_fonds ressource _).mp hlast)

/-- The numbers that the accepted creations of a resource were answered, in the order of
their flushes. -/
def numeros (clients : ℕ → Client) (systeme : Systeme) (schedule : List ℕ)
    (ressource : Ressource) : List ℕ :=
  ((ordre systeme schedule).filter fun who =>
    (clients who).requete.cree = some ressource).map fun who =>
      ((Run.run Systeme.avancer systeme schedule).taches who).numero

theorem numeros_cons (clients : ℕ → Client) (systeme : Systeme) (next : ℕ)
    (schedule : List ℕ) (ressource : Ressource) :
    numeros clients systeme (next :: schedule) ressource =
      (if (systeme.taches next).flushe systeme.base = some .accepte ∧
          (clients next).requete.cree = some ressource then
        [((Run.run Systeme.avancer (systeme.avancer next) schedule).taches next).numero]
      else []) ++ numeros clients (systeme.avancer next) schedule ressource := by
  rw [numeros, ordre_cons, Run.run_cons, List.filter_append, List.map_append]
  refine congrArg (· ++ _) ?_
  by_cases hflushe : (systeme.taches next).flushe systeme.base = some .accepte
  · by_cases hcree : (clients next).requete.cree = some ressource
    · simp [hflushe, hcree]
    · simp [hflushe, hcree]
  · simp [hflushe]

/-- No step takes a number back. -/
theorem Tenu.next_le (htenu : Tenu runtime clients lus systeme) (ressource : Ressource)
    (next : ℕ) :
    (ressource.table systeme.base.toTables).next ≤
      (ressource.table (systeme.avancer next).base.toTables).next := by
  by_cases hflushe : (systeme.taches next).flushe systeme.base = some .accepte
  · obtain ⟨entry, -, hstep⟩ := htenu.inscrite hflushe
    exact next_le_of_issued fun number => hstep.issued_mono
  · exact next_le_of_issued fun number hissued =>
      (lost_avancer hflushe).issued ressource hissued

/-- The step lemma for numbers: an accepted creation answers one that was not issued
before and is issued now. -/
theorem Tenu.numero_flushe (htenu : Tenu runtime clients lus systeme) {ressource : Ressource}
    {next : ℕ} (hflushe : (systeme.taches next).flushe systeme.base = some .accepte)
    (hcree : (clients next).requete.cree = some ressource) (schedule : List ℕ) :
    let numero :=
      ((Run.run Systeme.avancer (systeme.avancer next) schedule).taches next).numero
    (ressource.table systeme.base.toTables).next ≤ numero ∧
      numero < (ressource.table (systeme.avancer next).base.toTables).next := by
  obtain ⟨entry, ⟨outcome, hended, -, hentry⟩, hstep⟩ := htenu.inscrite hflushe
  have hnumero : ((Run.run Systeme.avancer (systeme.avancer next) schedule).taches
      next).numero = outcome.numero :=
    congrArg Processus.numero (terminee_run hended).1
  have hadds := (adds_inscrit_iff hentry ressource outcome.numero).mpr ⟨hcree, rfl⟩
  have hfresh := hstep.fresh ressource outcome.numero hadds
  have hissued := (hstep.issued ressource outcome.numero).mpr (Or.inr hadds)
  rw [Base.mem_issued_fonds] at hfresh hissued
  rw [hnumero]
  exact ⟨not_lt.mp hfresh, hissued⟩

/-- The run lemma for numbers. -/
theorem Tenu.numeros_sorted (ressource : Ressource) :
    ∀ {schedule : List ℕ} {lus : ℕ → List Base} {systeme : Systeme},
      Tenu runtime clients lus systeme →
        (numeros clients systeme schedule ressource).Pairwise (· < ·) ∧
          ∀ numero ∈ numeros clients systeme schedule ressource,
            (ressource.table systeme.base.toTables).next ≤ numero := by
  intro schedule
  induction schedule with
  | nil => exact fun _ => ⟨.nil, fun _ hnumero => absurd hnumero List.not_mem_nil⟩
  | cons next schedule ih =>
      intro lus systeme htenu
      obtain ⟨hsorted, hlater⟩ := ih (htenu.avancer next)
      have hfrom : ∀ numero ∈ numeros clients (systeme.avancer next) schedule ressource,
          (ressource.table systeme.base.toTables).next ≤ numero :=
        fun numero hmember => (htenu.next_le ressource next).trans (hlater numero hmember)
      rw [numeros_cons]
      split
      · rename_i hboth
        obtain ⟨hfirst, hissued⟩ := htenu.numero_flushe hboth.1 hboth.2 schedule
        rw [List.singleton_append, List.pairwise_cons, List.forall_mem_cons]
        exact ⟨⟨fun numero hmember => lt_of_lt_of_le hissued (hlater numero hmember),
          hsorted⟩, hfirst, hfrom⟩
      · rw [List.nil_append]
        exact ⟨hsorted, hfrom⟩

end Runs

end Client

/-- Requests of any number of clients, and the order in which they take steps. -/
structure Execution where
  runtime : Runtime
  clients : ℕ → Client
  base : Base
  schedule : List ℕ

namespace Execution

def debut (execution : Execution) : Systeme :=
  Client.initial execution.runtime execution.clients execution.base

def fin (execution : Execution) : Systeme :=
  Run.run Systeme.avancer execution.debut execution.schedule

/-- The clients whose flushes were accepted, in their order. -/
def ordre (execution : Execution) : List ℕ :=
  Client.ordre execution.debut execution.schedule

/-- The states that one client read, in order. -/
def lus (execution : Execution) (who : ℕ) : List Base :=
  Client.lectures who execution.debut execution.schedule

/-- The number that a client was answered. -/
def numero (execution : Execution) (who : ℕ) : ℕ :=
  (execution.fin.taches who).numero

/-- The run is what the entries of the requests in `ordre` make of the library; the
others have not ended with success. -/
structure Registre (execution : Execution) (journal : List Inscription) : Prop where
  nodup : execution.ordre.Nodup
  entries : List.Forall₂ (fun who entry =>
      (execution.clients who).Inscrit execution.runtime (execution.lus who)
        (execution.numero who) entry)
    execution.ordre journal
  path : Archive.Grounded execution.base.fonds journal execution.fin.base.fonds
  success : ∀ who ∈ execution.ordre, ∃ outcome,
    execution.fin.taches who = .terminee outcome ∧ outcome.Success
  refused : ∀ who ∉ execution.ordre, ∀ outcome,
    execution.fin.taches who = .terminee outcome → ¬ outcome.Success

/-- Whatever the order of the steps, the database is what the entries of the accepted
requests make of it. -/
theorem run_registre (execution : Execution) :
    ∃ journal, execution.Registre journal := by
  have htenu := Client.tenu_initial execution.runtime execution.clients execution.base
  obtain ⟨journal, hentries, hpath⟩ :=
    @Client.Tenu.exists_journal _ _ execution.schedule _ _ htenu
  refine ⟨journal, Client.nodup_ordre _ _, ?_, hpath, fun who hwho => ?_, fun who => ?_⟩
  · refine hentries.imp fun who entry hinscrite => ?_
    obtain ⟨outcome, hended, -, hentry⟩ := hinscrite
    rw [List.nil_append] at hentry
    have hnumero : execution.numero who = outcome.numero := congrArg Processus.numero hended
    rwa [← hnumero] at hentry
  · obtain ⟨entry, -, outcome, hended, hsuccess, -⟩ :=
      Requete.exists_mem_of_forall₂ hentries hwho
    exact ⟨outcome, hended, hsuccess⟩
  · exact htenu.refused (Client.tient_steps execution.runtime (execution.clients who))

/-- The accepted creations of a resource get increasing numbers in the order of their
flushes, from the counter of its table on. -/
theorem numeros_ordre (execution : Execution) (ressource : Ressource) :
    ((execution.ordre.filter fun who =>
        (execution.clients who).requete.cree = some ressource).map execution.numero).Pairwise
          (· < ·) ∧
      ∀ who ∈ execution.ordre, (execution.clients who).requete.cree = some ressource →
        (ressource.table execution.base.toTables).next ≤ execution.numero who := by
  have htenu := Client.tenu_initial execution.runtime execution.clients execution.base
  obtain ⟨hsorted, hle⟩ :=
    @Client.Tenu.numeros_sorted _ _ ressource execution.schedule _ _ htenu
  refine ⟨hsorted, fun who hwho hcree => hle _ (List.mem_map.mpr ⟨who, ?_, rfl⟩)⟩
  exact List.mem_filter.mpr ⟨hwho, by simpa using hcree⟩

/-- Every state that was read is earlier than the last one. -/
theorem suite_of_mem_lus (execution : Execution) {who : ℕ} {lu : Base}
    (hlu : lu ∈ execution.lus who) : Client.Suite lu execution.fin.base := by
  have htenu := @Client.Tenu.run _ _ execution.schedule _ _
    (Client.tenu_initial execution.runtime execution.clients execution.base)
  exact htenu.earlier who lu (List.mem_append_right _ hlu)

end Execution

end Bibliotheque
