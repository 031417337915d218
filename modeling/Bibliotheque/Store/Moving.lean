import Bibliotheque.Store.Orphans

/-!
# Moving a child between two parents

A child is moved by two calls: the new parent adds it and the old parent
removes it.  On the objects both orders end with the same owning field.  In the
database they do not: the removal that comes last leaves the child scheduled as
an orphan, and the flush deletes it.
-/

namespace Bibliotheque

open Objets

/-- The order of the two calls that move a child. -/
inductive Ordre where
  | ajoutPuisRetrait
  | retraitPuisAjout
  deriving DecidableEq

/-- A child of a managed parent, and another managed parent. -/
inductive Deplacement (base : Base) where
  | livre (id : ℕ) (row : Livre) (vers : ℕ) (hrow : base.livre.find id = some row)
      (hvers : vers ∈ base.categorie.ids) (hautre : vers ≠ row.categorie)
  | emprunt (id : ℕ) (row : Emprunt) (vers : ℕ) (hrow : base.emprunt.find id = some row)
      (hvers : vers ∈ base.livre.ids) (hautre : vers ≠ row.livre)

namespace Deplacement

variable {base : Base}

/-- The new parent takes the child. -/
def ajout : Deplacement base → Appel ℕ ℕ ℕ ℕ
  | .livre id _ vers _ _ _ => .categorieAddLivre vers id
  | .emprunt id _ vers _ _ _ => .livreAddEmprunt vers id

/-- The old parent gives it up. -/
def retrait : Deplacement base → Appel ℕ ℕ ℕ ℕ
  | .livre id row _ _ _ _ => .categorieRemoveLivre row.categorie id
  | .emprunt id row _ _ _ _ => .livreRemoveEmprunt row.livre id

def appels (deplacement : Deplacement base) : Ordre → List (Appel ℕ ℕ ℕ ℕ)
  | .ajoutPuisRetrait => [deplacement.ajout, deplacement.retrait]
  | .retraitPuisAjout => [deplacement.retrait, deplacement.ajout]

/-- Load the collections, make the two calls and flush. -/
def executer (deplacement : Deplacement base) (ordre : Ordre) : Except Throwable Base :=
  (Run.run UnitOfWork.appeler (.load base) (deplacement.appels ordre)).flush

/-- The child is stored under its new parent.  A book still has its loans and
its reservation. -/
def Moved : Deplacement base → Base → Prop
  | .livre id row vers _ _ _, after =>
      after.livre.find id = some { row with categorie := vers } ∧
        after.emprunt.rows.filter (·.2.livre = id) =
          base.emprunt.rows.filter (·.2.livre = id) ∧
        after.reservations.rows.filter (·.2.livre = id) =
          base.reservations.rows.filter (·.2.livre = id)
  | .emprunt id row vers _ _ _, after =>
      after.emprunt.find id = some { row with livre := vers }

section Livre

/-- The constraints after the update of a moved book. -/
theorem valid_livre {id vers : ℕ} (hvers : vers ∈ base.categorie.ids) :
    Tables.Valid { base.toTables with
      livre := base.livre.modify id fun row => { row with categorie := vers } } := by
  have hrewrite : ∀ old, base.livre.find id = some old →
      Livre.Fits { old with categorie := vers } ∧ vers ∈ base.categorie.ids :=
    fun old hold =>
      ⟨base.valid.livre_fits (id, old) ((Table.find_eq_some_iff _ _ _).mp hold), hvers⟩
  simpa using base.valid.update_livre hrewrite List.nodup_nil (by simp)

variable {id vers : ℕ} {row : Livre} (hrow : base.livre.find id = some row)
variable (hvers : vers ∈ base.categorie.ids) (hautre : vers ≠ row.categorie)

/-- Removed and then added, the book is only updated. -/
theorem executer_livre_retrait :
    ∃ after, (livre id row vers hrow hvers hautre).executer .retraitPuisAjout = .ok after ∧
      after.toTables = { base.toTables with
        livre := base.livre.modify id fun row => { row with categorie := vers } } := by
  let unite := Run.run UnitOfWork.appeler (.load base)
    ((livre id row vers hrow hvers hautre).appels .retraitPuisAjout)
  have hlisted := base.livre.listed_possession (·.categorie)
  have habsent := base.livre.not_mem_collection_possession (·.categorie) hrow hautre
  have hlisting := base.livre.mem_collection_possession_self (·.categorie) hrow
  have howner : ∀ other, unite.objets.categorieLivres.owner other =
      if other = id then some vers
      else (base.livre.possession (·.categorie)).owner other :=
    Possession.owner_remove_add hlisted habsent
  have hemprunts : unite.EmpruntsLoaded := ⟨rfl, rfl⟩
  have horphans : unite.orphanRemovals = [] :=
    UnitOfWork.cancel_scheduled rfl hlisting
      (Possession.not_mem_collection_remove hlisted habsent)
  have hmanaged : unite.managed [] = { base.toTables with
      livre := base.livre.modify id fun row => { row with categorie := vers } } := by
    have hlivre := @UnitOfWork.managed_livre_moved unite [] id vers howner
    simp only [List.not_mem_nil, if_false] at hlivre
    rw [UnitOfWork.managed_eq, hlivre, UnitOfWork.managed_emprunt_loaded hemprunts]
    rfl
  have hvalid : (unite.managed []).Valid := by
    rw [hmanaged]
    exact valid_livre hvers
  have hkeys : base.SameKeys (unite.managed []) := by
    rw [hmanaged]
    exact { base.sameKeys_refl with livre := by simp }
  exact ⟨_, UnitOfWork.flush_update (UnitOfWork.owned_of_livre_moved howner hemprunts)
    horphans hkeys hvalid, hmanaged⟩

/-- Added and then removed, the book is deleted with everything its cascades
reach, although its owning field names the new categorie. -/
theorem executer_livre_ajout :
    ∃ removed after, base.doRemove (.livre id) = some removed ∧
      (livre id row vers hrow hvers hautre).executer .ajoutPuisRetrait = .ok after ∧
        after.toTables = base.without removed := by
  let unite := Run.run UnitOfWork.appeler (.load base)
    ((livre id row vers hrow hvers hautre).appels .ajoutPuisRetrait)
  have hlisted := base.livre.listed_possession (·.categorie)
  have habsent := base.livre.not_mem_collection_possession (·.categorie) hrow hautre
  have hlisting := base.livre.mem_collection_possession_self (·.categorie) hrow
  have howner : ∀ other, unite.objets.categorieLivres.owner other =
      if other = id then some vers
      else (base.livre.possession (·.categorie)).owner other :=
    Possession.owner_add_remove hlisted habsent hautre
  have hemprunts : unite.EmpruntsLoaded := ⟨rfl, rfl⟩
  have horphans : unite.orphanRemovals = [.livre id] :=
    UnitOfWork.schedule_cancelled rfl
      ((Possession.mem_collection_add _ _ _ _ _).mpr (Or.inl hlisting))
  have hentity : Ligne.livre id ∈ base.lignes := by
    simpa using Table.mem_ids_of_find hrow
  apply UnitOfWork.flush_orphan (UnitOfWork.owned_of_livre_moved howner hemprunts) hentity
    horphans (UnitOfWork.walk_livre hemprunts id)
  intro removed hremoved
  have hlivre := @UnitOfWork.managed_livre_moved unite removed id vers howner
  simp only [hremoved, if_true, Table.modify_id] at hlivre
  rw [UnitOfWork.managed_eq, hlivre, UnitOfWork.managed_emprunt_loaded hemprunts]

end Livre

section Emprunt

theorem valid_emprunt {id vers : ℕ} (hvers : vers ∈ base.livre.ids) :
    Tables.Valid { base.toTables with
      emprunt := base.emprunt.modify id fun row => { row with livre := vers } } :=
  { base.valid with
    emprunt_fits := Table.forall_modify base.valid.emprunt_fits fun old hold =>
      base.valid.emprunt_fits (id, old) ((Table.find_eq_some_iff _ _ _).mp hold)
    emprunt_emprunteur := Table.forall_modify base.valid.emprunt_emprunteur
      fun old hold =>
        base.valid.emprunt_emprunteur (id, old) ((Table.find_eq_some_iff _ _ _).mp hold)
    emprunt_livre := Table.forall_modify base.valid.emprunt_livre fun _ _ => hvers }

variable {id vers : ℕ} {row : Emprunt} (hrow : base.emprunt.find id = some row)
variable (hvers : vers ∈ base.livre.ids) (hautre : vers ≠ row.livre)

theorem executer_emprunt_retrait :
    ∃ after, (emprunt id row vers hrow hvers hautre).executer .retraitPuisAjout = .ok after ∧
      after.toTables = { base.toTables with
        emprunt := base.emprunt.modify id fun row => { row with livre := vers } } := by
  let unite := Run.run UnitOfWork.appeler (.load base)
    ((emprunt id row vers hrow hvers hautre).appels .retraitPuisAjout)
  have hlisted := base.emprunt.listed_possession (·.livre)
  have habsent := base.emprunt.not_mem_collection_possession (·.livre) hrow hautre
  have hlisting := base.emprunt.mem_collection_possession_self (·.livre) hrow
  have howner : ∀ other, unite.objets.livreEmprunts.owner other =
      if other = id then some vers
      else (base.emprunt.possession (·.livre)).owner other :=
    Possession.owner_remove_add hlisted habsent
  have horphans : unite.orphanRemovals = [] :=
    UnitOfWork.cancel_scheduled rfl hlisting
      (Possession.not_mem_collection_remove hlisted habsent)
  have hmanaged : unite.managed [] = { base.toTables with
      emprunt := base.emprunt.modify id fun row => { row with livre := vers } } := by
    have hemprunt := @UnitOfWork.managed_emprunt_moved unite [] id vers howner rfl
    simp only [List.not_mem_nil, if_false] at hemprunt
    rw [UnitOfWork.managed_eq, hemprunt, UnitOfWork.managed_livre_loaded rfl]
    rfl
  have hvalid : (unite.managed []).Valid := by
    rw [hmanaged]
    exact valid_emprunt hvers
  have hkeys : base.SameKeys (unite.managed []) := by
    rw [hmanaged]
    exact { base.sameKeys_refl with emprunt := by simp }
  exact ⟨_, UnitOfWork.flush_update (UnitOfWork.owned_of_emprunt_moved rfl howner rfl)
    horphans hkeys hvalid, hmanaged⟩

theorem executer_emprunt_ajout :
    ∃ removed after, base.doRemove (.emprunt id) = some removed ∧
      (emprunt id row vers hrow hvers hautre).executer .ajoutPuisRetrait = .ok after ∧
        after.toTables = base.without removed := by
  let unite := Run.run UnitOfWork.appeler (.load base)
    ((emprunt id row vers hrow hvers hautre).appels .ajoutPuisRetrait)
  have hlisted := base.emprunt.listed_possession (·.livre)
  have habsent := base.emprunt.not_mem_collection_possession (·.livre) hrow hautre
  have hlisting := base.emprunt.mem_collection_possession_self (·.livre) hrow
  have howner : ∀ other, unite.objets.livreEmprunts.owner other =
      if other = id then some vers
      else (base.emprunt.possession (·.livre)).owner other :=
    Possession.owner_add_remove hlisted habsent hautre
  have horphans : unite.orphanRemovals = [.emprunt id] :=
    UnitOfWork.schedule_cancelled rfl
      ((Possession.mem_collection_add _ _ _ _ _).mpr (Or.inl hlisting))
  have hentity : Ligne.emprunt id ∈ base.lignes := by
    simpa using Table.mem_ids_of_find hrow
  apply UnitOfWork.flush_orphan (UnitOfWork.owned_of_emprunt_moved rfl howner rfl) hentity
    horphans (UnitOfWork.walk_emprunt unite id)
  intro removed hremoved
  have hemprunt := @UnitOfWork.managed_emprunt_moved unite removed id vers howner rfl
  simp only [hremoved, if_true, Table.modify_id] at hemprunt
  rw [UnitOfWork.managed_eq, hemprunt, UnitOfWork.managed_livre_loaded rfl]

end Emprunt

theorem moved_of_retrait (deplacement : Deplacement base) :
    ∃ after, deplacement.executer .retraitPuisAjout = .ok after ∧
      deplacement.Moved after := by
  cases deplacement with
  | livre id row vers hrow hvers hautre =>
      obtain ⟨after, hafter, htables⟩ := executer_livre_retrait hrow hvers hautre
      refine ⟨after, hafter, ?_⟩
      rw [Moved, htables]
      exact ⟨by rw [Table.find_modify_self, hrow, Option.map_some], rfl, rfl⟩
  | emprunt id row vers hrow hvers hautre =>
      obtain ⟨after, hafter, htables⟩ := executer_emprunt_retrait hrow hvers hautre
      refine ⟨after, hafter, ?_⟩
      rw [Moved, htables, Table.find_modify_self, hrow, Option.map_some]

theorem not_moved_of_ajout (deplacement : Deplacement base) {after : Base}
    (hafter : deplacement.executer .ajoutPuisRetrait = .ok after) :
    ¬ deplacement.Moved after := by
  intro hmoved
  cases deplacement with
  | livre id row vers hrow hvers hautre =>
      obtain ⟨removed, final, hremoved, hfinal, htables⟩ :=
        executer_livre_ajout hrow hvers hautre
      rw [hfinal, Except.ok.injEq] at hafter
      subst hafter
      have hstored : id ∈ final.livre.ids := Table.mem_ids_of_find hmoved.1
      rw [htables, Tables.without, Table.mem_ids_restrict] at hstored
      exact absurd (Tables.mem_removed_self hremoved) (by simpa using hstored.2)
  | emprunt id row vers hrow hvers hautre =>
      obtain ⟨removed, final, hremoved, hfinal, htables⟩ :=
        executer_emprunt_ajout hrow hvers hautre
      rw [hfinal, Except.ok.injEq] at hafter
      subst hafter
      have hstored : id ∈ final.emprunt.ids := Table.mem_ids_of_find hmoved
      rw [htables, Tables.without, Table.mem_ids_restrict] at hstored
      exact absurd (Tables.mem_removed_self hremoved) (by simpa using hstored.2)

/-- A book moved between two categories, or a loan moved between two books, is
stored under its new parent exactly if it leaves the old one first. -/
theorem moved_iff_retrait (deplacement : Deplacement base) (ordre : Ordre) :
    (∃ after, deplacement.executer ordre = .ok after ∧ deplacement.Moved after) ↔
      ordre = .retraitPuisAjout := by
  constructor
  · rintro ⟨after, hafter, hmoved⟩
    cases ordre with
    | ajoutPuisRetrait => exact absurd hmoved (deplacement.not_moved_of_ajout hafter)
    | retraitPuisAjout => rfl
  · rintro rfl
    exact deplacement.moved_of_retrait

/-- Two categories; the book of the first is borrowed and reserved. -/
def deuxCategories : Base where
  categorie := (Table.empty.insert { nom := "Roman", description := "" }).insert
    { nom := "Essai", description := "" }
  auteur := Table.empty
  livre := Table.empty.insert {
    titre := "Emma", dateSortie := Date.sample, langue := "EN", photoCouverture := none,
    categorie := 1 }
  utilisateur := Table.empty.insert {
    email := "a@b.fr", roles := [], password := "$2y$10$x", dateAdhesion := Date.sample,
    nom := "Doe", prenom := "Ann", dateNaiss := Date.sample, adressePostale := "", numTel := 0,
    photo := none }
  emprunt := Table.empty.insert {
    dateEmprunt := Date.sample, dateRetour := none, emprunteur := 1, livre := 1 }
  reservations := Table.empty.insert { dateResa := Date.sample, livre := 1, reservateur := 1 }
  livreAuteur := []
  valid := by decide

/-- The book goes from the first category to the second. -/
def emmaEssai : Deplacement deuxCategories :=
  livre 1 _ 2 rfl (by decide) (by decide)

/-- Added to the second category and then removed from the first, the book is
deleted together with its loan, its reservation and its reader. -/
theorem ajout_puis_retrait_deletes :
    ((emmaEssai.executer .ajoutPuisRetrait).toOption.map fun after =>
        (after.livre.ids, after.emprunt.ids, after.reservations.ids,
          after.utilisateur.ids)) = some ([], [], [], []) ∧
      ¬ ∃ after, emmaEssai.executer .ajoutPuisRetrait = .ok after ∧
        emmaEssai.Moved after := by
  constructor
  · decide +kernel
  · rintro ⟨after, hafter, hmoved⟩
    exact emmaEssai.not_moved_of_ajout hafter hmoved

end Deplacement

end Bibliotheque
