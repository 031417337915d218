import Bibliotheque.Entity.OneToMany
import Bibliotheque.Store.Flush

/-!
# Children that change parents

The three one-to-many collections are mapped with `orphanRemoval`.  On managed
entities a method of the parent therefore does two things: it changes the
objects, and its call into the collection tells the unit of work.  Taking an
element out schedules its removal, and adding an element to any collection
cancels a removal that is already scheduled.  At the flush every orphan goes
through `remove`, which also drops its pending update.
-/

namespace Bibliotheque

open Objets

/-- An association as loaded from the foreign key column of the child. -/
def Table.possession {Row : Type*} (table : Table Row) (column : Row → ℕ) :
    Possession ℕ ℕ where
  collection parent := (table.rows.filter fun row => column row.2 = parent).map (·.1)
  owner child := (table.find child).map column

/-- The entity manager of a request that has loaded the collections. -/
structure UnitOfWork where
  base : Base
  objets : Objets ℕ ℕ ℕ ℕ
  orphanRemovals : List Ligne

namespace UnitOfWork

def load (base : Base) : UnitOfWork where
  base := base
  objets :=
    { categorieLivres := base.livre.possession (·.categorie)
      livreEmprunts := base.emprunt.possession (·.livre)
      utilisateurEmprunts := base.emprunt.possession (·.emprunteur)
      initialised := fun _ => true }
  orphanRemovals := []

/-! ## The calls -/

/-- `PersistentCollection::add`, reached when `contains` answers no. -/
def cancelOrphanRemoval (orphans : List Ligne) (possession : Possession ℕ ℕ)
    (parent child : ℕ) (ligne : Ligne) : List Ligne :=
  if child ∈ possession.collection parent then orphans
  else orphans.filter (· ≠ ligne)

/-- `PersistentCollection::removeElement`, which does nothing on a stranger. -/
def scheduleOrphanRemoval (orphans : List Ligne) (champ : Champ)
    (possession : Possession ℕ ℕ) (parent child : ℕ) (ligne : Ligne) : List Ligne :=
  if child ∈ possession.collection parent ∧ champ.mapping.orphanRemoval then
    orphans.insert ligne
  else orphans

/-- The scheduled removals after a call of one of the add and remove methods. -/
def scheduled (unite : UnitOfWork) : Appel ℕ ℕ ℕ ℕ → List Ligne
  | .categorieAddLivre categorie livre =>
      cancelOrphanRemoval unite.orphanRemovals unite.objets.categorieLivres
        categorie livre (.livre livre)
  | .categorieRemoveLivre categorie livre =>
      scheduleOrphanRemoval unite.orphanRemovals .categorieLivres
        unite.objets.categorieLivres categorie livre (.livre livre)
  | .livreAddEmprunt livre emprunt =>
      cancelOrphanRemoval unite.orphanRemovals unite.objets.livreEmprunts
        livre emprunt (.emprunt emprunt)
  | .livreRemoveEmprunt livre emprunt =>
      scheduleOrphanRemoval unite.orphanRemovals .livreEmprunts
        unite.objets.livreEmprunts livre emprunt (.emprunt emprunt)
  | .utilisateurAddEmprunt utilisateur emprunt =>
      cancelOrphanRemoval unite.orphanRemovals unite.objets.utilisateurEmprunts
        utilisateur emprunt (.emprunt emprunt)
  | .utilisateurRemoveEmprunt utilisateur emprunt =>
      scheduleOrphanRemoval unite.orphanRemovals .utilisateurEmprunts
        unite.objets.utilisateurEmprunts utilisateur emprunt (.emprunt emprunt)

def appeler (unite : UnitOfWork) (appel : Appel ℕ ℕ ℕ ℕ) : UnitOfWork :=
  { unite with
    objets := unite.objets.appeler appel
    orphanRemovals := unite.scheduled appel }

/-! ## The flush -/

/-- The entities an association property holds in memory. -/
def related (unite : UnitOfWork) : Ligne → Champ → List Ligne
  | .categorie id, .categorieLivres =>
      (unite.objets.categorieLivres.collection id).map .livre
  | .livre id, .livreEmprunts =>
      (unite.objets.livreEmprunts.collection id).map .emprunt
  | .utilisateur id, .utilisateurEmprunts =>
      (unite.objets.utilisateurEmprunts.collection id).map .emprunt
  | entity, champ => unite.base.related entity champ

/-- The entities `remove` visits next. -/
def cascade (unite : UnitOfWork) (entity : Ligne) : List Ligne :=
  (entity.associations.filter Champ.isCascadeRemove).flatMap (unite.related entity)

/-- `foreach ($this->orphanRemovals as $orphan) { $this->remove($orphan); }`. -/
def removals (unite : UnitOfWork) : Option (List Ligne) :=
  unite.orphanRemovals.foldlM
    (Traversal.visit unite.cascade unite.base.lignes.length) []

/-- No entity that stays has lost an owner its column requires. -/
def complete (unite : UnitOfWork) (removed : List Ligne) : Bool :=
  (unite.base.livre.ids.all fun id =>
    .livre id ∈ removed || (unite.objets.categorieLivres.owner id).isSome) &&
  unite.base.emprunt.ids.all fun id =>
    .emprunt id ∈ removed || ((unite.objets.livreEmprunts.owner id).isSome &&
      (unite.objets.utilisateurEmprunts.owner id).isSome)

/-- The rows with the owning fields of the objects.  The update of an entity
that is going to be removed is dropped. -/
def managed (unite : UnitOfWork) (removed : List Ligne) : Tables :=
  { unite.base.toTables with
    livre := unite.base.livre.mapRows fun id row =>
      if .livre id ∈ removed then row
      else { row with categorie :=
        (unite.objets.categorieLivres.owner id).getD row.categorie }
    emprunt := unite.base.emprunt.mapRows fun id row =>
      if .emprunt id ∈ removed then row
      else { row with
        emprunteur := (unite.objets.utilisateurEmprunts.owner id).getD row.emprunteur
        livre := (unite.objets.livreEmprunts.owner id).getD row.livre } }

/-- The session whose statements the flush sends. -/
def session (unite : UnitOfWork) (removed : List Ligne) : Session :=
  { Session.start unite.base with
    managed := unite.managed removed
    removed := removed }

def flush (unite : UnitOfWork) : Except Throwable Base :=
  match unite.removals with
  | none => .error (.error "Maximum function nesting level reached")
  | some removed =>
      if unite.complete removed then
        match (unite.session removed).commit with
        | .ok (tables, _) =>
            if hvalid : tables.Valid then .ok ⟨tables, hvalid⟩
            else .error .integrityViolation
        | .error throwable => .error throwable
      else .error .integrityViolation

end UnitOfWork

/-! ## Associations as loaded -/

namespace Table

variable {Row : Type*} (table : Table Row) (column : Row → ℕ)

theorem mem_collection_possession (parent child : ℕ) :
    child ∈ (table.possession column).collection parent ↔
      (table.possession column).owner child = some parent := by
  simp only [possession, List.mem_map, List.mem_filter, decide_eq_true_eq,
    Option.map_eq_some_iff]
  constructor
  · rintro ⟨row, ⟨hrow, hcolumn⟩, rfl⟩
    exact ⟨row.2, (find_eq_some_iff table row.1 row.2).mpr hrow, hcolumn⟩
  · rintro ⟨row, hfind, hcolumn⟩
    exact ⟨(child, row), ⟨(find_eq_some_iff table child row).mp hfind, hcolumn⟩, rfl⟩

theorem listed_possession : (table.possession column).Listed where
  mem_owner parent child := (table.mem_collection_possession column parent child).mpr
  nodup _ := table.nodup_ids.sublist (List.filter_sublist.map Prod.fst)

theorem owner_possession_of_mem {row : ℕ × Row} (hrow : row ∈ table.rows) :
    (table.possession column).owner row.1 = some (column row.2) := by
  have hfind := (find_eq_some_iff table row.1 row.2).mpr hrow
  simp [possession, hfind]

theorem isSome_owner_possession {id : ℕ} (hid : id ∈ table.ids) :
    ((table.possession column).owner id).isSome := by
  simpa [possession] using (table.find_isSome_iff id).mpr hid

/-- The other parents do not list the child. -/
theorem not_mem_collection_possession {id other : ℕ} {row : Row}
    (hrow : table.find id = some row) (hother : other ≠ column row) :
    id ∉ (table.possession column).collection other := by
  rw [mem_collection_possession]
  simpa [possession, hrow] using hother.symm

theorem mem_collection_possession_self {id : ℕ} {row : Row}
    (hrow : table.find id = some row) :
    id ∈ (table.possession column).collection (column row) := by
  rw [mem_collection_possession]
  simp [possession, hrow]

end Table

namespace Possession

variable {P X : Type*} [DecidableEq P] [DecidableEq X] {possession : Possession P X}
variable (hlisted : possession.Listed) {source target : P} {child : X}
variable (habsent : child ∉ possession.collection target)

include hlisted habsent in
/-- Added first, the child keeps its new owner: the removal finds the field
"already changed". -/
theorem owner_add_remove (hne : target ≠ source) (other : X) :
    ((possession.add target child).remove source child).owner other =
      if other = child then some target else possession.owner other := by
  have hchanged : (possession.add target child).owner child ≠ some source := by
    simpa [owner_add_eq, habsent] using hne
  rw [owner_remove_eq (hlisted.add target child), if_neg fun hset => hchanged hset.2,
    owner_add_eq]
  simp [habsent]

include hlisted habsent in
theorem not_mem_collection_remove :
    child ∉ (possession.remove source child).collection target := by
  rw [mem_collection_remove hlisted]
  exact fun hmember => habsent hmember.1

include hlisted habsent in
theorem owner_remove_add (other : X) :
    ((possession.remove source child).add target child).owner other =
      if other = child then some target else possession.owner other := by
  rw [owner_add_eq, owner_remove_eq hlisted]
  by_cases hother : other = child
  · simp [hother, not_mem_collection_remove hlisted habsent]
  · simp [hother]

end Possession

namespace UnitOfWork

variable {unite : UnitOfWork} {removed : List Ligne} {id vers : ℕ}

/-! ## The order of the two calls -/

section Ordre

variable {champ : Champ} (hchamp : champ.mapping.orphanRemoval = true)
variable {first second : Possession ℕ ℕ} {source target child : ℕ} {ligne : Ligne}

include hchamp in
/-- The `add` finds the removal already scheduled and cancels it. -/
theorem cancel_scheduled (hlisting : child ∈ first.collection source)
    (habsent : child ∉ second.collection target) :
    cancelOrphanRemoval (scheduleOrphanRemoval [] champ first source child ligne)
      second target child ligne = [] := by
  simp [cancelOrphanRemoval, scheduleOrphanRemoval, hchamp, hlisting, habsent]

include hchamp in
/-- The `add` comes before there is anything to cancel. -/
theorem schedule_cancelled (hlisting : child ∈ second.collection source) :
    scheduleOrphanRemoval (cancelOrphanRemoval [] first target child ligne)
      champ second source child ligne = [ligne] := by
  have hnothing : cancelOrphanRemoval [] first target child ligne = [] := by
    simp [cancelOrphanRemoval]
  simp [hnothing, scheduleOrphanRemoval, hchamp, hlisting]

end Ordre

/-! ## The rows a flush writes -/

/-- Only the tables of the two children change. -/
theorem managed_eq (unite : UnitOfWork) (removed : List Ligne) :
    unite.managed removed = { unite.base.toTables with
      livre := (unite.managed removed).livre
      emprunt := (unite.managed removed).emprunt } := rfl

/-- The owning fields of the loans are as loaded. -/
def EmpruntsLoaded (unite : UnitOfWork) : Prop :=
  unite.objets.livreEmprunts = unite.base.emprunt.possession (·.livre) ∧
    unite.objets.utilisateurEmprunts = unite.base.emprunt.possession (·.emprunteur)

theorem managed_livre_loaded
    (hlivres : unite.objets.categorieLivres = unite.base.livre.possession (·.categorie)) :
    (unite.managed removed).livre = unite.base.livre := by
  simp only [managed]
  apply Table.mapRows_eq_self
  intro row hrow
  simp [hlivres, Table.owner_possession_of_mem _ _ hrow]

theorem managed_emprunt_loaded (hemprunts : unite.EmpruntsLoaded) :
    (unite.managed removed).emprunt = unite.base.emprunt := by
  simp only [managed]
  apply Table.mapRows_eq_self
  intro row hrow
  simp [hemprunts.1, hemprunts.2, Table.owner_possession_of_mem _ _ hrow]

/-- A book with a new owner is updated unless it is going to be removed. -/
theorem managed_livre_moved
    (howner : ∀ other, unite.objets.categorieLivres.owner other =
      if other = id then some vers
      else (unite.base.livre.possession (·.categorie)).owner other) :
    (unite.managed removed).livre = unite.base.livre.modify id fun row =>
      if .livre id ∈ removed then row else { row with categorie := vers } := by
  simp only [managed, Table.modify]
  apply Table.mapRows_congr
  intro row hrow
  by_cases hid : row.1 = id
  · simp [howner, hid]
  · simp [howner, hid, Table.owner_possession_of_mem _ _ hrow]

theorem managed_emprunt_moved
    (howner : ∀ other, unite.objets.livreEmprunts.owner other =
      if other = id then some vers
      else (unite.base.emprunt.possession (·.livre)).owner other)
    (hemprunteurs : unite.objets.utilisateurEmprunts =
      unite.base.emprunt.possession (·.emprunteur)) :
    (unite.managed removed).emprunt = unite.base.emprunt.modify id fun row =>
      if .emprunt id ∈ removed then row else { row with livre := vers } := by
  simp only [managed, Table.modify]
  apply Table.mapRows_congr
  intro row hrow
  have hemprunteur := Table.owner_possession_of_mem unite.base.emprunt
    (·.emprunteur) hrow
  by_cases hid : row.1 = id
  · rw [hid] at hemprunteur
    simp [howner, hid, hemprunteurs, hemprunteur]
  · simp [howner, hid, hemprunteurs, hemprunteur,
      Table.owner_possession_of_mem _ _ hrow]

/-- Every row of the two child tables has its owners in memory. -/
def Owned (unite : UnitOfWork) : Prop :=
  (∀ id ∈ unite.base.livre.ids, (unite.objets.categorieLivres.owner id).isSome) ∧
    ∀ id ∈ unite.base.emprunt.ids, (unite.objets.livreEmprunts.owner id).isSome ∧
      (unite.objets.utilisateurEmprunts.owner id).isSome

theorem owned_of_livre_moved
    (howner : ∀ other, unite.objets.categorieLivres.owner other =
      if other = id then some vers
      else (unite.base.livre.possession (·.categorie)).owner other)
    (hemprunts : unite.EmpruntsLoaded) : unite.Owned := by
  constructor
  · intro other hother
    rw [howner]
    split
    · rfl
    · exact Table.isSome_owner_possession _ _ hother
  · intro other hother
    rw [hemprunts.1, hemprunts.2]
    exact ⟨Table.isSome_owner_possession _ _ hother,
      Table.isSome_owner_possession _ _ hother⟩

theorem owned_of_emprunt_moved
    (hlivres : unite.objets.categorieLivres = unite.base.livre.possession (·.categorie))
    (howner : ∀ other, unite.objets.livreEmprunts.owner other =
      if other = id then some vers
      else (unite.base.emprunt.possession (·.livre)).owner other)
    (hemprunteurs : unite.objets.utilisateurEmprunts =
      unite.base.emprunt.possession (·.emprunteur)) : unite.Owned := by
  constructor
  · intro other hother
    rw [hlivres]
    exact Table.isSome_owner_possession _ _ hother
  · intro other hother
    rw [howner, hemprunteurs]
    refine ⟨?_, Table.isSome_owner_possession _ _ hother⟩
    split
    · rfl
    · exact Table.isSome_owner_possession _ _ hother

theorem Owned.complete (howned : unite.Owned) (removed : List Ligne) :
    unite.complete removed = true := by
  simp only [UnitOfWork.complete, Bool.and_eq_true, List.all_eq_true, Bool.or_eq_true]
  exact ⟨fun id hid => Or.inr (howned.1 id hid), fun id hid => Or.inr (howned.2 id hid)⟩

theorem flush_of_commit (howned : unite.Owned) (hremovals : unite.removals = some removed)
    {tables : Tables} {fresh : ℕ}
    (hcommit : (unite.session removed).commit = .ok (tables, fresh))
    (hvalid : tables.Valid) : unite.flush = .ok ⟨tables, hvalid⟩ := by
  simp only [flush, hremovals, howned.complete, if_true, hcommit, hvalid, dif_pos]

/-- Without orphans a flush writes the owning fields. -/
theorem flush_update (howned : unite.Owned) (horphans : unite.orphanRemovals = [])
    (hkeys : unite.base.SameKeys (unite.managed [])) (hvalid : (unite.managed []).Valid) :
    unite.flush = .ok ⟨unite.managed [], hvalid⟩ := by
  have hremovals : unite.removals = some [] := by
    simp [removals, horphans]
  exact flush_of_commit howned hremovals (Session.commit_managed unite.base hkeys) hvalid

/-- An orphan is deleted with everything its cascades reach, and what its owning
field says is not written. -/
theorem flush_orphan (howned : unite.Owned) {entity : Ligne}
    (hentity : entity ∈ unite.base.lignes) (horphans : unite.orphanRemovals = [entity])
    (hwalk : Traversal.visit unite.cascade unite.base.lignes.length [] entity =
      unite.base.doRemove entity)
    (hmanaged : ∀ removed, entity ∈ removed → unite.managed removed = unite.base.toTables) :
    ∃ removed after, unite.base.doRemove entity = some removed ∧
      unite.flush = .ok after ∧ after.toTables = unite.base.without removed := by
  obtain ⟨removed, hremoved⟩ := Option.isSome_iff_exists.mp
    (Tables.doRemove_isSome unite.base.valid hentity)
  have hremovals : unite.removals = some removed := by
    simp [removals, horphans, hwalk, hremoved]
  have hcommit : (unite.session removed).commit =
      .ok (unite.base.without removed, 0) := by
    rw [session, hmanaged removed (Tables.mem_removed_self hremoved)]
    exact Session.commit_remove unite.base hremoved
  have hvalid : (unite.base.without removed).Valid :=
    unite.base.valid.without fun source target hsource hreference htarget =>
      Tables.mem_removed_of_references unite.base.valid hremoved hsource hreference htarget
  exact ⟨removed, _, hremoved, flush_of_commit howned hremovals hcommit hvalid, rfl⟩

/-! ## What the walk from an orphan reaches -/

/-- Rows the cascades of a book can reach. -/
def HorsCategorie (ligne : Ligne) : Prop := ∀ id, ligne ≠ .categorie id

theorem horsCategorie_of_mem_cascade {tables : Tables} (hvalid : tables.Valid)
    {entity ligne : Ligne} (hentity : HorsCategorie entity)
    (hligne : ligne ∈ tables.cascade entity) : HorsCategorie ligne := by
  cases entity with
  | livre id =>
      rcases (Tables.mem_cascade_livre hvalid id ligne).mp hligne with
        ⟨row, _, _, rfl⟩ | ⟨row, _, _, rfl⟩ <;> exact fun _ => by simp
  | utilisateur id =>
      rcases (Tables.mem_cascade_utilisateur hvalid id ligne).mp hligne with
        ⟨row, _, _, rfl⟩ | ⟨row, _, _, rfl⟩ <;> exact fun _ => by simp
  | reservations id =>
      have htarget := (Tables.mem_cascade_reservations tables id ligne).mp hligne
      simp only [Tables.targets, List.mem_flatMap, List.mem_cons, List.not_mem_nil,
        or_false] at htarget
      obtain ⟨reservation, _, rfl | rfl⟩ := htarget <;> exact fun _ => by simp
  | categorie id => exact absurd rfl (hentity id)
  | emprunt id => simp at hligne
  | auteur id => simp at hligne
  | livreAuteur livre auteur => simp at hligne

theorem cascade_eq (hemprunts : unite.EmpruntsLoaded) {entity : Ligne}
    (hentity : HorsCategorie entity) :
    unite.cascade entity = unite.base.cascade entity := by
  cases entity with
  | categorie id => exact absurd rfl (hentity id)
  | livre id =>
      simp [cascade, Tables.cascade, Ligne.associations, Champ.isCascadeRemove,
        Champ.mapping, related, Tables.related, hemprunts.1, Table.possession,
        Function.comp_def]
  | utilisateur id =>
      simp [cascade, Tables.cascade, Ligne.associations, Champ.isCascadeRemove,
        Champ.mapping, related, Tables.related, hemprunts.2, Table.possession,
        Function.comp_def]
  | reservations id => rfl
  | emprunt id => rfl
  | auteur id => rfl
  | livreAuteur livre auteur => rfl

theorem walk_livre (hemprunts : unite.EmpruntsLoaded) (id : ℕ) :
    Traversal.visit unite.cascade unite.base.lignes.length [] (.livre id) =
      unite.base.doRemove (.livre id) :=
  Traversal.visit_congr
    (fun _ hnode _ htarget => horsCategorie_of_mem_cascade unite.base.valid hnode htarget)
    (fun _ hnode => cascade_eq hemprunts hnode) _ _ _ (fun _ => by simp)

/-- Nothing cascades from a loan, whatever the collections hold. -/
theorem walk_emprunt (unite : UnitOfWork) (id : ℕ) :
    Traversal.visit unite.cascade unite.base.lignes.length [] (.emprunt id) =
      unite.base.doRemove (.emprunt id) := by
  apply @Traversal.visit_congr _ _ _ _ (· = Ligne.emprunt id)
  · rintro node rfl target htarget
    simp at htarget
  · rintro node rfl
    rfl
  · rfl

end UnitOfWork

end Bibliotheque
