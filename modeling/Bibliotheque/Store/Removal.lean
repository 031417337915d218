import Bibliotheque.Core.Traversal
import Bibliotheque.Store.Schema

/-!
# Removal: the cascade of `remove` and the deletions of `flush`

`EntityManager::remove` walks, with a visited set, every association mapped
with `cascade: ['remove']` or `orphanRemoval`.  `flush` then deletes the
visited rows one statement at a time, and the server refuses a statement while
a restricting foreign key still points at the row.  The mapping options are
read off the entity classes; what the walk reaches is computed from them.
-/

namespace Bibliotheque

open Relation

/-! ## Association mappings -/

/-- The association properties of the entity classes. -/
inductive Champ where
  | livreAuteurs
  | livreCategorie
  | livreEmprunts
  | livreReservations
  | auteurLivres
  | categorieLivres
  | empruntEmprunteur
  | empruntLivre
  | reservationsLivre
  | reservationsReservateur
  | utilisateurEmprunts
  | utilisateurReservations
  deriving DecidableEq

/-- The options of a mapping attribute that `remove` looks at. -/
structure Mapping where
  cascadeRemove : Bool
  orphanRemoval : Bool

def Champ.mapping : Champ → Mapping
  | .livreAuteurs => { cascadeRemove := false, orphanRemoval := false }
  | .livreCategorie => { cascadeRemove := false, orphanRemoval := false }
  | .livreEmprunts => { cascadeRemove := false, orphanRemoval := true }
  | .livreReservations => { cascadeRemove := true, orphanRemoval := false }
  | .auteurLivres => { cascadeRemove := false, orphanRemoval := false }
  | .categorieLivres => { cascadeRemove := false, orphanRemoval := true }
  | .empruntEmprunteur => { cascadeRemove := false, orphanRemoval := false }
  | .empruntLivre => { cascadeRemove := false, orphanRemoval := false }
  | .reservationsLivre => { cascadeRemove := true, orphanRemoval := false }
  | .reservationsReservateur => { cascadeRemove := true, orphanRemoval := false }
  | .utilisateurEmprunts => { cascadeRemove := false, orphanRemoval := true }
  | .utilisateurReservations => { cascadeRemove := true, orphanRemoval := false }

/-- Orphan removal implies cascade removal. -/
def Champ.isCascadeRemove (champ : Champ) : Bool :=
  champ.mapping.cascadeRemove || champ.mapping.orphanRemoval

/-- The associations of an entity, in declaration order. -/
def Ligne.associations : Ligne → List Champ
  | .livre _ =>
      [.livreAuteurs, .livreCategorie, .livreEmprunts, .livreReservations]
  | .auteur _ => [.auteurLivres]
  | .categorie _ => [.categorieLivres]
  | .emprunt _ => [.empruntEmprunteur, .empruntLivre]
  | .reservations _ => [.reservationsLivre, .reservationsReservateur]
  | .utilisateur _ => [.utilisateurEmprunts, .utilisateurReservations]
  | .livreAuteur _ _ => []

/-- Rows of the join table are not entities. -/
def Ligne.isEntity : Ligne → Bool
  | .livreAuteur _ _ => false
  | _ => true

/-- Position of a class in the commit order of deletions. -/
def Ligne.rank : Ligne → ℕ
  | .emprunt _ | .reservations _ | .livreAuteur _ _ => 0
  | .livre _ => 1
  | .auteur _ | .categorie _ | .utilisateur _ => 2

namespace Tables

/-- The entities an association property holds.  The inverse side of a
one-to-one association loads the first row that points back. -/
def related (tables : Tables) : Ligne → Champ → List Ligne
  | .livre id, .livreAuteurs =>
      (tables.livreAuteur.filter (·.1 = id)).map (.auteur ·.2)
  | .livre id, .livreCategorie =>
      (tables.livre.find id).toList.map (.categorie ·.categorie)
  | .livre id, .livreEmprunts =>
      (tables.emprunt.rows.filter (·.2.livre = id)).map (.emprunt ·.1)
  | .livre id, .livreReservations =>
      (tables.reservations.rows.find? (·.2.livre = id)).toList.map
        (.reservations ·.1)
  | .auteur id, .auteurLivres =>
      (tables.livreAuteur.filter (·.2 = id)).map (.livre ·.1)
  | .categorie id, .categorieLivres =>
      (tables.livre.rows.filter (·.2.categorie = id)).map (.livre ·.1)
  | .emprunt id, .empruntEmprunteur =>
      (tables.emprunt.find id).toList.map (.utilisateur ·.emprunteur)
  | .emprunt id, .empruntLivre =>
      (tables.emprunt.find id).toList.map (.livre ·.livre)
  | .reservations id, .reservationsLivre =>
      (tables.reservations.find id).toList.map (.livre ·.livre)
  | .reservations id, .reservationsReservateur =>
      (tables.reservations.find id).toList.map (.utilisateur ·.reservateur)
  | .utilisateur id, .utilisateurEmprunts =>
      (tables.emprunt.rows.filter (·.2.emprunteur = id)).map (.emprunt ·.1)
  | .utilisateur id, .utilisateurReservations =>
      (tables.reservations.rows.find? (·.2.reservateur = id)).toList.map
        (.reservations ·.1)
  | _, _ => []

/-- The entities `remove` visits next. -/
def cascade (tables : Tables) (entity : Ligne) : List Ligne :=
  (entity.associations.filter Champ.isCascadeRemove).flatMap
    (tables.related entity)

/-- `UnitOfWork::doRemove`, with at most one nested call per row. -/
def doRemove (tables : Tables) (entity : Ligne) : Option (List Ligne) :=
  Traversal.visit tables.cascade tables.lignes.length [] entity

/-- The content left by deleting `removed`.  Rows of the join table leave with
either of their two ends (`ON DELETE CASCADE`). -/
def without (tables : Tables) (removed : List Ligne) : Tables where
  livre := tables.livre.restrict fun id => .livre id ∉ removed
  auteur := tables.auteur.restrict fun id => .auteur id ∉ removed
  categorie := tables.categorie.restrict fun id => .categorie id ∉ removed
  emprunt := tables.emprunt.restrict fun id => .emprunt id ∉ removed
  reservations := tables.reservations.restrict fun id => .reservations id ∉ removed
  utilisateur := tables.utilisateur.restrict fun id => .utilisateur id ∉ removed
  livreAuteur := tables.livreAuteur.filter fun link =>
    .livreAuteur link.1 link.2 ∉ removed ∧ .livre link.1 ∉ removed ∧
      .auteur link.2 ∉ removed

/-- A restricting foreign key still points at `target`. -/
def blocked (tables : Tables) (target : Ligne) : Bool :=
  tables.lignes.any fun source =>
    source.isEntity && decide (target ∈ tables.targets source)

/-- `DELETE FROM ... WHERE id = ?`. -/
def deleteRow (tables : Tables) (target : Ligne) : Except Throwable Tables :=
  if tables.blocked target then .error .foreignKeyViolation
  else .ok (tables.without [target])

def executeDeletions (tables : Tables) (order : List Ligne) :
    Except Throwable Tables :=
  order.foldlM deleteRow tables

/-- The deletions in the order of the dependencies between classes: a row goes
before the rows its foreign keys can point at. -/
def commitOrder (removed : List Ligne) : List Ligne :=
  removed.filter (·.rank = 0) ++
    (removed.filter (·.rank = 1) ++ removed.filter (·.rank = 2))

/-! ## What the walk reaches -/

theorem find?_eq_some_iff_of_nodup {Row Column : Type*}
    [DecidableEq Column] {rows : List Row} {column : Row → Column}
    (hunique : (rows.map column).Nodup) (value : Column) (row : Row) :
    rows.find? (fun stored => column stored = value) = some row ↔
      row ∈ rows ∧ column row = value := by
  induction rows with
  | nil => simp
  | cons head tail ih =>
      simp only [List.map_cons, List.nodup_cons] at hunique
      by_cases hhead : column head = value
      · have habsent : ∀ other ∈ tail, column other ≠ value :=
          fun other hother hvalue => hunique.1
            (List.mem_map.mpr ⟨other, hother, hvalue.trans hhead.symm⟩)
        constructor
        · intro hfind
          simp only [List.find?_cons, hhead, decide_true, Option.some.injEq] at hfind
          subst hfind
          exact ⟨List.mem_cons_self, hhead⟩
        · rintro ⟨hrow, hvalue⟩
          rcases List.mem_cons.mp hrow with rfl | hrow
          · simp [hhead]
          · exact absurd hvalue (habsent row hrow)
      · simp only [List.find?_cons, hhead, decide_false, ih hunique.2,
          List.mem_cons]
        constructor
        · rintro ⟨hrow, hvalue⟩
          exact ⟨Or.inr hrow, hvalue⟩
        · rintro ⟨rfl | hrow, hvalue⟩
          · exact absurd hvalue hhead
          · exact ⟨hrow, hvalue⟩

theorem mem_cascade_livre {tables : Tables} (hvalid : tables.Valid) (id : ℕ)
    (ligne : Ligne) :
    ligne ∈ tables.cascade (.livre id) ↔
      (∃ row ∈ tables.emprunt.rows, row.2.livre = id ∧ ligne = .emprunt row.1) ∨
        ∃ row ∈ tables.reservations.rows,
          row.2.livre = id ∧ ligne = .reservations row.1 := by
  simp only [cascade, Ligne.associations, Champ.isCascadeRemove, Champ.mapping,
    related, List.filter_cons, List.filter_nil, Bool.or_false, Bool.false_or,
    Bool.false_eq_true, if_false, if_true, List.flatMap_cons, List.flatMap_nil,
    List.append_nil, List.mem_append, List.mem_map, List.mem_filter,
    Option.mem_toList, decide_eq_true_eq,
    find?_eq_some_iff_of_nodup hvalid.livre_unique]
  constructor
  · rintro (⟨row, ⟨hrow, hid⟩, rfl⟩ | ⟨row, ⟨hrow, hid⟩, rfl⟩)
    · exact Or.inl ⟨row, hrow, hid, rfl⟩
    · exact Or.inr ⟨row, hrow, hid, rfl⟩
  · rintro (⟨row, hrow, hid, rfl⟩ | ⟨row, hrow, hid, rfl⟩)
    · exact Or.inl ⟨row, ⟨hrow, hid⟩, rfl⟩
    · exact Or.inr ⟨row, ⟨hrow, hid⟩, rfl⟩

theorem mem_cascade_utilisateur {tables : Tables} (hvalid : tables.Valid)
    (id : ℕ) (ligne : Ligne) :
    ligne ∈ tables.cascade (.utilisateur id) ↔
      (∃ row ∈ tables.emprunt.rows,
          row.2.emprunteur = id ∧ ligne = .emprunt row.1) ∨
        ∃ row ∈ tables.reservations.rows,
          row.2.reservateur = id ∧ ligne = .reservations row.1 := by
  simp only [cascade, Ligne.associations, Champ.isCascadeRemove, Champ.mapping,
    related, List.filter_cons, List.filter_nil, Bool.or_false, Bool.false_or,
    if_true, List.flatMap_cons, List.flatMap_nil,
    List.append_nil, List.mem_append, List.mem_map, List.mem_filter,
    Option.mem_toList, decide_eq_true_eq,
    find?_eq_some_iff_of_nodup hvalid.reservateur_unique]
  constructor
  · rintro (⟨row, ⟨hrow, hid⟩, rfl⟩ | ⟨row, ⟨hrow, hid⟩, rfl⟩)
    · exact Or.inl ⟨row, hrow, hid, rfl⟩
    · exact Or.inr ⟨row, hrow, hid, rfl⟩
  · rintro (⟨row, hrow, hid, rfl⟩ | ⟨row, hrow, hid, rfl⟩)
    · exact Or.inl ⟨row, ⟨hrow, hid⟩, rfl⟩
    · exact Or.inr ⟨row, ⟨hrow, hid⟩, rfl⟩

theorem mem_cascade_categorie (tables : Tables) (id : ℕ) (ligne : Ligne) :
    ligne ∈ tables.cascade (.categorie id) ↔
      ∃ row ∈ tables.livre.rows, row.2.categorie = id ∧ ligne = .livre row.1 := by
  simp only [cascade, Ligne.associations, Champ.isCascadeRemove, Champ.mapping,
    related, List.filter_cons, List.filter_nil, Bool.false_or, if_true,
    List.flatMap_cons, List.flatMap_nil, List.append_nil, List.mem_map,
    List.mem_filter, decide_eq_true_eq]
  constructor
  · rintro ⟨row, ⟨hrow, hid⟩, rfl⟩
    exact ⟨row, hrow, hid, rfl⟩
  · rintro ⟨row, hrow, hid, rfl⟩
    exact ⟨row, ⟨hrow, hid⟩, rfl⟩

/-- A reservation cascades to both ends of its foreign keys: its mapping has
`cascade: ['remove']` on the owning side. -/
theorem mem_cascade_reservations (tables : Tables) (id : ℕ) (ligne : Ligne) :
    ligne ∈ tables.cascade (.reservations id) ↔
      ligne ∈ tables.targets (.reservations id) := by
  simp only [cascade, Ligne.associations, Champ.isCascadeRemove, Champ.mapping,
    related, targets, List.filter_cons, List.filter_nil, Bool.or_false, if_true,
    List.flatMap_cons, List.flatMap_nil, List.append_nil, List.mem_append]
  cases tables.reservations.find id with
  | none => simp
  | some reservation => simp

@[simp]
theorem cascade_emprunt (tables : Tables) (id : ℕ) :
    tables.cascade (.emprunt id) = [] := rfl

@[simp]
theorem cascade_auteur (tables : Tables) (id : ℕ) :
    tables.cascade (.auteur id) = [] := rfl

@[simp]
theorem cascade_livreAuteur (tables : Tables) (livre auteur : ℕ) :
    tables.cascade (.livreAuteur livre auteur) = [] := rfl

/-- Every incoming restricting foreign key is covered by a declared cascade. -/
theorem mem_cascade_of_references {tables : Tables} (hvalid : tables.Valid)
    {source target : Ligne} (hentity : source.isEntity = true)
    (hreference : tables.References source target) :
    source ∈ tables.cascade target := by
  obtain ⟨-, htarget⟩ := hreference
  cases source with
  | livre id =>
      simp only [targets, List.mem_map, Option.mem_toList] at htarget
      obtain ⟨livre, hfind, rfl⟩ := htarget
      have hrow := (Table.find_eq_some_iff _ _ _).mp hfind
      exact (mem_cascade_categorie _ _ _).mpr ⟨_, hrow, rfl, rfl⟩
  | emprunt id =>
      simp only [targets, List.mem_flatMap, Option.mem_toList, List.mem_cons,
        List.not_mem_nil, or_false] at htarget
      obtain ⟨emprunt, hfind, rfl | rfl⟩ := htarget
      all_goals have hrow := (Table.find_eq_some_iff _ _ _).mp hfind
      · exact (mem_cascade_utilisateur hvalid _ _).mpr (Or.inl ⟨_, hrow, rfl, rfl⟩)
      · exact (mem_cascade_livre hvalid _ _).mpr (Or.inl ⟨_, hrow, rfl, rfl⟩)
  | reservations id =>
      simp only [targets, List.mem_flatMap, Option.mem_toList, List.mem_cons,
        List.not_mem_nil, or_false] at htarget
      obtain ⟨reservation, hfind, rfl | rfl⟩ := htarget
      all_goals have hrow := (Table.find_eq_some_iff _ _ _).mp hfind
      · exact (mem_cascade_livre hvalid _ _).mpr (Or.inr ⟨_, hrow, rfl, rfl⟩)
      · exact (mem_cascade_utilisateur hvalid _ _).mpr (Or.inr ⟨_, hrow, rfl, rfl⟩)
  | livreAuteur livre auteur => simp [Ligne.isEntity] at hentity
  | auteur id => simp [targets] at htarget
  | categorie id => simp [targets] at htarget
  | utilisateur id => simp [targets] at htarget

/-- Away from reservations, the cascade only follows foreign keys backwards. -/
theorem references_of_mem_cascade {tables : Tables} (hvalid : tables.Valid)
    {entity next : Ligne} (hentity : ∀ id, entity ≠ .reservations id)
    (hnext : next ∈ tables.cascade entity) : tables.References next entity := by
  cases entity with
  | livre id =>
      rcases (mem_cascade_livre hvalid id next).mp hnext with
        ⟨row, hrow, rfl, rfl⟩ | ⟨row, hrow, rfl, rfl⟩
      all_goals
        have hfind := (Table.find_eq_some_iff _ _ _).mpr hrow
        exact ⟨by simpa using Table.mem_ids_of_mem hrow, by simp [targets, hfind]⟩
  | categorie id =>
      obtain ⟨row, hrow, rfl, rfl⟩ := (mem_cascade_categorie tables id next).mp hnext
      have hfind := (Table.find_eq_some_iff _ _ _).mpr hrow
      exact ⟨by simpa using Table.mem_ids_of_mem hrow, by simp [targets, hfind]⟩
  | utilisateur id =>
      rcases (mem_cascade_utilisateur hvalid id next).mp hnext with
        ⟨row, hrow, rfl, rfl⟩ | ⟨row, hrow, rfl, rfl⟩
      all_goals
        have hfind := (Table.find_eq_some_iff _ _ _).mpr hrow
        exact ⟨by simpa using Table.mem_ids_of_mem hrow, by simp [targets, hfind]⟩
  | reservations id => exact absurd rfl (hentity id)
  | emprunt id => simp at hnext
  | auteur id => simp at hnext
  | livreAuteur livre auteur => simp at hnext

theorem mem_lignes_of_mem_cascade {tables : Tables} (hvalid : tables.Valid)
    {entity next : Ligne} (hentity : entity ∈ tables.lignes)
    (hnext : next ∈ tables.cascade entity) : next ∈ tables.lignes := by
  by_cases hreservation : ∃ id, entity = .reservations id
  · obtain ⟨id, rfl⟩ := hreservation
    exact hvalid.target_mem
      ⟨hentity, (mem_cascade_reservations tables id next).mp hnext⟩
  · have hother : ∀ id, entity ≠ .reservations id := fun id hid =>
      hreservation ⟨id, hid⟩
    exact (references_of_mem_cascade hvalid hother hnext).1

/-- The recursion of `doRemove` always ends. -/
theorem doRemove_isSome {tables : Tables} (hvalid : tables.Valid)
    {entity : Ligne} (hentity : entity ∈ tables.lignes) :
    (tables.doRemove entity).isSome := by
  apply Traversal.visit_isSome_of_card_le tables.cascade tables.lignes.toFinset
  · intro node hnode target htarget
    rw [List.mem_toFinset] at hnode ⊢
    exact mem_lignes_of_mem_cascade hvalid hnode htarget
  · rwa [List.mem_toFinset]
  · exact List.toFinset_card_le _

theorem isEntity_of_mem_related {tables : Tables} {entity ligne : Ligne}
    {champ : Champ} (hligne : ligne ∈ tables.related entity champ) :
    ligne.isEntity = true := by
  unfold related at hligne
  split at hligne <;>
    simp only [List.mem_map, List.not_mem_nil] at hligne <;>
    obtain ⟨_, _, rfl⟩ := hligne <;> rfl

section Removed

variable {tables : Tables} (hvalid : tables.Valid)
variable {entity : Ligne} (hentity : entity ∈ tables.lignes)
variable {removed : List Ligne} (hremoved : tables.doRemove entity = some removed)

include hremoved in
theorem mem_removed_self : entity ∈ removed :=
  (Traversal.mem_visit_iff hremoved entity).mpr ReflTransGen.refl

include hremoved in
theorem mem_removed_of_cascade {source target : Ligne}
    (hsource : source ∈ removed) (htarget : target ∈ tables.cascade source) :
    target ∈ removed :=
  (Traversal.mem_visit_iff hremoved target).mpr
    (((Traversal.mem_visit_iff hremoved source).mp hsource).tail htarget)

include hvalid hentity hremoved in
theorem mem_lignes_of_mem_removed {ligne : Ligne} (hligne : ligne ∈ removed) :
    ligne ∈ tables.lignes := by
  have hpath := (Traversal.mem_visit_iff hremoved ligne).mp hligne
  induction hpath with
  | refl => exact hentity
  | tail hbefore hedge ih =>
      exact mem_lignes_of_mem_cascade hvalid
        (ih ((Traversal.mem_visit_iff hremoved _).mpr hbefore)) hedge

include hremoved in
/-- `remove` never schedules a row of the join table. -/
theorem isEntity_of_mem_removed (hkind : entity.isEntity = true) {ligne : Ligne}
    (hligne : ligne ∈ removed) : ligne.isEntity = true := by
  have hpath := (Traversal.mem_visit_iff hremoved ligne).mp hligne
  rcases ReflTransGen.cases_tail hpath with heq | ⟨before, -, hedge⟩
  · rw [heq]
    exact hkind
  · obtain ⟨champ, -, hrelated⟩ := List.mem_flatMap.mp hedge
    exact isEntity_of_mem_related hrelated

include hvalid hremoved in
/-- The removed set is closed under incoming restricting foreign keys. -/
theorem mem_removed_of_references {source target : Ligne}
    (hsource : source.isEntity = true)
    (hreference : tables.References source target) (htarget : target ∈ removed) :
    source ∈ removed :=
  mem_removed_of_cascade hremoved htarget
    (mem_cascade_of_references hvalid hsource hreference)

end Removed

/-! ## Executing the deletions -/

/-- Rows that survive: not removed, and not a join row of a removed end. -/
theorem mem_lignes_without (tables : Tables) (removed : List Ligne)
    (ligne : Ligne) :
    ligne ∈ (tables.without removed).lignes ↔
      ligne ∈ tables.lignes ∧ ligne ∉ removed ∧
        (ligne.isEntity = false → ∀ target ∈ tables.targets ligne,
          target ∉ removed) := by
  cases ligne with
  | livreAuteur livre auteur =>
      simp [without, targets, Ligne.isEntity]
  | _ => simp [without, Table.mem_ids_restrict, Ligne.isEntity]

/-- Rows that are left still fit their columns. -/
theorem Valid.store_without {tables : Tables} (hvalid : tables.Valid) (removed : List Ligne) :
    (tables.without removed).store = tables.without removed := by
  have hkept : ∀ {Row : Type} {table : Table Row} {keep : ℕ → Bool} {row : ℕ × Row},
      row ∈ (table.restrict keep).rows → row ∈ table.rows :=
    fun hrow => (List.mem_filter.mp hrow).1
  simp only [store, without,
    Table.map_eq_self fun row hrow => (hvalid.livre_fits row (hkept hrow)).store_eq,
    Table.map_eq_self fun row hrow => (hvalid.auteur_fits row (hkept hrow)).store_eq,
    Table.map_eq_self fun row hrow => (hvalid.categorie_fits row (hkept hrow)).store_eq,
    Table.map_eq_self fun row hrow => (hvalid.utilisateur_fits row (hkept hrow)).store_eq]

private theorem find_restrict {Row : Type*} (table : Table Row)
    (keep : ℕ → Bool) (id : ℕ) (hkeep : keep id = true) :
    (table.restrict keep).find id = table.find id := by
  cases hfind : table.find id with
  | some row =>
      rw [Table.find_eq_some_iff] at hfind ⊢
      simp [hfind, hkeep]
  | none =>
      rw [Option.eq_none_iff_forall_ne_some] at hfind ⊢
      intro row hrow
      apply hfind row
      rw [Table.find_eq_some_iff] at hrow ⊢
      exact List.mem_of_mem_filter hrow

theorem targets_without (tables : Tables) (removed : List Ligne)
    {ligne : Ligne} (hligne : ligne ∉ removed) :
    (tables.without removed).targets ligne = tables.targets ligne := by
  cases ligne with
  | livre id => simp [targets, without, find_restrict, hligne]
  | emprunt id => simp [targets, without, find_restrict, hligne]
  | reservations id => simp [targets, without, find_restrict, hligne]
  | _ => rfl

theorem without_append (tables : Tables) (first second : List Ligne) :
    (tables.without first).without second = tables.without (first ++ second) := by
  simp only [without, Table.restrict_restrict, List.filter_filter,
    List.mem_append, not_or, Bool.decide_and]
  congr 1
  apply List.filter_congr
  intro link _
  grind

theorem without_nil (tables : Tables) : tables.without [] = tables := by
  have hrestrict : ∀ {Row : Type} (table : Table Row),
      (table.restrict fun _ => true) = table := by
    intro Row table
    apply Table.ext_rows
    · simp
    · rfl
  simp [without, hrestrict]

theorem mem_without_iff_of_perm {tables : Tables} {left right : List Ligne}
    (hperm : ∀ ligne, ligne ∈ left ↔ ligne ∈ right) :
    tables.without left = tables.without right := by
  simp only [without, hperm]

/-- An order in which a row is deleted before the rows it points at, and whose
rows are only referenced from inside, is never refused. -/
theorem executeDeletions_eq_ok (tables : Tables) (order : List Ligne)
    (hclosed : ∀ source target, source.isEntity = true →
      tables.References source target → target ∈ order → source ∈ order)
    (hsorted : order.Pairwise fun earlier later =>
      earlier ∉ tables.targets later)
    (hirreflexive : ∀ ligne ∈ order, ligne ∉ tables.targets ligne) :
    tables.executeDeletions order = .ok (tables.without order) := by
  -- the prefix already executed is the induction's invariant
  have hrun : ∀ done rest : List Ligne, order = done ++ rest →
      rest.foldlM deleteRow (tables.without done) =
        (.ok (tables.without order) : Except Throwable Tables) := by
    intro done rest
    induction rest generalizing done with
    | nil =>
        rintro rfl
        simp only [List.append_nil, List.foldlM_nil]
        rfl
    | cons target rest ih =>
        intro horder
        have hfree : (tables.without done).blocked target = false := by
          rw [blocked, List.any_eq_false]
          intro source hsource hblocks
          simp only [Bool.and_eq_true, decide_eq_true_eq] at hblocks
          obtain ⟨hmember, hdone, -⟩ :=
            (mem_lignes_without tables done source).mp hsource
          rw [targets_without tables done hdone] at hblocks
          have hin : source ∈ order := hclosed source target hblocks.1
            ⟨hmember, hblocks.2⟩ (by simp [horder])
          rw [horder, List.mem_append, List.mem_cons] at hin
          rcases hin with hin | rfl | hin
          · exact hdone hin
          · exact hirreflexive source (by simp [horder]) hblocks.2
          · rw [horder, List.pairwise_append, List.pairwise_cons] at hsorted
            exact hsorted.2.1.1 source hin hblocks.2
        simp only [List.foldlM_cons, deleteRow, hfree, Bool.false_eq_true,
          if_false]
        have hstep := ih (done ++ [target]) (by simp [horder])
        rw [← without_append] at hstep
        exact hstep
  have hall := hrun [] order rfl
  rwa [without_nil] at hall

/-- Whatever the order, deletions that are not refused leave the other rows. -/
theorem eq_without_of_executeDeletions {tables result : Tables} {order : List Ligne}
    (hexecuted : tables.executeDeletions order = .ok result) :
    result = tables.without order := by
  induction order generalizing tables with
  | nil =>
      rw [without_nil]
      exact (Except.ok.inj hexecuted).symm
  | cons target rest ih =>
      simp only [executeDeletions, List.foldlM_cons, deleteRow] at hexecuted
      split at hexecuted
      · cases hexecuted
      · rw [ih hexecuted, without_append]
        rfl

/-- Deleting two sets of entities that have the same stored rows. -/
theorem without_congr {tables : Tables} (hvalid : tables.Valid) {left right : List Ligne}
    (hleft : ∀ ligne ∈ left, ligne.isEntity = true)
    (hright : ∀ ligne ∈ right, ligne.isEntity = true)
    (hsame : ∀ ligne ∈ tables.lignes, ligne ∈ left ↔ ligne ∈ right) :
    tables.without left = tables.without right := by
  have hrestrict : ∀ {Row : Type} (table : Table Row) (ligne : ℕ → Ligne),
      (∀ id ∈ table.ids, ligne id ∈ tables.lignes) →
        (table.restrict fun id => ligne id ∉ left) =
          table.restrict fun id => ligne id ∉ right := by
    intro Row table ligne hstored
    apply Table.ext_rows
    · simp only [Table.rows_restrict]
      apply List.filter_congr
      intro row hrow
      simp only [hsame _ (hstored row.1 (Table.mem_ids_of_mem hrow))]
    · rfl
  simp only [without]
  congr 1
  · exact hrestrict _ .livre (by simp)
  · exact hrestrict _ .auteur (by simp)
  · exact hrestrict _ .categorie (by simp)
  · exact hrestrict _ .emprunt (by simp)
  · exact hrestrict _ .reservations (by simp)
  · exact hrestrict _ .utilisateur (by simp)
  · apply List.filter_congr
    intro link hlink
    have hrow : ∀ {removed : List Ligne}, (∀ ligne ∈ removed, ligne.isEntity = true) →
        .livreAuteur link.1 link.2 ∉ removed := fun hentities hmem =>
      absurd (hentities _ hmem) (by simp [Ligne.isEntity])
    have hlivre := hsame (.livre link.1)
      ((mem_lignes_livre _ _).mpr (hvalid.livreAuteur_livre link hlink))
    have hauteur := hsame (.auteur link.2)
      ((mem_lignes_auteur _ _).mpr (hvalid.livreAuteur_auteur link hlink))
    simp only [hrow hleft, hrow hright, hlivre, hauteur]

theorem mem_commitOrder (removed : List Ligne) (ligne : Ligne) :
    ligne ∈ commitOrder removed ↔ ligne ∈ removed := by
  cases ligne <;> simp [commitOrder, Ligne.rank]

/-- A foreign key leads to a class of higher rank. -/
theorem rank_lt_of_mem_targets {tables : Tables} {source target : Ligne}
    (htarget : target ∈ tables.targets source) : source.rank < target.rank := by
  cases source with
  | livre id =>
      simp only [targets, List.mem_map] at htarget
      obtain ⟨livre, -, rfl⟩ := htarget
      simp [Ligne.rank]
  | emprunt id =>
      simp only [targets, List.mem_flatMap, List.mem_cons, List.not_mem_nil,
        or_false] at htarget
      obtain ⟨emprunt, -, rfl | rfl⟩ := htarget <;> simp [Ligne.rank]
  | reservations id =>
      simp only [targets, List.mem_flatMap, List.mem_cons, List.not_mem_nil,
        or_false] at htarget
      obtain ⟨reservation, -, rfl | rfl⟩ := htarget <;> simp [Ligne.rank]
  | livreAuteur livre auteur =>
      simp only [targets, List.mem_cons, List.not_mem_nil, or_false] at htarget
      obtain rfl | rfl := htarget <;> simp [Ligne.rank]
  | auteur id => simp [targets] at htarget
  | categorie id => simp [targets] at htarget
  | utilisateur id => simp [targets] at htarget

private theorem commitOrder_rank (removed : List Ligne) :
    (commitOrder removed).Pairwise fun earlier later =>
      earlier.rank ≤ later.rank := by
  have hfilter : ∀ rank : ℕ, (removed.filter (·.rank = rank)).Pairwise
      fun earlier later => earlier.rank ≤ later.rank := by
    intro rank
    apply List.pairwise_of_forall_mem_list
    intro earlier hearlier later hlater
    simp only [List.mem_filter, decide_eq_true_eq] at hearlier hlater
    omega
  rw [commitOrder, List.pairwise_append, List.pairwise_append]
  refine ⟨hfilter 0, ⟨hfilter 1, hfilter 2, ?_⟩, ?_⟩
  all_goals
    intro earlier hearlier later hlater
    simp only [List.mem_append, List.mem_filter, decide_eq_true_eq]
      at hearlier hlater
    omega

/-- The commit order deletes a row before the rows it points at. -/
theorem commitOrder_pairwise (tables : Tables) (removed : List Ligne) :
    (commitOrder removed).Pairwise fun earlier later =>
      earlier ∉ tables.targets later := by
  refine (commitOrder_rank removed).imp ?_
  intro earlier later hrank htarget
  have := rank_lt_of_mem_targets htarget
  omega

theorem not_mem_targets_self (tables : Tables) (ligne : Ligne) :
    ligne ∉ tables.targets ligne := fun htarget =>
  absurd (rank_lt_of_mem_targets htarget) (lt_irrefl _)

section Flush

variable {tables : Tables} (hvalid : tables.Valid)
variable {entity : Ligne} {removed : List Ligne}
variable (hremoved : tables.doRemove entity = some removed)

include hvalid hremoved in
/-- Whatever the order, as long as it deletes a row before the rows that row
points at, no deletion of a removed set is refused. -/
theorem executeDeletions_removed {order : List Ligne}
    (horder : ∀ ligne, ligne ∈ order ↔ ligne ∈ removed)
    (hsorted : order.Pairwise fun earlier later =>
      earlier ∉ tables.targets later) :
    tables.executeDeletions order = .ok (tables.without removed) := by
  rw [executeDeletions_eq_ok tables order ?_ hsorted
    (fun ligne _ => not_mem_targets_self tables ligne),
    mem_without_iff_of_perm horder]
  intro source target hsource hreference htarget
  rw [horder] at htarget ⊢
  exact mem_removed_of_references hvalid hremoved hsource hreference htarget

include hvalid hremoved in
theorem executeDeletions_commitOrder :
    tables.executeDeletions (commitOrder removed) =
      .ok (tables.without removed) :=
  executeDeletions_removed hvalid hremoved (mem_commitOrder removed)
    (commitOrder_pairwise tables removed)

/-- What is left references only what is left. -/
theorem references_without {source target : Ligne}
    (hclosed : ∀ source target, source.isEntity = true →
      tables.References source target → target ∈ removed → source ∈ removed)
    (hvalid : tables.Valid)
    (hreference : (tables.without removed).References source target) :
    target ∈ (tables.without removed).lignes := by
  obtain ⟨hsource, htarget⟩ := hreference
  obtain ⟨hmember, hkept, hends⟩ := (mem_lignes_without _ _ _).mp hsource
  rw [targets_without tables removed hkept] at htarget
  have hreference : tables.References source target := ⟨hmember, htarget⟩
  have hentity : target.isEntity = true := by
    cases target with
    | livreAuteur livre auteur =>
        have := rank_lt_of_mem_targets htarget
        simp [Ligne.rank] at this
    | _ => rfl
  refine (mem_lignes_without _ _ _).mpr ⟨hvalid.target_mem hreference, ?_, ?_⟩
  · intro htargetRemoved
    cases hkind : source.isEntity with
    | true =>
        exact hkept (hclosed source target hkind hreference htargetRemoved)
    | false => exact hends hkind target htarget htargetRemoved
  · intro hlink
    simp [hlink] at hentity

/-- Deleting a set closed under incoming foreign keys keeps every constraint of
the schema. -/
theorem Valid.without (hvalid : tables.Valid)
    (hclosed : ∀ source target, source.isEntity = true →
      tables.References source target → target ∈ removed → source ∈ removed) :
    (tables.without removed).Valid := by
  have hrefs : ∀ source target : Ligne,
      (tables.without removed).References source target →
        target ∈ (tables.without removed).lignes := fun _ _ hreference =>
    references_without hclosed hvalid hreference
  have hunique : ∀ {Row Column : Type} (table : Table Row) (keep : ℕ → Bool)
      (column : ℕ × Row → Column), (table.rows.map column).Nodup →
        ((table.restrict keep).rows.map column).Nodup :=
    fun table keep column hnodup =>
      hnodup.sublist (List.filter_sublist.map column)
  constructor
  case livre_fits =>
    exact fun row hrow => hvalid.livre_fits row (List.mem_of_mem_filter hrow)
  case auteur_fits =>
    exact fun row hrow => hvalid.auteur_fits row (List.mem_of_mem_filter hrow)
  case categorie_fits =>
    exact fun row hrow => hvalid.categorie_fits row (List.mem_of_mem_filter hrow)
  case emprunt_fits =>
    exact fun row hrow => hvalid.emprunt_fits row (List.mem_of_mem_filter hrow)
  case reservations_fits =>
    exact fun row hrow =>
      hvalid.reservations_fits row (List.mem_of_mem_filter hrow)
  case utilisateur_fits =>
    exact fun row hrow =>
      hvalid.utilisateur_fits row (List.mem_of_mem_filter hrow)
  case livre_categorie =>
    intro row hrow
    have hfind := (Table.find_eq_some_iff _ _ _).mpr hrow
    simpa using hrefs (.livre row.1) (.categorie row.2.categorie)
      ⟨by simpa using Table.mem_ids_of_mem hrow, by simp [targets, hfind]⟩
  case emprunt_emprunteur =>
    intro row hrow
    have hfind := (Table.find_eq_some_iff _ _ _).mpr hrow
    simpa using hrefs (.emprunt row.1) (.utilisateur row.2.emprunteur)
      ⟨by simpa using Table.mem_ids_of_mem hrow, by simp [targets, hfind]⟩
  case emprunt_livre =>
    intro row hrow
    have hfind := (Table.find_eq_some_iff _ _ _).mpr hrow
    simpa using hrefs (.emprunt row.1) (.livre row.2.livre)
      ⟨by simpa using Table.mem_ids_of_mem hrow, by simp [targets, hfind]⟩
  case reservations_livre =>
    intro row hrow
    have hfind := (Table.find_eq_some_iff _ _ _).mpr hrow
    simpa using hrefs (.reservations row.1) (.livre row.2.livre)
      ⟨by simpa using Table.mem_ids_of_mem hrow, by simp [targets, hfind]⟩
  case reservations_reservateur =>
    intro row hrow
    have hfind := (Table.find_eq_some_iff _ _ _).mpr hrow
    simpa using hrefs (.reservations row.1) (.utilisateur row.2.reservateur)
      ⟨by simpa using Table.mem_ids_of_mem hrow, by simp [targets, hfind]⟩
  case livreAuteur_livre =>
    intro link hlink
    simpa using hrefs (.livreAuteur link.1 link.2) (.livre link.1)
      ⟨by simpa using hlink, by simp [targets]⟩
  case livreAuteur_auteur =>
    intro link hlink
    simpa using hrefs (.livreAuteur link.1 link.2) (.auteur link.2)
      ⟨by simpa using hlink, by simp [targets]⟩
  case livreAuteur_nodup =>
    exact hvalid.livreAuteur_nodup.sublist List.filter_sublist
  case livre_unique => exact hunique _ _ _ hvalid.livre_unique
  case reservateur_unique => exact hunique _ _ _ hvalid.reservateur_unique
  case email_unique => exact hunique _ _ _ hvalid.email_unique

end Flush

end Tables

end Bibliotheque
