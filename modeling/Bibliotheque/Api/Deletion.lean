import Bibliotheque.Api.Router
import Bibliotheque.Store.Flush

/-!
# The DELETE requests

Six handlers with one body: find the row, remove it, flush.  The rows that
leave are those its cascades reach, and the links of removed books and authors.
-/

namespace Bibliotheque

open Program Bibliotheque.Action Relation

/-- The DELETE request of a row; rows of the join table have none. -/
def Ligne.deletion : Ligne → Option Requete
  | .livre id => some (.livreDelete id)
  | .auteur id => some (.auteurDelete id)
  | .categorie id => some (.categorieDelete id)
  | .emprunt id => some (.empruntDelete id)
  | .reservations id => some (.reservationsDelete id)
  | .utilisateur id => some (.adherentDelete id)
  | .livreAuteur _ _ => none

section Handler

variable {Row : Type} (runtime : Runtime) (table : Tables → Table Row)
variable (kind : ℕ → Ligne) (missing done : List (String × Value)) (id : ℕ)

/-- The body shared by the six handlers. -/
def deletion : Action Response := do
  let some found ← find runtime table (.int id) | answer 404 missing
  remove (kind found)
  flush
  return ⟨200, .object done⟩

theorem serve_deletion (base : Base) (hid : id ∈ (table base.toTables).ids)
    {removed : List Ligne} (hremoved : base.doRemove (kind id) = some removed)
    (hvalid : (base.without removed).Valid) :
    serve (deletion runtime table kind missing done id) base =
      (.response ⟨200, .object done⟩, ⟨base.without removed, hvalid⟩) := by
  apply serve_of_wp
  rw [deletion, wp_findPath_of_mem runtime hid,
    wp_bind, wp_remove_of_eq hremoved, wp_bind,
    wp_flush_of_commit (Session.commit_remove base hremoved) hvalid]
  exact ⟨rfl, rfl⟩

theorem serve_deletion_of_not_mem (base : Base)
    (hid : id ∉ (table base.toTables).ids) :
    serve (deletion runtime table kind missing done id) base =
      (.response ⟨404, .object missing⟩, base) := by
  have hend := serve_iff_wp (deletion runtime table kind missing done id) base
    fun outcome final => (outcome, final) = (.response ⟨404, .object missing⟩, base)
  refine hend.mpr ?_
  rw [deletion, wp_bind, wp_find_of_not_mem runtime (runtime.rowId_int id) hid]
  rfl

end Handler

/-- What a DELETE of an existing row does. -/
theorem executer_deletion (runtime : Runtime) (base : Base) {ligne : Ligne}
    {requete : Requete} (hligne : ligne ∈ base.lignes)
    (hrequete : ligne.deletion = some requete) {removed : List Ligne}
    (hremoved : base.doRemove ligne = some removed)
    (hvalid : (base.without removed).Valid) :
    ∃ body, requete.executer runtime base =
      (.response ⟨200, body⟩, ⟨base.without removed, hvalid⟩) := by
  cases ligne with
  | livreAuteur livre auteur => cases hrequete
  | livre id =>
      cases hrequete
      exact ⟨_, serve_deletion runtime Tables.livre .livre _ _ id base
        (by simpa using hligne) hremoved hvalid⟩
  | auteur id =>
      cases hrequete
      exact ⟨_, serve_deletion runtime Tables.auteur .auteur _ _ id base
        (by simpa using hligne) hremoved hvalid⟩
  | categorie id =>
      cases hrequete
      exact ⟨_, serve_deletion runtime Tables.categorie .categorie _ _ id base
        (by simpa using hligne) hremoved hvalid⟩
  | emprunt id =>
      cases hrequete
      exact ⟨_, serve_deletion runtime Tables.emprunt .emprunt _ _ id base
        (by simpa using hligne) hremoved hvalid⟩
  | reservations id =>
      cases hrequete
      exact ⟨_, serve_deletion runtime Tables.reservations .reservations _ _ id
        base (by simpa using hligne) hremoved hvalid⟩
  | utilisateur id =>
      cases hrequete
      exact ⟨_, serve_deletion runtime Tables.utilisateur .utilisateur _ _ id
        base (by simpa using hligne) hremoved hvalid⟩

/-- A DELETE of a number no row has. -/
theorem executer_deletion_of_not_mem (runtime : Runtime) (base : Base)
    {ligne : Ligne} {requete : Requete} (hligne : ligne ∉ base.lignes)
    (hrequete : ligne.deletion = some requete) :
    ∃ body, requete.executer runtime base = (.response ⟨404, body⟩, base) := by
  cases ligne with
  | livreAuteur livre auteur => cases hrequete
  | livre id =>
      cases hrequete
      exact ⟨_, serve_deletion_of_not_mem runtime Tables.livre .livre _ _ id base
        (by simpa using hligne)⟩
  | auteur id =>
      cases hrequete
      exact ⟨_, serve_deletion_of_not_mem runtime Tables.auteur .auteur _ _ id base
        (by simpa using hligne)⟩
  | categorie id =>
      cases hrequete
      exact ⟨_, serve_deletion_of_not_mem runtime Tables.categorie .categorie _ _
        id base (by simpa using hligne)⟩
  | emprunt id =>
      cases hrequete
      exact ⟨_, serve_deletion_of_not_mem runtime Tables.emprunt .emprunt _ _ id
        base (by simpa using hligne)⟩
  | reservations id =>
      cases hrequete
      exact ⟨_, serve_deletion_of_not_mem runtime Tables.reservations
        .reservations _ _ id base (by simpa using hligne)⟩
  | utilisateur id =>
      cases hrequete
      exact ⟨_, serve_deletion_of_not_mem runtime Tables.utilisateur .utilisateur
        _ _ id base (by simpa using hligne)⟩

/-! ## No reference is left dangling -/

namespace Tables

theorem exists_removed {tables : Tables} (hvalid : tables.Valid) {ligne : Ligne}
    (hligne : ligne ∈ tables.lignes) :
    ∃ removed, tables.doRemove ligne = some removed :=
  Option.isSome_iff_exists.mp (doRemove_isSome hvalid hligne)

theorem valid_without_removed {tables : Tables} (hvalid : tables.Valid)
    {ligne : Ligne} {removed : List Ligne}
    (hremoved : tables.doRemove ligne = some removed) :
    (tables.without removed).Valid :=
  hvalid.without fun _ _ hsource hreference htarget =>
    mem_removed_of_references hvalid hremoved hsource hreference htarget

/-- Whatever references a row that left has left too, links included. -/
theorem source_not_mem_without {tables : Tables} (hvalid : tables.Valid)
    {ligne : Ligne} {removed : List Ligne}
    (hremoved : tables.doRemove ligne = some removed) {source target : Ligne}
    (hreference : tables.References source target) (htarget : target ∈ removed) :
    source ∉ (tables.without removed).lignes := by
  intro hkept
  obtain ⟨-, hsource, hends⟩ := (mem_lignes_without _ _ _).mp hkept
  cases hkind : source.isEntity with
  | true =>
      exact hsource
        (mem_removed_of_references hvalid hremoved hkind hreference htarget)
  | false => exact hends hkind target hreference.2 htarget

end Tables

/-- The cascade of a DELETE ends and takes the row along, its deletions are accepted in
every order that follows the foreign keys, and what is left references only what is
left. -/
theorem Requete.deletion_closed (runtime : Runtime) (base : Base) (ligne : Ligne)
    (requete : Requete) (hligne : ligne ∈ base.lignes)
    (hrequete : ligne.deletion = some requete) :
    ∃ removed, base.doRemove ligne = some removed ∧ ligne ∈ removed ∧
      (∀ source target, base.References source target → target ∈ removed →
        source ∈ removed ∨
          source.isEntity = false ∧ source ∉ (base.without removed).lignes) ∧
      (∀ order : List Ligne, (∀ row, row ∈ order ↔ row ∈ removed) →
        (order.Pairwise fun earlier later => earlier ∉ base.targets later) →
          base.executeDeletions order = .ok (base.without removed)) ∧
      (∃ body, (requete.executer runtime base).1 = .response ⟨200, body⟩) ∧
      (requete.executer runtime base).2.toTables = base.without removed ∧
      ∀ source target, (requete.executer runtime base).2.References source target →
        target ∈ (requete.executer runtime base).2.lignes := by
  obtain ⟨removed, hremoved⟩ := Tables.exists_removed base.valid hligne
  have hvalid := Tables.valid_without_removed base.valid hremoved
  obtain ⟨body, hexecuter⟩ :=
    executer_deletion runtime base hligne hrequete hremoved hvalid
  refine ⟨removed, hremoved, Tables.mem_removed_self hremoved, ?_, ?_, ?_, ?_, ?_⟩
  · intro source target hreference htarget
    cases hkind : source.isEntity with
    | true =>
        exact Or.inl (Tables.mem_removed_of_references base.valid hremoved hkind
          hreference htarget)
    | false =>
        exact Or.inr ⟨rfl, Tables.source_not_mem_without base.valid hremoved
          hreference htarget⟩
  · intro order horder hsorted
    exact Tables.executeDeletions_removed base.valid hremoved horder hsorted
  · exact ⟨body, by rw [hexecuter]⟩
  · rw [hexecuter]
  · rw [hexecuter]
    intro source target hreference
    exact hvalid.target_mem hreference

/-- Deleting a reservation of the sample library. -/
theorem Requete.deletion_closed_sample :
    Ligne.reservations 1 ∈ Base.sample.lignes ∧
      ∃ removed, Base.sample.doRemove (.reservations 1) = some removed ∧
        ((reservationsDelete 1).executer .dev Base.sample).2.toTables =
          Base.sample.without removed := by
  have hligne : Ligne.reservations 1 ∈ Base.sample.lignes := by decide
  obtain ⟨removed, hremoved, -, -, -, -, hleft, -⟩ :=
    deletion_closed .dev Base.sample (.reservations 1) (.reservationsDelete 1)
      hligne rfl
  exact ⟨hligne, removed, hremoved, hleft⟩

/-! ## Rows that leave without depending on the deleted row -/

namespace Tables

theorem rank_lt_of_dependsOn {tables : Tables} {source target : Ligne}
    (hdepends : tables.DependsOn source target) : source.rank < target.rank := by
  induction hdepends with
  | single hreference => exact rank_lt_of_mem_targets hreference.2
  | tail _ hreference ih => exact ih.trans (rank_lt_of_mem_targets hreference.2)

/-- A user holds no foreign key. -/
theorem not_dependsOn_of_utilisateur {tables : Tables} {id : ℕ} {target : Ligne} :
    ¬ tables.DependsOn (.utilisateur id) target := by
  intro hdepends
  have hrank := rank_lt_of_dependsOn hdepends
  cases target <;> simp [Ligne.rank] at hrank

/-- A book depends on its category only. -/
theorem exists_categorie_of_dependsOn {tables : Tables} {id : ℕ} {target : Ligne}
    (hdepends : tables.DependsOn (.livre id) target) :
    ∃ categorie, target = .categorie categorie := by
  induction hdepends with
  | single hreference =>
      obtain ⟨-, htarget⟩ := hreference
      simp only [targets, List.mem_map] at htarget
      obtain ⟨livre, -, rfl⟩ := htarget
      exact ⟨livre.categorie, rfl⟩
  | tail _ hreference ih =>
      obtain ⟨categorie, rfl⟩ := ih
      exact absurd hreference.2 (by simp [targets])

theorem isEntity_of_rank_pos {ligne : Ligne} (hrank : 0 < ligne.rank) :
    ligne.isEntity = true := by
  cases ligne with
  | livreAuteur livre auteur => simp [Ligne.rank] at hrank
  | _ => rfl

section Removed

variable {tables : Tables} (hvalid : tables.Valid)
variable {ligne : Ligne} {removed : List Ligne}
variable (hremoved : tables.doRemove ligne = some removed)

include hvalid hremoved in
theorem mem_removed_of_dependsOn {source target : Ligne}
    (hsource : source.isEntity = true)
    (hdepends : tables.DependsOn source target) (htarget : target ∈ removed) :
    source ∈ removed := by
  induction hdepends with
  | single hreference =>
      exact mem_removed_of_references hvalid hremoved hsource hreference htarget
  | tail hbefore hreference ih =>
      have hentity := isEntity_of_rank_pos
        ((Nat.zero_le _).trans_lt (rank_lt_of_dependsOn hbefore))
      exact ih
        (mem_removed_of_references hvalid hremoved hentity hreference htarget)

include hvalid hremoved in
/-- Away from reservations the cascades only follow foreign keys backwards. -/
theorem eq_or_dependsOn_of_mem_removed
    (hreservations : ∀ id, .reservations id ∈ tables.lignes →
      .reservations id ≠ ligne ∧ ¬ tables.DependsOn (.reservations id) ligne)
    (hligne : ligne ∈ tables.lignes) {row : Ligne} (hrow : row ∈ removed) :
    row = ligne ∨ tables.DependsOn row ligne := by
  have hpath := (Traversal.mem_visit_iff hremoved row).mp hrow
  induction hpath with
  | refl => exact Or.inl rfl
  | @tail before after hbefore hedge ih =>
      have hmember : before ∈ removed :=
        (Traversal.mem_visit_iff hremoved before).mpr hbefore
      have hdepends := ih hmember
      have hstored := mem_lignes_of_mem_removed hvalid hligne hremoved hmember
      have hother : ∀ id, before ≠ .reservations id := by
        rintro id rfl
        obtain ⟨hne, hindependent⟩ := hreservations id hstored
        exact hdepends.elim hne hindependent
      have hreference := references_of_mem_cascade hvalid hother hedge
      rcases hdepends with rfl | hdepends
      · exact Or.inr (TransGen.single hreference)
      · exact Or.inr (TransGen.head hreference hdepends)

include hremoved in
/-- A reservation that leaves takes its book and its user along. -/
theorem mem_removed_of_reservations {id : ℕ} {reservation : Reservations}
    (hrow : (id, reservation) ∈ tables.reservations.rows)
    (hleaves : .reservations id ∈ removed) :
    .livre reservation.livre ∈ removed ∧
      .utilisateur reservation.reservateur ∈ removed := by
  have hfind := (Table.find_eq_some_iff _ _ _).mpr hrow
  constructor
  · apply mem_removed_of_cascade hremoved hleaves
    rw [mem_cascade_reservations]
    simp [targets, hfind]
  · apply mem_removed_of_cascade hremoved hleaves
    rw [mem_cascade_reservations]
    simp [targets, hfind]

end Removed

end Tables

/-- A DELETE removes only its row and the rows that depend on it exactly when
no reservation is that row or depends on it. -/
theorem Requete.deletion_only_dependents_iff (runtime : Runtime) (base : Base)
    (ligne : Ligne) (requete : Requete) (hligne : ligne ∈ base.lignes)
    (hrequete : ligne.deletion = some requete) :
    (∀ row ∈ base.lignes, row ∉ (requete.executer runtime base).2.lignes →
      row = ligne ∨ base.DependsOn row ligne) ↔
    ∀ id, .reservations id ∈ base.lignes →
      .reservations id ≠ ligne ∧ ¬ base.DependsOn (.reservations id) ligne := by
  obtain ⟨removed, hremoved⟩ := Tables.exists_removed base.valid hligne
  have hvalid := Tables.valid_without_removed base.valid hremoved
  obtain ⟨body, hexecuter⟩ :=
    executer_deletion runtime base hligne hrequete hremoved hvalid
  rw [hexecuter]
  constructor
  · intro honly id hreservation
    rw [← not_or]
    intro hdepends
    obtain ⟨row, hrow, rfl⟩ := List.mem_map.mp
      ((Tables.mem_lignes_reservations _ _).mp hreservation)
    have hleaves : .reservations row.1 ∈ removed := by
      rcases hdepends with rfl | hdepends
      · exact Tables.mem_removed_self hremoved
      · exact Tables.mem_removed_of_dependsOn base.valid hremoved rfl hdepends
          (Tables.mem_removed_self hremoved)
    obtain ⟨hlivre, hutilisateur⟩ :=
      Tables.mem_removed_of_reservations hremoved hrow hleaves
    have hgone : ∀ {other}, other ∈ removed → other = ligne ∨
        base.DependsOn other ligne := fun hother =>
      honly _ (Tables.mem_lignes_of_mem_removed base.valid hligne hremoved hother)
        fun hkept => ((Tables.mem_lignes_without _ _ _).mp hkept).2.1 hother
    -- the user can only be the deleted row itself, and no book depends on it
    rcases hgone hutilisateur with rfl | hdepends
    · rcases hgone hlivre with heq | hdepends
      · cases heq
      · obtain ⟨categorie, heq⟩ := Tables.exists_categorie_of_dependsOn hdepends
        cases heq
    · exact Tables.not_dependsOn_of_utilisateur hdepends
  · intro hreservations row hrow hgone
    have honly : ∀ {other}, other ∈ removed → other = ligne ∨
        base.DependsOn other ligne := fun hother =>
      Tables.eq_or_dependsOn_of_mem_removed base.valid hremoved hreservations
        hligne hother
    by_cases hleaves : row ∈ removed
    · exact honly hleaves
    · -- otherwise a link whose book or author has left
      have hlink : ∃ target ∈ base.targets row, target ∈ removed := by
        by_contra hends
        push Not at hends
        exact hgone ((Tables.mem_lignes_without _ _ _).mpr
          ⟨hrow, hleaves, fun _ => hends⟩)
      obtain ⟨target, htarget, htargetLeaves⟩ := hlink
      rcases honly htargetLeaves with rfl | hdepends
      · exact Or.inr (TransGen.single ⟨hrow, htarget⟩)
      · exact Or.inr (TransGen.head ⟨hrow, htarget⟩ hdepends)

/-- Nothing depends on a loan, so its deletion is clean. -/
theorem Requete.deletion_only_dependents_emprunt :
    Ligne.emprunt 1 ∈ Base.sample.lignes ∧
      ∀ row ∈ Base.sample.lignes,
        row ∉ ((empruntDelete 1).executer .dev Base.sample).2.lignes →
          row = .emprunt 1 ∨ Base.sample.DependsOn row (.emprunt 1) := by
  have hligne : Ligne.emprunt 1 ∈ Base.sample.lignes := by decide
  refine ⟨hligne, (deletion_only_dependents_iff .dev Base.sample (.emprunt 1)
    (.empruntDelete 1) hligne rfl).mpr ?_⟩
  intro id _
  refine ⟨by simp, fun hdepends => ?_⟩
  exact absurd (Tables.rank_lt_of_dependsOn hdepends) (lt_irrefl 0)

/-- Deleting a reservation deletes its book. -/
theorem Requete.reservationsDelete_deletes_livre :
    ¬ ∀ row ∈ Base.sample.lignes,
      row ∉ ((reservationsDelete 1).executer .dev Base.sample).2.lignes →
        row = .reservations 1 ∨
          Base.sample.DependsOn row (.reservations 1) := by
  intro honly
  rcases honly (.livre 1) (by decide) (by decide) with heq | hdepends
  · cases heq
  · obtain ⟨categorie, heq⟩ := Tables.exists_categorie_of_dependsOn hdepends
    cases heq

end Bibliotheque
