import Bibliotheque.Store.Constraints
import Bibliotheque.Store.Session

/-!
# What a flush writes

The statements of a flush in the three situations the handlers reach: managed
rows that were changed, one entity that was persisted, and one entity that was
removed together with what its cascades reach.
-/

namespace Bibliotheque

/-! ## Updates -/

section Write

variable {Row : Type*} {merge : Row → Row → Row → Row}

/-- If nobody else wrote in between, the managed rows are stored. -/
theorem Table.write_loaded (hmerge : ∀ old new, merge old new old = new)
    {loaded managed : Table Row} (hids : loaded.ids = managed.ids)
    (hnext : loaded.next = managed.next) :
    Table.write merge loaded managed loaded = managed := by
  rw [← Table.mapRows_find_eq hids hnext]
  apply Table.mapRows_congr
  intro row hrow
  have hloaded := (Table.find_eq_some_iff loaded row.1 row.2).mpr hrow
  have hid : row.1 ∈ managed.ids := hids ▸ Table.mem_ids_of_mem hrow
  obtain ⟨new, hmanaged⟩ := Table.exists_find_of_mem_ids hid
  have hrewritten : (loaded.mapRows fun id row =>
      (managed.find id).getD row) = managed := Table.mapRows_find_eq hids hnext
  simp only [hrewritten, hloaded, hmanaged, Option.getD_some, hmerge]

/-- Rows the session did not change are not written. -/
theorem Table.write_unchanged (hmerge : ∀ old row, merge old old row = row)
    (loaded stored : Table Row) :
    Table.write merge loaded loaded stored = stored := by
  apply Table.mapRows_eq_self
  intro row _
  cases loaded.find row.1 with
  | none => rfl
  | some old => exact hmerge old row.2

/-- The update of one row, from what it was loaded with to what was set. -/
theorem Table.write_modify_modify (hmerge : ∀ old row, merge old old row = row)
    {loaded stored : Table Row} {id : ℕ} {old : Row}
    (hold : loaded.find id = some old) (charge rewrite : Row → Row) :
    Table.write merge (loaded.modify id charge) (loaded.modify id rewrite) stored =
      stored.modify id (merge (charge old) (rewrite old)) := by
  apply Table.mapRows_congr
  intro row _
  by_cases hid : row.1 = id
  · simp only [hid, Table.find_modify_self, hold, Option.map_some, if_true]
  · rw [Table.find_modify_of_ne loaded charge hid, Table.find_modify_of_ne loaded rewrite hid]
    cases loaded.find row.1 with
    | none => simp [hid]
    | some other => simp [hid, hmerge]

/-- The update of one changed row. -/
theorem Table.write_modify (hmerge : ∀ old row, merge old old row = row)
    {loaded stored : Table Row} {id : ℕ} {old : Row}
    (hold : loaded.find id = some old) (rewrite : Row → Row) :
    Table.write merge loaded (loaded.modify id rewrite) stored =
      stored.modify id (merge old (rewrite old)) := by
  have hboth := @write_modify_modify Row merge hmerge loaded stored id old hold (fun row => row)
    rewrite
  rwa [Table.modify_id] at hboth

/-- A property of rows that merging keeps is kept by the update. -/
theorem Table.forall_write (property : Row → Prop)
    (hmerge : ∀ old new row, property new → property row →
      property (merge old new row))
    {loaded managed stored : Table Row}
    (hmanaged : ∀ row ∈ managed.rows, property row.2)
    (hstored : ∀ row ∈ stored.rows, property row.2) :
    ∀ row ∈ (Table.write merge loaded managed stored).rows, property row.2 := by
  intro row hrow
  obtain ⟨old, hold, rfl⟩ := List.mem_map.mp hrow
  dsimp only
  split
  · rename_i hfind
    have hnew := hmanaged _ ((Table.find_eq_some_iff _ _ _).mp hfind)
    exact hmerge _ _ _ hnew (hstored old hold)
  · exact hstored old hold

end Write

theorem Livre.write_loaded (old new : Livre) : Livre.write old new old = new := by
  simp [Livre.write, column_loaded]

theorem Auteur.write_loaded (old new : Auteur) :
    Auteur.write old new old = new := by
  simp [Auteur.write, column_loaded]

theorem Categorie.write_loaded (old new : Categorie) :
    Categorie.write old new old = new := by
  simp [Categorie.write, column_loaded]

theorem Emprunt.write_loaded (old new : Emprunt) :
    Emprunt.write old new old = new := by
  simp [Emprunt.write, column_loaded]

theorem Reservations.write_loaded (old new : Reservations) :
    Reservations.write old new old = new := by
  simp [Reservations.write, column_loaded]

theorem Utilisateur.write_loaded (old new : Utilisateur) :
    Utilisateur.write old new old = new := by
  simp [Utilisateur.write, column_loaded]

theorem Livre.write_unchanged (old row : Livre) : Livre.write old old row = row := by
  simp [Livre.write]

theorem Auteur.write_unchanged (old row : Auteur) :
    Auteur.write old old row = row := by
  simp [Auteur.write]

theorem Categorie.write_unchanged (old row : Categorie) :
    Categorie.write old old row = row := by
  simp [Categorie.write]

theorem Emprunt.write_unchanged (old row : Emprunt) :
    Emprunt.write old old row = row := by
  simp [Emprunt.write]

theorem Reservations.write_unchanged (old row : Reservations) :
    Reservations.write old old row = row := by
  simp [Reservations.write]

theorem Utilisateur.write_unchanged (old row : Utilisateur) :
    Utilisateur.write old old row = row := by
  simp [Utilisateur.write]

namespace Tables

/-- The two contents have the same primary keys and counters. -/
structure SameKeys (left right : Tables) : Prop where
  livre : left.livre.ids = right.livre.ids ∧ left.livre.next = right.livre.next
  auteur : left.auteur.ids = right.auteur.ids ∧
    left.auteur.next = right.auteur.next
  categorie : left.categorie.ids = right.categorie.ids ∧
    left.categorie.next = right.categorie.next
  emprunt : left.emprunt.ids = right.emprunt.ids ∧
    left.emprunt.next = right.emprunt.next
  reservations : left.reservations.ids = right.reservations.ids ∧
    left.reservations.next = right.reservations.next
  utilisateur : left.utilisateur.ids = right.utilisateur.ids ∧
    left.utilisateur.next = right.utilisateur.next

theorem sameKeys_refl (tables : Tables) : tables.SameKeys tables :=
  ⟨⟨rfl, rfl⟩, ⟨rfl, rfl⟩, ⟨rfl, rfl⟩, ⟨rfl, rfl⟩, ⟨rfl, rfl⟩, ⟨rfl, rfl⟩⟩

theorem write_loaded {loaded managed : Tables} (hkeys : loaded.SameKeys managed) :
    Tables.write loaded managed loaded =
      { managed with livreAuteur := loaded.livreAuteur } := by
  simp only [Tables.write,
    Table.write_loaded Livre.write_loaded hkeys.livre.1 hkeys.livre.2,
    Table.write_loaded Auteur.write_loaded hkeys.auteur.1 hkeys.auteur.2,
    Table.write_loaded Categorie.write_loaded hkeys.categorie.1
      hkeys.categorie.2,
    Table.write_loaded Emprunt.write_loaded hkeys.emprunt.1 hkeys.emprunt.2,
    Table.write_loaded Reservations.write_loaded hkeys.reservations.1
      hkeys.reservations.2,
    Table.write_loaded Utilisateur.write_loaded hkeys.utilisateur.1
      hkeys.utilisateur.2]

theorem write_self (tables : Tables) :
    Tables.write tables tables tables = tables :=
  write_loaded tables.sameKeys_refl

/-- Entities that were only read are not written. -/
theorem write_unchanged (loaded stored : Tables) :
    Tables.write loaded loaded stored = stored := by
  simp only [Tables.write, Table.write_unchanged Livre.write_unchanged,
    Table.write_unchanged Auteur.write_unchanged,
    Table.write_unchanged Categorie.write_unchanged,
    Table.write_unchanged Emprunt.write_unchanged,
    Table.write_unchanged Reservations.write_unchanged,
    Table.write_unchanged Utilisateur.write_unchanged]

end Tables

/-- A flush after which only one book was changed. -/
theorem Tables.write_livre (loaded stored : Tables) {id : ℕ} {old : Livre}
    (hold : loaded.livre.find id = some old) (rewrite : Livre → Livre) :
    Tables.write loaded
        { loaded with livre := loaded.livre.modify id rewrite } stored =
      { stored with
        livre := stored.livre.modify id (Livre.write old (rewrite old)) } := by
  simp only [Tables.write, Table.write_modify Livre.write_unchanged hold,
    Table.write_unchanged Auteur.write_unchanged,
    Table.write_unchanged Categorie.write_unchanged,
    Table.write_unchanged Emprunt.write_unchanged,
    Table.write_unchanged Reservations.write_unchanged,
    Table.write_unchanged Utilisateur.write_unchanged]

/-! ## The collections as loaded -/

/-- The collection of a book holds its linked authors. -/
theorem Tables.mem_liens_auteurs (tables : Tables) (livre : ℕ) (member : Ref) :
    member ∈ tables.liens.auteurs (.managed livre) ↔
      ∃ auteur, (livre, auteur) ∈ tables.livreAuteur ∧ member = .managed auteur := by
  simp only [Tables.liens, List.mem_map, List.mem_filter, decide_eq_true_eq]
  constructor
  · rintro ⟨link, ⟨hlink, rfl⟩, rfl⟩
    exact ⟨link.2, hlink, rfl⟩
  · rintro ⟨auteur, hlink, rfl⟩
    exact ⟨(livre, auteur), ⟨hlink, rfl⟩, rfl⟩

theorem Tables.Valid.nodup_liens_auteurs {tables : Tables} (hvalid : tables.Valid)
    (livre : Ref) : (tables.liens.auteurs livre).Nodup := by
  cases livre with
  | fresh => exact List.nodup_nil
  | managed livre =>
      refine List.Nodup.map_on ?_ (hvalid.livreAuteur_nodup.filter _)
      intro left hleft right hright heq
      have hleftLivre : left.1 = livre := by simpa using (List.mem_filter.mp hleft).2
      have hrightLivre : right.1 = livre := by
        simpa using (List.mem_filter.mp hright).2
      exact Prod.ext (hleftLivre.trans hrightLivre.symm) (Ref.managed.inj heq)

theorem Tables.mem_liens_livres (tables : Tables) (auteur : ℕ) (member : Ref) :
    member ∈ tables.liens.livres (.managed auteur) ↔
      ∃ livre, (livre, auteur) ∈ tables.livreAuteur ∧ member = .managed livre := by
  simp only [Tables.liens, List.mem_map, List.mem_filter, decide_eq_true_eq]
  constructor
  · rintro ⟨link, ⟨hlink, rfl⟩, rfl⟩
    exact ⟨link.1, hlink, rfl⟩
  · rintro ⟨livre, hlink, rfl⟩
    exact ⟨(livre, auteur), ⟨hlink, rfl⟩, rfl⟩

theorem Tables.Valid.nodup_liens_livres {tables : Tables} (hvalid : tables.Valid)
    (auteur : Ref) : (tables.liens.livres auteur).Nodup := by
  cases auteur with
  | fresh => exact List.nodup_nil
  | managed auteur =>
      refine List.Nodup.map_on ?_ (hvalid.livreAuteur_nodup.filter _)
      intro left hleft right hright heq
      have hleftAuteur : left.2 = auteur := by simpa using (List.mem_filter.mp hleft).2
      have hrightAuteur : right.2 = auteur := by
        simpa using (List.mem_filter.mp hright).2
      exact Prod.ext (Ref.managed.inj heq) (hleftAuteur.trans hrightAuteur.symm)

/-- Loaded from one join table, the two sides agree. -/
theorem Tables.Valid.coherent_liens {tables : Tables} (hvalid : tables.Valid) :
    tables.liens.Coherent where
  accord := by
    intro livre auteur
    cases livre with
    | fresh =>
        cases auteur with
        | fresh => simp [Tables.liens]
        | managed auteur => simp [Tables.liens]
    | managed livre =>
        cases auteur with
        | fresh => simp [Tables.liens]
        | managed auteur => simp [Tables.mem_liens_auteurs, Tables.mem_liens_livres]
  auteurs_nodup := hvalid.nodup_liens_auteurs
  livres_nodup := hvalid.nodup_liens_livres

/-! ## The three shapes of a commit -/

namespace Session

variable {session : Session}

/-- The content after the updates and the link insertions of a flush that
inserts and deletes no entity. -/
def updated (session : Session) : Tables :=
  let written := Tables.write session.loaded session.managed session.base.toTables
  { written with livreAuteur := written.livreAuteur ++ session.newLinks 0 }

theorem commit_of_not_persisted (hpersisted : session.persisted = none) :
    session.commit = do
      let deleted ←
        session.updated.executeDeletions (Tables.commitOrder session.removed)
      return (deleted, 0) := by
  simp only [commit, hpersisted]
  rfl

theorem commit_update (hpersisted : session.persisted = none)
    (hremoved : session.removed = []) :
    session.commit = .ok (session.updated, 0) := by
  rw [commit_of_not_persisted hpersisted, hremoved]
  rfl

/-- What a flush that deletes nothing commits: the updates, at most one
insertion, and the new links. -/
theorem commit_cases (hremoved : session.removed = []) {tables : Tables}
    {fresh : ℕ} (hcommit : session.commit = .ok (tables, fresh)) :
    ∃ inserted : Tables,
      (session.persisted = none ∧
          inserted = Tables.write session.loaded session.managed
            session.base.toTables ∨
        ∃ entity, session.persisted = some entity ∧
          entity.insert (Tables.write session.loaded session.managed
            session.base.toTables) = some (inserted, fresh)) ∧
      tables = { inserted with
        livreAuteur := inserted.livreAuteur ++ session.newLinks fresh } := by
  simp only [commit, hremoved] at hcommit
  cases hpersisted : session.persisted with
  | none =>
      rw [hpersisted] at hcommit
      cases hcommit
      exact ⟨_, Or.inl ⟨rfl, rfl⟩, rfl⟩
  | some entity =>
      rw [hpersisted] at hcommit
      cases hinsert : entity.insert
        (Tables.write session.loaded session.managed session.base.toTables) with
      | none =>
          simp only [hinsert] at hcommit
          cases hcommit
      | some result =>
          simp only [hinsert] at hcommit
          cases hcommit
          exact ⟨result.1, Or.inr ⟨entity, rfl, hinsert⟩, rfl⟩

/-- The session linked a book and an author that were not linked before. -/
def Adds (session : Session) (livre auteur : Ref) : Prop :=
  auteur ∈ session.liens.auteurs livre ∧
    auteur ∉ session.loaded.liens.auteurs livre

theorem mem_newLinks_iff (session : Session) (fresh : ℕ) (link : ℕ × ℕ) :
    link ∈ session.newLinks fresh ↔
      ∃ livre auteur, (livre = .fresh ∨
          ∃ id ∈ session.managed.livre.ids, livre = .managed id) ∧
        session.Adds livre auteur ∧
        link = (livre.number fresh, auteur.number fresh) := by
  simp only [newLinks, List.mem_flatMap, List.mem_append, List.mem_map,
    List.mem_filter, List.mem_singleton, decide_eq_true_eq]
  constructor
  · rintro ⟨livre, howner, auteur, hadds, rfl⟩
    refine ⟨livre, auteur, ?_, hadds, rfl⟩
    rcases howner with ⟨id, hid, rfl⟩ | rfl
    · exact Or.inr ⟨id, hid, rfl⟩
    · exact Or.inl rfl
  · rintro ⟨livre, auteur, howner, hadds, rfl⟩
    refine ⟨livre, ?_, auteur, hadds, rfl⟩
    rcases howner with rfl | ⟨id, hid, rfl⟩
    · exact Or.inr rfl
    · exact Or.inl ⟨id, hid, rfl⟩

/-- The new links are distinct if the collections hold no duplicate and no two
of them get the same numbers. -/
theorem nodup_newLinks (session : Session) (fresh : ℕ)
    (hnodup : ∀ livre, (session.liens.auteurs livre).Nodup)
    (hinjective : ∀ livre auteur livre' auteur', session.Adds livre auteur →
      session.Adds livre' auteur' → livre.number fresh = livre'.number fresh →
        auteur.number fresh = auteur'.number fresh →
          livre = livre' ∧ auteur = auteur') :
    (session.newLinks fresh).Nodup := by
  have howners :
      (session.managed.livre.ids.map Ref.managed ++ [Ref.fresh]).Nodup := by
    have hids : session.managed.livre.ids.Nodup := session.managed.livre.nodup_ids
    refine List.nodup_append.mpr
      ⟨hids.map fun _ _ heq => Ref.managed.inj heq, List.nodup_singleton _, ?_⟩
    intro owner howner other hother heq
    obtain ⟨livre, -, rfl⟩ := List.mem_map.mp howner
    rw [List.mem_singleton.mp hother] at heq
    cases heq
  have hadds : ∀ {livre auteur}, auteur ∈ (session.liens.auteurs livre).filter
      (· ∉ session.loaded.liens.auteurs livre) → session.Adds livre auteur := by
    intro livre auteur hauteur
    obtain ⟨hmember, hnew⟩ := List.mem_filter.mp hauteur
    exact ⟨hmember, by simpa using hnew⟩
  refine List.nodup_flatMap.mpr ⟨?_, ?_⟩
  · intro livre _
    refine List.Nodup.map_on ?_ ((hnodup livre).filter _)
    intro left hleft right hright heq
    exact (hinjective livre left livre right (hadds hleft) (hadds hright) rfl
      (congrArg Prod.snd heq)).2
  · refine howners.imp ?_
    intro left right hne link hleft hright
    obtain ⟨auteur, hauteur, rfl⟩ := List.mem_map.mp hleft
    obtain ⟨auteur', hauteur', heq⟩ := List.mem_map.mp hright
    exact hne (hinjective left auteur right auteur' (hadds hauteur)
      (hadds hauteur') (congrArg Prod.fst heq).symm (congrArg Prod.snd heq).symm).1

/-- Collections that were not touched give no link to insert. -/
theorem newLinks_eq_nil (hliens : session.liens = session.loaded.liens)
    (fresh : ℕ) : session.newLinks fresh = [] := by
  simp [newLinks, hliens]

/-- The flush of a DELETE. -/
theorem commit_remove (base : Base) {entity : Ligne} {removed : List Ligne}
    (hremoved : base.doRemove entity = some removed) :
    commit { start base with removed := removed } =
      .ok (base.without removed, 0) := by
  have hupdated : updated { start base with removed := removed } = base.toTables := by
    have hlinks : newLinks { start base with removed := removed } 0 = [] :=
      newLinks_eq_nil rfl 0
    simp only [updated, hlinks, List.append_nil]
    exact Tables.write_self base.toTables
  rw [commit_of_not_persisted rfl, hupdated,
    Tables.executeDeletions_commitOrder base.valid hremoved]
  rfl

/-- The flush of a create handler. -/
theorem commit_persisted (read : Base) (liens : Liens Ref Ref) {current : Base}
    {entity : Entity} {inserted : Tables} {fresh : ℕ}
    (hinsert : entity.insert current.toTables = some (inserted, fresh)) :
    commit { start read with base := current, liens := liens, persisted := some entity } =
      .ok ({ inserted with
        livreAuteur := inserted.livreAuteur ++ newLinks
          { start read with base := current, liens := liens, persisted := some entity }
            fresh },
        fresh) := by
  have hwritten : Tables.write (start read).loaded (start read).managed current.toTables =
      current.toTables := Tables.write_unchanged read.toTables current.toTables
  simp only [commit, hwritten, hinsert]
  rfl

/-- The flush of a create handler that touched no collection, on a database that
may have changed since it was read. -/
theorem commit_persisted_alone (read : Base) {current : Base} {entity : Entity}
    {inserted : Tables} {fresh : ℕ}
    (hinsert : entity.insert current.toTables = some (inserted, fresh)) :
    commit { start read with base := current, persisted := some entity } =
      .ok (inserted, fresh) := by
  have hlinks : newLinks { start read with base := current, persisted := some entity }
      fresh = [] := newLinks_eq_nil rfl fresh
  have hcommit := commit_persisted read (start read).liens hinsert
  rw [hlinks, List.append_nil] at hcommit
  exact hcommit

/-- The flush of an update handler that nobody disturbed. -/
theorem commit_managed (base : Base) {managed : Tables}
    (hkeys : base.SameKeys managed) :
    commit { start base with managed := managed } =
      .ok ({ managed with livreAuteur := base.livreAuteur }, 0) := by
  have hupdated : updated { start base with managed := managed } =
      { managed with livreAuteur := base.livreAuteur } := by
    have hlinks : newLinks { start base with managed := managed } 0 = [] :=
      newLinks_eq_nil rfl 0
    have hwritten : Tables.write base.toTables managed base.toTables =
        { managed with livreAuteur := base.livreAuteur } := Tables.write_loaded hkeys
    simp only [updated, hlinks, List.append_nil]
    exact hwritten
  rw [commit_update rfl rfl, hupdated]

end Session

end Bibliotheque
