import Bibliotheque.Store.Schema

/-!
# Statements that keep the constraints

An `INSERT` or an `UPDATE` of one row keeps the constraints of the schema as
soon as the new row fits its columns, points at existing rows and repeats no
value of a unique index.
-/

namespace Bibliotheque

namespace Table

variable {Row : Type*} {table : Table Row}

theorem forall_insert {property : ℕ × Row → Prop} {row : Row}
    (hrows : ∀ stored ∈ table.rows, property stored)
    (hnew : property (table.next, row)) :
    ∀ stored ∈ (table.insert row).rows, property stored := by
  intro stored hstored
  rcases List.mem_append.mp hstored with hold | hadded
  · exact hrows stored hold
  · rw [List.mem_singleton.mp hadded]
    exact hnew

theorem forall_modify {property : ℕ × Row → Prop} {id : ℕ} {rewrite : Row → Row}
    (hrows : ∀ stored ∈ table.rows, property stored)
    (hnew : ∀ old, table.find id = some old → property (id, rewrite old)) :
    ∀ stored ∈ (table.modify id rewrite).rows, property stored := by
  rintro ⟨number, row⟩ hstored
  rcases mem_rows_modify hstored with hold | ⟨hid, old, hold, hrow⟩
  · exact hrows _ hold
  · change number = id at hid
    change row = rewrite old at hrow
    rw [hid, hrow]
    exact hnew old hold

/-- A unique index after an `INSERT`. -/
theorem nodup_insert {Column : Type*} {column : Row → Column} {row : Row}
    (hnodup : (table.rows.map fun stored => column stored.2).Nodup)
    (hnew : ∀ stored ∈ table.rows, column stored.2 ≠ column row) :
    ((table.insert row).rows.map fun stored => column stored.2).Nodup := by
  simp only [rows_insert, List.map_append, List.map_cons, List.map_nil]
  refine List.nodup_append.mpr ⟨hnodup, List.nodup_singleton _, ?_⟩
  intro value hvalue other hother heq
  obtain ⟨stored, hstored, rfl⟩ := List.mem_map.mp hvalue
  rw [List.mem_singleton.mp hother] at heq
  exact hnew stored hstored heq

/-- A unique index after an `UPDATE`. -/
theorem nodup_modify {Column : Type*} {column : Row → Column} {id : ℕ}
    {rewrite : Row → Row}
    (hnodup : (table.rows.map fun stored => column stored.2).Nodup)
    (hnew : ∀ old, table.find id = some old → ∀ stored ∈ table.rows,
      stored.1 ≠ id → column stored.2 ≠ column (rewrite old)) :
    ((table.modify id rewrite).rows.map fun stored => column stored.2).Nodup := by
  have hrows : table.rows.Pairwise fun left right =>
      left.1 ≠ right.1 ∧ column left.2 ≠ column right.2 :=
    (List.pairwise_map.mp table.nodup_ids).and (List.pairwise_map.mp hnodup)
  simp only [modify, rows_mapRows, List.map_map]
  refine List.pairwise_map.mpr (hrows.imp_of_mem ?_)
  intro left right hleft hright hne
  simp only [Function.comp_apply]
  by_cases hleftId : left.1 = id
  · have hrightId : right.1 ≠ id := fun heq => hne.1 (hleftId.trans heq.symm)
    have hold := (find_eq_some_iff table left.1 left.2).mpr hleft
    rw [hleftId] at hold
    rw [if_pos hleftId, if_neg hrightId]
    exact (hnew left.2 hold right hright hrightId).symm
  · by_cases hrightId : right.1 = id
    · have hold := (find_eq_some_iff table right.1 right.2).mpr hright
      rw [hrightId] at hold
      rw [if_neg hleftId, if_pos hrightId]
      exact hnew right.2 hold left hleft hleftId
    · rw [if_neg hleftId, if_neg hrightId]
      exact hne.2

end Table

namespace Tables.Valid

variable {tables : Tables} (hvalid : tables.Valid)

include hvalid

/-! ### What the columns make of one table -/

theorem store_livre (table : Table Livre) (links : List (ℕ × ℕ)) :
    store { tables with livre := table, livreAuteur := links } =
      { tables with livre := table.map Livre.store, livreAuteur := links } := by
  calc
    _ = { tables.store with livre := table.map Livre.store, livreAuteur := links } := rfl
    _ = _ := by rw [hvalid.store_eq]

theorem store_auteur (table : Table Auteur) (links : List (ℕ × ℕ)) :
    store { tables with auteur := table, livreAuteur := links } =
      { tables with auteur := table.map Auteur.store, livreAuteur := links } := by
  calc
    _ = { tables.store with auteur := table.map Auteur.store, livreAuteur := links } := rfl
    _ = _ := by rw [hvalid.store_eq]

theorem store_categorie (table : Table Categorie) :
    store { tables with categorie := table } =
      { tables with categorie := table.map Categorie.store } := by
  calc
    _ = { tables.store with categorie := table.map Categorie.store } := rfl
    _ = _ := by rw [hvalid.store_eq]

theorem store_emprunt (table : Table Emprunt) :
    store { tables with emprunt := table } =
      { tables with emprunt := table } := by
  calc
    _ = { tables.store with emprunt := table } := rfl
    _ = _ := by rw [hvalid.store_eq]

theorem store_reservations (table : Table Reservations) :
    store { tables with reservations := table } =
      { tables with reservations := table } := by
  calc
    _ = { tables.store with reservations := table } := rfl
    _ = _ := by rw [hvalid.store_eq]

theorem store_utilisateur (table : Table Utilisateur) :
    store { tables with utilisateur := table } =
      { tables with utilisateur := table.map Utilisateur.store } := by
  calc
    _ = { tables.store with utilisateur := table.map Utilisateur.store } := rfl
    _ = _ := by rw [hvalid.store_eq]

/-! ### New and changed rows -/

/-- New links between existing rows. -/
theorem nodup_append_links {links : List (ℕ × ℕ)} (hnodup : links.Nodup)
    (hnew : ∀ link ∈ links, link ∉ tables.livreAuteur) :
    (tables.livreAuteur ++ links).Nodup := by
  refine List.nodup_append.mpr ⟨hvalid.livreAuteur_nodup, hnodup, ?_⟩
  rintro link hlink other hother rfl
  exact hnew link hother hlink

theorem update_livre {id : ℕ} {rewrite : Livre → Livre}
    (hrewrite : ∀ old, tables.livre.find id = some old →
      (rewrite old).Fits ∧ (rewrite old).categorie ∈ tables.categorie.ids)
    {links : List (ℕ × ℕ)} (hnodup : links.Nodup)
    (hlinks : ∀ link ∈ links, link.1 ∈ tables.livre.ids ∧
      link.2 ∈ tables.auteur.ids ∧ link ∉ tables.livreAuteur) :
    Tables.Valid { tables with
      livre := tables.livre.modify id rewrite
      livreAuteur := tables.livreAuteur ++ links } :=
  { hvalid with
    livre_fits := Table.forall_modify hvalid.livre_fits fun old hold =>
      (hrewrite old hold).1
    livre_categorie := Table.forall_modify hvalid.livre_categorie fun old hold =>
      (hrewrite old hold).2
    emprunt_livre := by simpa using hvalid.emprunt_livre
    reservations_livre := by simpa using hvalid.reservations_livre
    livreAuteur_livre := by
      intro link hlink
      rw [Table.ids_modify]
      rcases List.mem_append.mp hlink with hold | hnew
      · exact hvalid.livreAuteur_livre link hold
      · exact (hlinks link hnew).1
    livreAuteur_auteur := by
      intro link hlink
      rcases List.mem_append.mp hlink with hold | hnew
      · exact hvalid.livreAuteur_auteur link hold
      · exact (hlinks link hnew).2.1
    livreAuteur_nodup := hvalid.nodup_append_links hnodup fun link hlink =>
      (hlinks link hlink).2.2 }

theorem insert_livre {row : Livre} (hfits : row.Fits)
    (hcategorie : row.categorie ∈ tables.categorie.ids) {links : List (ℕ × ℕ)}
    (hnodup : links.Nodup)
    (hlinks : ∀ link ∈ links, link.1 = tables.livre.next ∧
      link.2 ∈ tables.auteur.ids) :
    Tables.Valid { tables with
      livre := tables.livre.insert row
      livreAuteur := tables.livreAuteur ++ links } :=
  { hvalid with
    livre_fits := Table.forall_insert hvalid.livre_fits hfits
    livre_categorie := Table.forall_insert hvalid.livre_categorie hcategorie
    emprunt_livre := fun emprunt hemprunt => by
      simp [hvalid.emprunt_livre emprunt hemprunt]
    reservations_livre := fun reservation hreservation => by
      simp [hvalid.reservations_livre reservation hreservation]
    livreAuteur_livre := by
      intro link hlink
      rw [Table.ids_insert]
      rcases List.mem_append.mp hlink with hold | hnew
      · exact List.mem_append_left _ (hvalid.livreAuteur_livre link hold)
      · simp [(hlinks link hnew).1]
    livreAuteur_auteur := by
      intro link hlink
      rcases List.mem_append.mp hlink with hold | hnew
      · exact hvalid.livreAuteur_auteur link hold
      · exact (hlinks link hnew).2
    livreAuteur_nodup := hvalid.nodup_append_links hnodup fun link hlink hold =>
      tables.livre.next_not_mem_ids
        ((hlinks link hlink).1 ▸ hvalid.livreAuteur_livre link hold) }

theorem insert_auteur {row : Auteur} (hfits : row.Fits) {links : List (ℕ × ℕ)}
    (hnodup : links.Nodup)
    (hlinks : ∀ link ∈ links, link.1 ∈ tables.livre.ids ∧
      link.2 = tables.auteur.next) :
    Tables.Valid { tables with
      auteur := tables.auteur.insert row
      livreAuteur := tables.livreAuteur ++ links } :=
  { hvalid with
    auteur_fits := Table.forall_insert hvalid.auteur_fits hfits
    livreAuteur_livre := by
      intro link hlink
      rcases List.mem_append.mp hlink with hold | hnew
      · exact hvalid.livreAuteur_livre link hold
      · exact (hlinks link hnew).1
    livreAuteur_auteur := by
      intro link hlink
      rw [Table.ids_insert]
      rcases List.mem_append.mp hlink with hold | hnew
      · exact List.mem_append_left _ (hvalid.livreAuteur_auteur link hold)
      · simp [(hlinks link hnew).2]
    livreAuteur_nodup := hvalid.nodup_append_links hnodup fun link hlink hold =>
      tables.auteur.next_not_mem_ids
        ((hlinks link hlink).2 ▸ hvalid.livreAuteur_auteur link hold) }

theorem update_auteur {id : ℕ} {rewrite : Auteur → Auteur}
    (hrewrite : ∀ old, tables.auteur.find id = some old → (rewrite old).Fits) :
    Tables.Valid { tables with auteur := tables.auteur.modify id rewrite } :=
  { hvalid with
    auteur_fits := Table.forall_modify hvalid.auteur_fits hrewrite
    livreAuteur_auteur := by simpa using hvalid.livreAuteur_auteur }

theorem insert_categorie {row : Categorie} (hfits : row.Fits) :
    Tables.Valid { tables with categorie := tables.categorie.insert row } :=
  { hvalid with
    categorie_fits := Table.forall_insert hvalid.categorie_fits hfits
    livre_categorie := fun livre hlivre => by
      simp [hvalid.livre_categorie livre hlivre] }

theorem update_categorie {id : ℕ} {rewrite : Categorie → Categorie}
    (hrewrite : ∀ old, tables.categorie.find id = some old → (rewrite old).Fits) :
    Tables.Valid { tables with categorie := tables.categorie.modify id rewrite } :=
  { hvalid with
    categorie_fits := Table.forall_modify hvalid.categorie_fits hrewrite
    livre_categorie := by simpa using hvalid.livre_categorie }

theorem insert_emprunt {row : Emprunt} (hfits : row.Fits)
    (hemprunteur : row.emprunteur ∈ tables.utilisateur.ids)
    (hlivre : row.livre ∈ tables.livre.ids) :
    Tables.Valid { tables with emprunt := tables.emprunt.insert row } :=
  { hvalid with
    emprunt_fits := Table.forall_insert hvalid.emprunt_fits hfits
    emprunt_emprunteur :=
      Table.forall_insert hvalid.emprunt_emprunteur hemprunteur
    emprunt_livre := Table.forall_insert hvalid.emprunt_livre hlivre }

theorem update_emprunt {id : ℕ} {row : Emprunt} (hfits : row.Fits)
    (hemprunteur : row.emprunteur ∈ tables.utilisateur.ids)
    (hlivre : row.livre ∈ tables.livre.ids) :
    Tables.Valid { tables with emprunt := tables.emprunt.modify id fun _ => row } :=
  { hvalid with
    emprunt_fits := Table.forall_modify hvalid.emprunt_fits fun _ _ => hfits
    emprunt_emprunteur :=
      Table.forall_modify hvalid.emprunt_emprunteur fun _ _ => hemprunteur
    emprunt_livre := Table.forall_modify hvalid.emprunt_livre fun _ _ => hlivre }

/-- Two reservations share neither the book nor the user. -/
theorem reservations_distinct {left right : ℕ × Reservations}
    (hleft : left ∈ tables.reservations.rows) (hright : right ∈ tables.reservations.rows)
    (hne : left.1 ≠ right.1) :
    left.2.livre ≠ right.2.livre ∧ left.2.reservateur ≠ right.2.reservateur := by
  have hrow : left ≠ right := fun heq => hne (congrArg Prod.fst heq)
  constructor
  · intro heq
    exact hrow (List.inj_on_of_nodup_map hvalid.livre_unique hleft hright heq)
  · intro heq
    exact hrow (List.inj_on_of_nodup_map hvalid.reservateur_unique hleft hright heq)

theorem insert_reservations {row : Reservations} (hfits : row.Fits)
    (hlivre : row.livre ∈ tables.livre.ids)
    (hreservateur : row.reservateur ∈ tables.utilisateur.ids)
    (hfree : ∀ stored ∈ tables.reservations.rows,
      stored.2.livre ≠ row.livre ∧ stored.2.reservateur ≠ row.reservateur) :
    Tables.Valid { tables with
      reservations := tables.reservations.insert row } :=
  { hvalid with
    reservations_fits := Table.forall_insert hvalid.reservations_fits hfits
    reservations_livre := Table.forall_insert hvalid.reservations_livre hlivre
    reservations_reservateur :=
      Table.forall_insert hvalid.reservations_reservateur hreservateur
    livre_unique := Table.nodup_insert hvalid.livre_unique fun stored hstored =>
      (hfree stored hstored).1
    reservateur_unique := Table.nodup_insert hvalid.reservateur_unique
      fun stored hstored => (hfree stored hstored).2 }

theorem update_reservations {id : ℕ} {row : Reservations} (hfits : row.Fits)
    (hlivre : row.livre ∈ tables.livre.ids)
    (hreservateur : row.reservateur ∈ tables.utilisateur.ids)
    (hfree : ∀ stored ∈ tables.reservations.rows, stored.1 ≠ id →
      stored.2.livre ≠ row.livre ∧ stored.2.reservateur ≠ row.reservateur) :
    Tables.Valid { tables with
      reservations := tables.reservations.modify id fun _ => row } :=
  { hvalid with
    reservations_fits :=
      Table.forall_modify hvalid.reservations_fits fun _ _ => hfits
    reservations_livre :=
      Table.forall_modify hvalid.reservations_livre fun _ _ => hlivre
    reservations_reservateur :=
      Table.forall_modify hvalid.reservations_reservateur fun _ _ => hreservateur
    livre_unique := Table.nodup_modify hvalid.livre_unique
      fun _ _ stored hstored hother => (hfree stored hstored hother).1
    reservateur_unique := Table.nodup_modify hvalid.reservateur_unique
      fun _ _ stored hstored hother => (hfree stored hstored hother).2 }

theorem update_utilisateur {id : ℕ} {rewrite : Utilisateur → Utilisateur}
    (hrewrite : ∀ old, tables.utilisateur.find id = some old →
      (rewrite old).Fits ∧ ∀ stored ∈ tables.utilisateur.rows, stored.1 ≠ id →
        stored.2.email ≠ (rewrite old).email) :
    Tables.Valid { tables with
      utilisateur := tables.utilisateur.modify id rewrite } :=
  { hvalid with
    utilisateur_fits := Table.forall_modify hvalid.utilisateur_fits
      fun old hold => (hrewrite old hold).1
    emprunt_emprunteur := by simpa using hvalid.emprunt_emprunteur
    reservations_reservateur := by simpa using hvalid.reservations_reservateur
    email_unique := Table.nodup_modify hvalid.email_unique
      fun old hold => (hrewrite old hold).2 }

end Tables.Valid

end Bibliotheque
