import Bibliotheque.Api.Fonds
import Bibliotheque.Core.Run

/-!
# The database refines the library

Every request that is accepted makes its entry in the archive, and a refused one
makes none, though it may cost a number.  So the database after any run is what the
entries of the accepted requests make of the first one, and the properties of archives
hold of it: no number is used twice, a row only changes by the updates sent to it, and
a book keeps its authors as long as both exist.
-/

namespace Bibliotheque

open Program Bibliotheque.Action Relation

/-- The library that a database stores. -/
def Base.fonds (base : Base) : Fonds where
  file ressource := (ressource.table base.toTables).find
  issued ressource := {id | id < (ressource.table base.toTables).next}
  links := {link | link ∈ base.livreAuteur}
  issued_of_filed := by
    intro ressource id hfiled
    obtain ⟨row, hrow, rfl⟩ := List.mem_map.mp ((Table.find_isSome_iff _ id).mp hfiled)
    exact (ressource.table base.toTables).lt_next row hrow
  filed_of_link := fun link hlink =>
    ⟨(Table.find_isSome_iff _ _).mpr (base.valid.livreAuteur_livre link hlink),
      (Table.find_isSome_iff _ _).mpr (base.valid.livreAuteur_auteur link hlink)⟩

namespace Base

variable {base final : Base} {ressource : Ressource} {id : ℕ}

theorem file_fonds (base : Base) (ressource : Ressource) (id : ℕ) :
    base.fonds.file ressource id = (ressource.table base.toTables).find id := rfl

theorem mem_issued_fonds (base : Base) (ressource : Ressource) (id : ℕ) :
    id ∈ base.fonds.issued ressource ↔ id < (ressource.table base.toTables).next := Iff.rfl

theorem filed_iff (base : Base) (ressource : Ressource) (id : ℕ) :
    (base.fonds.file ressource id).isSome ↔ id ∈ (ressource.table base.toTables).ids :=
  Table.find_isSome_iff _ id

/-! ## Lost numbers -/

theorem rows_of_skipped (hskipped : base.Skipped final.toTables) (ressource : Ressource) :
    (ressource.table final.toTables).rows = (ressource.table base.toTables).rows := by
  cases ressource with
  | livre => exact hskipped.livre.1
  | categorie => exact hskipped.categorie.1
  | auteur => exact hskipped.auteur.1
  | emprunt => exact hskipped.emprunt.1
  | reservations => exact hskipped.reservations.1
  | adherent => exact hskipped.utilisateur.1

theorem next_le_of_skipped (hskipped : base.Skipped final.toTables) (ressource : Ressource) :
    (ressource.table base.toTables).next ≤ (ressource.table final.toTables).next := by
  cases ressource with
  | livre => exact hskipped.livre.2
  | categorie => exact hskipped.categorie.2
  | auteur => exact hskipped.auteur.2
  | emprunt => exact hskipped.emprunt.2
  | reservations => exact hskipped.reservations.2
  | adherent => exact hskipped.utilisateur.2

theorem lost_of_skipped (hskipped : base.Skipped final.toTables) :
    Archive.Lost base.fonds final.fonds where
  file := by
    funext ressource id
    simp only [file_fonds, Table.find, rows_of_skipped hskipped]
  links := congrArg (fun liens => {link | link ∈ liens}) hskipped.livreAuteur
  issued := fun ressource _ hissued =>
    lt_of_lt_of_le hissued (next_le_of_skipped hskipped ressource)

/-! ## The three shapes of a change -/

section Written

variable {table : Table ressource.Contenu} {liens : List (ℕ × ℕ)} {links : Set (ℕ × ℕ)}
variable (hfinal : final.toTables =
  { ressource.set base.toTables table with livreAuteur := liens })

include hfinal

theorem table_self_of_written : ressource.table final.toTables = table := by
  rw [hfinal, Ressource.table_livreAuteur, Ressource.table_set_self]

theorem table_other_of_written {other : Ressource} (hother : other ≠ ressource) :
    other.table final.toTables = other.table base.toTables := by
  rw [hfinal, Ressource.table_livreAuteur, Ressource.table_set_of_ne _ hother]

variable (hlinks : ∀ link, link ∈ liens ↔ link ∈ base.livreAuteur ∨ link ∈ links)

include hlinks

theorem mem_links_of_written (link : ℕ × ℕ) :
    link ∈ final.fonds.links ↔ (link ∈ base.fonds.links ∨ link ∈ links) ∧
      (final.fonds.file .livre link.1).isSome ∧ (final.fonds.file .auteur link.2).isSome := by
  have hmem : link ∈ final.fonds.links ↔ link ∈ base.fonds.links ∨ link ∈ links := by
    change link ∈ final.livreAuteur ↔ _
    rw [hfinal]
    exact hlinks link
  exact ⟨fun hlink => ⟨hmem.mp hlink, final.fonds.filed_of_link link hlink⟩,
    fun hboth => hmem.mpr hboth.1⟩

theorem filed_of_written (link : ℕ × ℕ) (hlink : link ∈ links) :
    (final.fonds.file .livre link.1).isSome ∧ (final.fonds.file .auteur link.2).isSome := by
  apply final.fonds.filed_of_link
  change link ∈ final.livreAuteur
  rw [hfinal]
  exact (hlinks link).mpr (Or.inr hlink)

end Written

/-- One new row, with links to or from it. -/
theorem step_add {contenu : ressource.Contenu} {liens : List (ℕ × ℕ)} {links : Set (ℕ × ℕ)}
    (hfinal : final.toTables =
      { ressource.set base.toTables ((ressource.table base.toTables).insert contenu) with
        livreAuteur := liens })
    (hlinks : ∀ link, link ∈ liens ↔ link ∈ base.livreAuteur ∨ link ∈ links) :
    Archive.Step base.fonds
      (.add ressource (ressource.table base.toTables).next contenu links) final.fonds where
  fresh := by
    rintro _ _ ⟨rfl, rfl⟩
    simp [mem_issued_fonds]
  file := by
    funext other number
    by_cases hsame : other = ressource
    · subst hsame
      simp only [Archive.Entry.apply, Function.update_self, file_fonds,
        table_self_of_written hfinal]
      by_cases hnumber : number = (other.table base.toTables).next
      · rw [hnumber, Function.update_self, Table.find_insert_next]
      · rw [Function.update_of_ne hnumber, Table.find_insert_of_ne _ _ hnumber]
        rfl
    · simp only [Archive.Entry.apply, Function.update_of_ne hsame, file_fonds,
        table_other_of_written hfinal hsame]
  issued := by
    intro other number
    simp only [mem_issued_fonds, Archive.Entry.Adds]
    by_cases hsame : other = ressource
    · subst hsame
      rw [table_self_of_written hfinal]
      change number < (other.table base.toTables).next + 1 ↔ _
      simp only [true_and]
      omega
    · rw [table_other_of_written hfinal hsame]
      simp [Ne.symm hsame]
  filed := filed_of_written hfinal hlinks
  links := mem_links_of_written hfinal hlinks

/-- One rewritten row, with new links. -/
theorem step_change {rewrite : ressource.Contenu → ressource.Contenu} {liens : List (ℕ × ℕ)}
    {links : Set (ℕ × ℕ)}
    (hfinal : final.toTables =
      { ressource.set base.toTables ((ressource.table base.toTables).modify id rewrite) with
        livreAuteur := liens })
    (hlinks : ∀ link, link ∈ liens ↔ link ∈ base.livreAuteur ∨ link ∈ links) :
    Archive.Step base.fonds (.change ressource id rewrite links) final.fonds where
  fresh := fun _ _ hadds => hadds.elim
  file := by
    funext other number
    by_cases hsame : other = ressource
    · subst hsame
      simp only [Archive.Entry.apply, Function.update_self, file_fonds,
        table_self_of_written hfinal]
      by_cases hnumber : number = id
      · rw [hnumber, Function.update_self, Table.find_modify_self]
      · rw [Function.update_of_ne hnumber, Table.find_modify_of_ne _ _ hnumber]
        rfl
    · simp only [Archive.Entry.apply, Function.update_of_ne hsame, file_fonds,
        table_other_of_written hfinal hsame]
  issued := by
    intro other number
    simp only [mem_issued_fonds, Archive.Entry.Adds, or_false]
    by_cases hsame : other = ressource
    · subst hsame
      rw [table_self_of_written hfinal, Table.next_modify]
    · rw [table_other_of_written hfinal hsame]
  filed := filed_of_written hfinal hlinks
  links := mem_links_of_written hfinal hlinks

/-- A write that asks for no link. -/
theorem mem_livreAuteur_or_false (base : Base) (link : ℕ × ℕ) :
    link ∈ base.livreAuteur ↔ link ∈ base.livreAuteur ∨ link ∈ (∅ : Set (ℕ × ℕ)) :=
  (or_false _).to_iff.symm

/-! ### Removals -/

theorem suit_of_mem_cascade {next : Ligne}
    (hnext : next ∈ base.cascade (ressource.ligne id)) :
    ∃ (other : Ressource) (number : ℕ), next = other.ligne number ∧
      base.fonds.Suit (ressource, id) (other, number) := by
  have hfind : ∀ {Row : Type} {table : Table Row} {row : ℕ × Row}, row ∈ table.rows →
      table.find row.1 = some row.2 := fun hrow => (Table.find_eq_some_iff _ _ _).mpr hrow
  cases ressource with
  | livre =>
      rcases (Tables.mem_cascade_livre base.valid id next).mp hnext with
        ⟨row, hrow, rfl, rfl⟩ | ⟨row, hrow, rfl, rfl⟩
      · exact ⟨.emprunt, row.1, rfl, .emprunt_livre (hfind hrow)⟩
      · exact ⟨.reservations, row.1, rfl, .reservation_livre (hfind hrow)⟩
  | categorie =>
      obtain ⟨row, hrow, rfl, rfl⟩ := (Tables.mem_cascade_categorie _ id next).mp hnext
      exact ⟨.livre, row.1, rfl, .livre_categorie (hfind hrow)⟩
  | adherent =>
      rcases (Tables.mem_cascade_utilisateur base.valid id next).mp hnext with
        ⟨row, hrow, rfl, rfl⟩ | ⟨row, hrow, rfl, rfl⟩
      · exact ⟨.emprunt, row.1, rfl, .emprunt_emprunteur (hfind hrow)⟩
      · exact ⟨.reservations, row.1, rfl, .reservation_reservateur (hfind hrow)⟩
  | reservations =>
      have htarget := (Tables.mem_cascade_reservations _ id next).mp hnext
      simp only [Tables.targets, List.mem_flatMap, Option.mem_toList, List.mem_cons,
        List.not_mem_nil, or_false] at htarget
      obtain ⟨reservation, hreservation, rfl | rfl⟩ := htarget
      · exact ⟨.livre, reservation.livre, rfl, .livre_reserve hreservation⟩
      · exact ⟨.adherent, reservation.reservateur, rfl, .reservateur hreservation⟩
  | auteur => cases hnext
  | emprunt => cases hnext

theorem mem_cascade_of_suit {source target : Ressource × ℕ}
    (hsuit : base.fonds.Suit source target) :
    target.1.ligne target.2 ∈ base.cascade (source.1.ligne source.2) := by
  have hrow : ∀ {Row : Type} {table : Table Row} {id : ℕ} {row : Row},
      table.find id = some row → (id, row) ∈ table.rows :=
    fun hfind => (Table.find_eq_some_iff _ _ _).mp hfind
  cases hsuit with
  | emprunt_livre hfind =>
      exact (Tables.mem_cascade_livre base.valid _ _).mpr
        (Or.inl ⟨_, hrow hfind, rfl, rfl⟩)
  | emprunt_emprunteur hfind =>
      exact (Tables.mem_cascade_utilisateur base.valid _ _).mpr
        (Or.inl ⟨_, hrow hfind, rfl, rfl⟩)
  | reservation_livre hfind =>
      exact (Tables.mem_cascade_livre base.valid _ _).mpr
        (Or.inr ⟨_, hrow hfind, rfl, rfl⟩)
  | reservation_reservateur hfind =>
      exact (Tables.mem_cascade_utilisateur base.valid _ _).mpr
        (Or.inr ⟨_, hrow hfind, rfl, rfl⟩)
  | livre_categorie hfind =>
      exact (Tables.mem_cascade_categorie _ _ _).mpr ⟨_, hrow hfind, rfl, rfl⟩
  | livre_reserve hfind =>
      refine (Tables.mem_cascade_reservations _ _ _).mpr ?_
      simp only [Tables.targets, List.mem_flatMap, Option.mem_toList, List.mem_cons,
        List.not_mem_nil, or_false]
      exact ⟨_, hfind, Or.inl rfl⟩
  | reservateur hfind =>
      refine (Tables.mem_cascade_reservations _ _ _).mpr ?_
      simp only [Tables.targets, List.mem_flatMap, Option.mem_toList, List.mem_cons,
        List.not_mem_nil, or_false]
      exact ⟨_, hfind, Or.inr rfl⟩

/-- The walk of `remove` reaches exactly the files that leave. -/
theorem mem_removed_iff {removed : List Ligne}
    (hremoved : base.doRemove (ressource.ligne id) = some removed) (other : Ressource)
    (number : ℕ) :
    other.ligne number ∈ removed ↔ number ∈ base.fonds.emporte ressource id other := by
  rw [Traversal.mem_visit_iff hremoved]
  constructor
  · intro hpath
    have hreached : ∀ {ligne}, ReflTransGen (Traversal.Edge base.cascade)
        (ressource.ligne id) ligne → ∃ (other : Ressource) (number : ℕ),
          ligne = other.ligne number ∧
            ReflTransGen base.fonds.Suit (ressource, id) (other, number) := by
      intro ligne hpath
      induction hpath with
      | refl => exact ⟨ressource, id, rfl, .refl⟩
      | tail _ hedge ih =>
          obtain ⟨middle, key, rfl, hpath⟩ := ih
          obtain ⟨next, number, rfl, hsuit⟩ := suit_of_mem_cascade hedge
          exact ⟨next, number, rfl, hpath.tail hsuit⟩
    obtain ⟨found, key, hligne, hpath⟩ := hreached hpath
    obtain ⟨rfl, rfl⟩ := Ressource.ligne_injective hligne
    exact hpath
  · intro hpath
    have hlift : ∀ {target : Ressource × ℕ},
        ReflTransGen base.fonds.Suit (ressource, id) target →
          ReflTransGen (Traversal.Edge base.cascade) (ressource.ligne id)
            (target.1.ligne target.2) := by
      intro target hpath
      induction hpath with
      | refl => exact .refl
      | tail _ hsuit ih => exact ih.tail (mem_cascade_of_suit hsuit)
    exact hlift hpath

theorem table_without (tables : Tables) (removed : List Ligne) (ressource : Ressource) :
    ressource.table (tables.without removed) =
      (ressource.table tables).restrict fun id => ressource.ligne id ∉ removed := by
  cases ressource <;> rfl

/-- The rows of a removal, and the links of its books and authors. -/
theorem step_without {removed : List Ligne} {gone : Ressource → Set ℕ}
    (hentities : ∀ ligne ∈ removed, ligne.isEntity = true)
    (hgone : ∀ other number, other.ligne number ∈ removed ↔ number ∈ gone other)
    (hfinal : final.toTables = base.without removed) :
    Archive.Step base.fonds (.remove gone) final.fonds where
  fresh := fun _ _ hadds => hadds.elim
  file := by
    funext other number
    simp only [Archive.Entry.apply, file_fonds, hfinal, table_without, Table.find_restrict,
      ← hgone, decide_not, Bool.not_eq_true', decide_eq_false_iff_not, ite_not]
  issued := by
    intro other number
    simp only [mem_issued_fonds, hfinal, table_without, Archive.Entry.Adds, or_false]
    exact Iff.rfl
  filed := fun _ hlink => hlink.elim
  links := by
    intro link
    have hkept : ∀ (other : Ressource) (number : ℕ),
        (final.fonds.file other number).isSome ↔
          number ∈ (other.table base.toTables).ids ∧ other.ligne number ∉ removed := by
      intro other number
      rw [filed_iff, hfinal, table_without, Table.mem_ids_restrict]
      simp
    have hlink : link ∈ final.fonds.links ↔ link ∈ base.livreAuteur ∧
        .livreAuteur link.1 link.2 ∉ removed ∧ .livre link.1 ∉ removed ∧
          .auteur link.2 ∉ removed := by
      change link ∈ final.livreAuteur ↔ _
      rw [hfinal]
      simp [Tables.without]
    rw [hlink, hkept, hkept]
    constructor
    · rintro ⟨hold, -, hlivre, hauteur⟩
      exact ⟨Or.inl hold, ⟨base.valid.livreAuteur_livre link hold, hlivre⟩,
        base.valid.livreAuteur_auteur link hold, hauteur⟩
    · rintro ⟨hold | hnew, ⟨-, hlivre⟩, -, hauteur⟩
      · exact ⟨hold, fun hremoved => Bool.noConfusion (hentities _ hremoved),
          hlivre, hauteur⟩
      · exact hnew.elim

theorem step_remove {removed : List Ligne}
    (hremoved : base.doRemove (ressource.ligne id) = some removed)
    (hfinal : final.toTables = base.without removed) :
    Archive.Step base.fonds (.remove (base.fonds.emporte ressource id)) final.fonds :=
  step_without
    (fun _ => Tables.isEntity_of_mem_removed hremoved (ressource.isEntity_ligne id))
    (mem_removed_iff hremoved) hfinal

end Base

/-! ## Every request -/

namespace Requete

variable {runtime : Runtime} {base : Base} {requete : Requete}

/-- The request makes its entry in the archive. -/
def Inscrit (runtime : Runtime) (base : Base) (requete : Requete) : Prop :=
  ∃ entry, requete.inscription runtime base.fonds (requete.executer runtime base).1.numero =
      some entry ∧
    Archive.Step base.fonds entry (requete.step runtime base).fonds

theorem inscrit_of_executer {outcome : Outcome} {final : Base} {entry : Inscription}
    (hexecuter : requete.executer runtime base = (outcome, final))
    (hentry : requete.inscription runtime base.fonds outcome.numero = some entry)
    (hstep : Archive.Step base.fonds entry final.fonds) : requete.Inscrit runtime base := by
  refine ⟨entry, ?_, ?_⟩
  · rw [hexecuter]
    exact hentry
  · rw [step, hexecuter]
    exact hstep

theorem inscrit_livreCreate {data : Value}
    (hsuccess : ((livreCreate data).executer runtime base).1.Success) :
    (livreCreate data).Inscrit runtime base := by
  obtain ⟨row, hrow, hvalid, hserve⟩ := LivreController.exists_created hsuccess
  refine inscrit_of_executer hserve (by rw [inscription, hrow.decrit_eq]; rfl) ?_
  refine Base.step_add rfl fun link => ?_
  simp only [List.mem_append, LivreController.mem_newLinks_creating,
    LivreController.mem_sent_auteurs_iff]
  rfl

theorem inscrit_livreUpdate {id : ℕ} {data : Value}
    (hsuccess : ((livreUpdate id data).executer runtime base).1.Success) :
    (livreUpdate id data).Inscrit runtime base := by
  obtain ⟨haccepted, hvalid, hserve⟩ := passed_of_success LivreController.refuses_update
    (fun _ => LivreController.completes_update_iff) hsuccess
  obtain ⟨old, hold⟩ := Table.exists_find_of_mem_ids haccepted.livre
  have hlivre : base.livre.modify id
      (Livre.store ∘ Livre.write old ((LivreController.sent runtime data).onRow old)) =
        base.livre.modify id (Ressource.livre.enregistre runtime data) := by
    refine Table.modify_congr fun row hrow => ?_
    rw [hold] at hrow
    cases hrow
    exact congrArg Livre.store (Livre.write_loaded old _)
  have hcommitted := @LivreController.committed_eq runtime id data base base old hold
  rw [hlivre] at hcommitted
  refine inscrit_of_executer hserve rfl ?_
  refine Base.step_change hcommitted fun link => ?_
  have hlinks := @LivreController.mem_livreAuteur_committed runtime base id data old hold link
  rw [hcommitted] at hlinks
  exact hlinks

theorem inscrit_auteurCreate {data : Value}
    (hsuccess : ((auteurCreate data).executer runtime base).1.Success) :
    (auteurCreate data).Inscrit runtime base := by
  obtain ⟨row, hrow, hvalid, hserve⟩ := passed_of_success AuteurController.refuses_create
    (fun _ => AuteurController.completes_create_iff) hsuccess
  refine inscrit_of_executer hserve (by rw [inscription, hrow.decrit_eq]; rfl) ?_
  refine Base.step_add rfl fun link => ?_
  have hfiled := base.filed_iff .livre link.1
  simp only [List.mem_append, AuteurController.mem_newLinks_creating,
    AuteurController.mem_livresOf_iff]
  exact or_congr Iff.rfl (and_congr Iff.rfl (and_congr hfiled.symm Iff.rfl))

theorem inscrit_auteurUpdate {id : ℕ} {data : Value}
    (hsuccess : ((auteurUpdate id data).executer runtime base).1.Success) :
    (auteurUpdate id data).Inscrit runtime base := by
  obtain ⟨haccepted, hvalid, hserve⟩ := passed_of_success AuteurController.refuses_update
    (fun _ => AuteurController.completes_update_iff) hsuccess
  exact inscrit_of_executer hserve rfl (Base.step_change rfl base.mem_livreAuteur_or_false)

theorem inscrit_categorieCreate {data : Value}
    (hsuccess : ((categorieCreate data).executer runtime base).1.Success) :
    (categorieCreate data).Inscrit runtime base := by
  obtain ⟨-, row, hrow, hvalid, hserve⟩ := passed_of_success
    CategorieController.refuses_create
    (fun _ => CategorieController.completes_create_iff) hsuccess
  refine inscrit_of_executer hserve (by rw [inscription, hrow]; rfl) ?_
  exact Base.step_add rfl base.mem_livreAuteur_or_false

theorem inscrit_categorieUpdate {id : ℕ} {data : Value}
    (hsuccess : ((categorieUpdate id data).executer runtime base).1.Success) :
    (categorieUpdate id data).Inscrit runtime base := by
  obtain ⟨-, -, -, hvalid, hserve⟩ := passed_of_success CategorieController.refuses_update
    (fun _ => CategorieController.completes_update_iff) hsuccess
  exact inscrit_of_executer hserve rfl (Base.step_change rfl base.mem_livreAuteur_or_false)

theorem inscrit_empruntCreate {data : Value}
    (hsuccess : ((empruntCreate data).executer runtime base).1.Success) :
    (empruntCreate data).Inscrit runtime base := by
  obtain ⟨row, hrow, hvalid, hserve⟩ := passed_of_success EmpruntController.refuses_create
    (fun _ => EmpruntController.completes_create_iff) hsuccess
  refine inscrit_of_executer hserve (by rw [inscription, hrow.decrit_eq]; rfl) ?_
  exact Base.step_add rfl base.mem_livreAuteur_or_false

theorem inscrit_empruntUpdate {id : ℤ} {data : Value}
    (hsuccess : ((empruntUpdate id data).executer runtime base).1.Success) :
    (empruntUpdate id data).Inscrit runtime base := by
  cases id with
  | ofNat id =>
      obtain ⟨-, row, hrow, hvalid, hserve⟩ := passed_of_success
        EmpruntController.refuses_update
        (fun _ => EmpruntController.completes_update_iff) hsuccess
      have hreecrit : Ressource.emprunt.enregistre runtime data = fun _ => row :=
        funext fun _ => congrArg (Option.getD · _) hrow.decrit_eq
      refine inscrit_of_executer hserve rfl (Base.step_change ?_ base.mem_livreAuteur_or_false)
      rw [hreecrit]
      rfl
  | negSucc id =>
      exact absurd (completes_of_success EmpruntController.refuses_update hsuccess)
        EmpruntController.not_completes_update_negative

theorem inscrit_reservationsCreate {data : Value}
    (hsuccess : ((reservationsCreate data).executer runtime base).1.Success) :
    (reservationsCreate data).Inscrit runtime base := by
  obtain ⟨row, hrow, hvalid, hserve⟩ := passed_of_success
    ReservationsController.refuses_create
    (fun _ => ReservationsController.completes_create_iff) hsuccess
  refine inscrit_of_executer hserve (by rw [inscription, hrow.decrit_eq]; rfl) ?_
  exact Base.step_add rfl base.mem_livreAuteur_or_false

theorem inscrit_reservationsUpdate {id : ℕ} {data : Value}
    (hsuccess : ((reservationsUpdate id data).executer runtime base).1.Success) :
    (reservationsUpdate id data).Inscrit runtime base := by
  obtain ⟨-, row, hrow, hvalid, hserve⟩ := passed_of_success
    ReservationsController.refuses_update
    (fun _ => ReservationsController.completes_update_iff) hsuccess
  have hreecrit : Ressource.reservations.enregistre runtime data = fun _ => row :=
    funext fun _ => congrArg (Option.getD · _) hrow.decrit_eq
  refine inscrit_of_executer hserve rfl (Base.step_change ?_ base.mem_livreAuteur_or_false)
  rw [hreecrit]
  rfl

theorem inscrit_adherentCreate {salt : ℕ} {data : Value}
    (hsuccess : ((adherentCreate salt data).executer runtime base).1.Success) :
    (adherentCreate salt data).Inscrit runtime base := by
  obtain ⟨-, row, hrow, hvalid, hserve⟩ := passed_of_success
    AdherentController.refuses_create
    (fun _ => AdherentController.completes_create_iff) hsuccess
  refine inscrit_of_executer hserve (by rw [inscription, hrow]; rfl) ?_
  exact Base.step_add rfl base.mem_livreAuteur_or_false

theorem inscrit_adherentUpdate {id : ℕ} {data : Value}
    (hsuccess : ((adherentUpdate id data).executer runtime base).1.Success) :
    (adherentUpdate id data).Inscrit runtime base := by
  obtain ⟨-, hvalid, hserve⟩ := passed_of_success AdherentController.refuses_update
    (fun _ => AdherentController.completes_update_iff) hsuccess
  exact inscrit_of_executer hserve rfl (Base.step_change rfl base.mem_livreAuteur_or_false)

theorem inscrit_delete {ressource : Ressource} {id : ℕ}
    (hsuccess : ((ressource.delete id).executer runtime base).1.Success) :
    (ressource.delete id).Inscrit runtime base := by
  have hligne : ressource.ligne id ∈ base.lignes := by
    by_contra habsent
    obtain ⟨body, hexecuter⟩ := executer_deletion_of_not_mem runtime base habsent
      (ressource.deletion_ligne id)
    rw [hexecuter] at hsuccess
    exact not_success_of_le (by decide) body hsuccess
  obtain ⟨removed, hremoved⟩ := Tables.exists_removed base.valid hligne
  have hvalid := Tables.valid_without_removed base.valid hremoved
  obtain ⟨body, hexecuter⟩ := executer_deletion runtime base hligne
    (ressource.deletion_ligne id) hremoved hvalid
  have hentry : ∀ numero, (ressource.delete id).inscription runtime base.fonds numero =
      some (.remove (base.fonds.emporte ressource id)) := by
    intro numero
    cases ressource <;> rfl
  exact inscrit_of_executer hexecuter (hentry _) (Base.step_remove hremoved rfl)

/-- A loan with a negative number in its path is never found. -/
theorem not_success_empruntDelete_negative {id : ℕ} :
    ¬ ((empruntDelete (.negSucc id)).executer runtime base).1.Success := by
  have hanswer : ((empruntDelete (.negSucc id)).executer runtime base).1 =
      .response ⟨404, .object [("error", .str "Emprunt not found")]⟩ := rfl
  rw [hanswer]
  exact not_success_of_le (by decide) _

/-- An accepted request makes its entry. -/
theorem inscrit_of_success (requete : Requete)
    (hsuccess : (requete.executer runtime base).1.Success) : requete.Inscrit runtime base := by
  cases requete with
  | livreCreate data => exact inscrit_livreCreate hsuccess
  | livreUpdate id data => exact inscrit_livreUpdate hsuccess
  | livreDelete id => exact @inscrit_delete runtime base .livre id hsuccess
  | auteurCreate data => exact inscrit_auteurCreate hsuccess
  | auteurUpdate id data => exact inscrit_auteurUpdate hsuccess
  | auteurDelete id => exact @inscrit_delete runtime base .auteur id hsuccess
  | categorieCreate data => exact inscrit_categorieCreate hsuccess
  | categorieUpdate id data => exact inscrit_categorieUpdate hsuccess
  | categorieDelete id => exact @inscrit_delete runtime base .categorie id hsuccess
  | empruntCreate data => exact inscrit_empruntCreate hsuccess
  | empruntUpdate id data => exact inscrit_empruntUpdate hsuccess
  | empruntDelete id =>
      cases id with
      | ofNat id => exact @inscrit_delete runtime base .emprunt id hsuccess
      | negSucc id => exact absurd hsuccess not_success_empruntDelete_negative
  | reservationsCreate data => exact inscrit_reservationsCreate hsuccess
  | reservationsUpdate id data => exact inscrit_reservationsUpdate hsuccess
  | reservationsDelete id => exact @inscrit_delete runtime base .reservations id hsuccess
  | adherentCreate salt data => exact inscrit_adherentCreate hsuccess
  | adherentUpdate id data => exact inscrit_adherentUpdate hsuccess
  | adherentDelete id => exact @inscrit_delete runtime base .adherent id hsuccess

/-! ## Runs -/

/-- The requests of a run that are accepted, each with the state it met. -/
def acceptees (runtime : Runtime) : Base → List Requete → List (Base × Requete) :=
  Run.trace (step runtime) fun base requete =>
    if (requete.executer runtime base).1.Success then [(base, requete)] else []

/-- The entries of the accepted requests. -/
def journal (runtime : Runtime) (base : Base) (requetes : List Requete) : List Inscription :=
  (acceptees runtime base requetes).filterMap fun accepted =>
    accepted.2.inscription runtime accepted.1.fonds
      (accepted.2.executer runtime accepted.1).1.numero

theorem lost_of_refused (hfailure : ¬ (requete.executer runtime base).1.Success) :
    Archive.Lost base.fonds (requete.step runtime base).fonds :=
  Base.lost_of_skipped (skipped_of_refused runtime base requete hfailure)

theorem next_le_step (ressource : Ressource) :
    (ressource.table base.toTables).next ≤
      (ressource.table (requete.step runtime base).toTables).next := by
  by_cases hsuccess : (requete.executer runtime base).1.Success
  · obtain ⟨entry, -, hstep⟩ := inscrit_of_success requete hsuccess
    by_contra hlt
    have hissued : (ressource.table (requete.step runtime base).toTables).next ∈
        base.fonds.issued ressource := Nat.lt_of_not_le hlt
    exact Nat.lt_irrefl _ (hstep.issued_mono hissued)
  · exact Base.next_le_of_skipped (skipped_of_refused runtime base requete hsuccess)
      ressource

theorem acceptees_cons (requete : Requete) (requetes : List Requete) :
    acceptees runtime base (requete :: requetes) =
      if (requete.executer runtime base).1.Success then
        (base, requete) :: acceptees runtime (requete.step runtime base) requetes
      else acceptees runtime (requete.step runtime base) requetes := by
  rw [acceptees, Run.trace_cons]
  split <;> rfl

theorem path_journal (runtime : Runtime) :
    ∀ (requetes : List Requete) (base : Base),
      Archive.Path base.fonds (journal runtime base requetes)
        (Run.run (step runtime) base requetes).fonds := by
  intro requetes
  induction requetes with
  | nil => exact fun base => .nil _
  | cons requete requetes ih =>
      intro base
      rw [Run.run_cons, journal, acceptees_cons]
      split
      · rename_i hsuccess
        obtain ⟨entry, hentry, hstep⟩ := inscrit_of_success requete hsuccess
        rw [List.filterMap_cons]
        simp only [hentry]
        exact .cons hstep (ih _)
      · rename_i hfailure
        exact .lose (lost_of_refused hfailure) (ih _)

theorem inscrit_of_mem_acceptees {requetes : List Requete} {accepted : Base × Requete}
    (haccepted : accepted ∈ acceptees runtime base requetes) :
    accepted.2.Inscrit runtime accepted.1 := by
  refine Run.forall_mem_trace (fun accepted => accepted.2.Inscrit runtime accepted.1)
    (fun state requete event hevent => ?_) requetes base accepted haccepted
  split at hevent
  · rename_i hsuccess
    rw [List.mem_singleton.mp hevent]
    exact inscrit_of_success requete hsuccess
  · exact absurd hevent List.not_mem_nil

/-- Paired lists agree on what some element satisfies. -/
theorem exists_mem_iff_of_forall₂ {Left Right : Type*} {paired : Left → Right → Prop}
    {left : List Left} {right : List Right} {property : Left → Prop} {other : Right → Prop}
    (hall : List.Forall₂ paired left right)
    (hiff : ∀ a b, paired a b → (other b ↔ property a)) :
    (∃ b ∈ right, other b) ↔ ∃ a ∈ left, property a := by
  induction hall with
  | nil => simp
  | cons hpaired _ ih => simp only [List.mem_cons, exists_eq_or_imp, hiff _ _ hpaired, ih]

theorem exists_mem_of_forall₂ {Left Right : Type*} {paired : Left → Right → Prop}
    {left : List Left} {right : List Right} {a : Left} (hall : List.Forall₂ paired left right)
    (hmember : a ∈ left) : ∃ b ∈ right, paired a b := by
  induction hall with
  | nil => exact absurd hmember List.not_mem_nil
  | cons hpaired _ ih =>
      rcases List.mem_cons.mp hmember with rfl | hmember
      · exact ⟨_, List.mem_cons_self, hpaired⟩
      · obtain ⟨b, hb, hpaired⟩ := ih hmember
        exact ⟨b, List.mem_cons_of_mem _ hb, hpaired⟩

/-- The accepted requests and their entries. -/
theorem forall₂_journal (runtime : Runtime) (base : Base) (requetes : List Requete) :
    List.Forall₂ (fun accepted entry =>
        accepted.2.inscription runtime accepted.1.fonds
          (accepted.2.executer runtime accepted.1).1.numero = some entry)
      (acceptees runtime base requetes) (journal runtime base requetes) := by
  have hall : ∀ accepted ∈ acceptees runtime base requetes,
      accepted.2.Inscrit runtime accepted.1 := fun _ haccepted =>
    inscrit_of_mem_acceptees haccepted
  rw [journal]
  generalize acceptees runtime base requetes = accepted at hall
  induction accepted with
  | nil => exact .nil
  | cons accepted rest ih =>
      obtain ⟨entry, hentry, -⟩ := hall accepted List.mem_cons_self
      rw [List.filterMap_cons]
      simp only [hentry]
      exact .cons hentry (ih fun other hother => hall other (List.mem_cons_of_mem _ hother))

/-- The database after any run is what the entries of its accepted requests, one
for each, make of the first library. -/
theorem run_refines (runtime : Runtime) (base : Base) (requetes : List Requete) :
    Archive.Path base.fonds (journal runtime base requetes)
        (Run.run (step runtime) base requetes).fonds ∧
      List.Forall₂ (fun accepted entry =>
          accepted.2.inscription runtime accepted.1.fonds
            (accepted.2.executer runtime accepted.1).1.numero = some entry)
        (acceptees runtime base requetes) (journal runtime base requetes) :=
  ⟨path_journal runtime requetes base, forall₂_journal runtime base requetes⟩

/-! ### Numbers -/

/-- The resource of a creation. -/
def cree : Requete → Option Ressource
  | livreCreate _ => some .livre
  | auteurCreate _ => some .auteur
  | categorieCreate _ => some .categorie
  | empruntCreate _ => some .emprunt
  | reservationsCreate _ => some .reservations
  | adherentCreate _ _ => some .adherent
  | _ => none

/-- The numbers that the accepted creations of a resource answered. -/
def numeros (runtime : Runtime) (base : Base) (requetes : List Requete)
    (ressource : Ressource) : List ℕ :=
  ((acceptees runtime base requetes).filter fun accepted =>
    accepted.2.cree = some ressource).map fun accepted =>
      (accepted.2.executer runtime accepted.1).1.numero

/-- The row and the body of an update. -/
def modifie : Requete → Option (Ressource × ℕ × Value)
  | livreUpdate id data => some (.livre, id, data)
  | auteurUpdate id data => some (.auteur, id, data)
  | categorieUpdate id data => some (.categorie, id, data)
  | empruntUpdate (.ofNat id) data => some (.emprunt, id, data)
  | reservationsUpdate id data => some (.reservations, id, data)
  | adherentUpdate id data => some (.adherent, id, data)
  | _ => none

/-- The row of a deletion. -/
def supprime : Requete → Option (Ressource × ℕ)
  | livreDelete id => some (.livre, id)
  | auteurDelete id => some (.auteur, id)
  | categorieDelete id => some (.categorie, id)
  | empruntDelete (.ofNat id) => some (.emprunt, id)
  | reservationsDelete id => some (.reservations, id)
  | adherentDelete id => some (.adherent, id)
  | _ => none

/-- The three kinds of entries. -/
theorem inscription_cases {fonds : Fonds} {numero : ℕ} {entry : Inscription}
    (hentry : requete.inscription runtime fonds numero = some entry) :
    (∃ ressource contenu links, entry = .add ressource numero contenu links ∧
        requete.cree = some ressource ∧ requete.modifie = none ∧ requete.supprime = none) ∨
      (∃ ressource id data links,
        entry = .change ressource id (ressource.enregistre runtime data) links ∧
          requete.cree = none ∧ requete.modifie = some (ressource, id, data) ∧
            requete.supprime = none) ∨
      ∃ ressource id, entry = .remove (fonds.emporte ressource id) ∧
        requete.cree = none ∧ requete.modifie = none ∧
          requete.supprime = some (ressource, id) := by
  cases requete
  case livreCreate | auteurCreate | categorieCreate | empruntCreate | reservationsCreate |
      adherentCreate =>
    obtain ⟨contenu, -, hadd⟩ := Option.bind_eq_some_iff.mp hentry
    cases hadd
    exact Or.inl ⟨_, _, _, rfl, rfl, rfl, rfl⟩
  case livreUpdate | auteurUpdate | categorieUpdate | reservationsUpdate | adherentUpdate =>
    cases hentry
    exact Or.inr (Or.inl ⟨_, _, _, _, rfl, rfl, rfl, rfl⟩)
  case empruntUpdate id data =>
    cases id with
    | ofNat id =>
        cases hentry
        exact Or.inr (Or.inl ⟨.emprunt, id, data, _, rfl, rfl, rfl, rfl⟩)
    | negSucc id => cases hentry
  case livreDelete | auteurDelete | categorieDelete | reservationsDelete | adherentDelete =>
    cases hentry
    exact Or.inr (Or.inr ⟨_, _, rfl, rfl, rfl, rfl⟩)
  case empruntDelete id =>
    cases id with
    | ofNat id =>
        cases hentry
        exact Or.inr (Or.inr ⟨.emprunt, id, rfl, rfl, rfl, rfl⟩)
    | negSucc id => cases hentry

/-- The entry of a creation files its row under the number of the answer. -/
theorem adds_inscription_iff {fonds : Fonds} {numero : ℕ} {entry : Inscription}
    (hentry : requete.inscription runtime fonds numero = some entry) (ressource : Ressource)
    (number : ℕ) :
    entry.Adds ressource number ↔ requete.cree = some ressource ∧ number = numero := by
  obtain ⟨added, contenu, links, rfl, hcree, -, -⟩ |
    ⟨changed, id, data, links, rfl, hcree, -, -⟩ | ⟨removed, id, rfl, hcree, -, -⟩ :=
    inscription_cases hentry
  · simp [Archive.Entry.Adds, hcree, eq_comm]
  · simp [Archive.Entry.Adds, hcree]
  · simp [Archive.Entry.Adds, hcree]

theorem numeros_cons (requete : Requete) (requetes : List Requete) (ressource : Ressource) :
    numeros runtime base (requete :: requetes) ressource =
      if (requete.executer runtime base).1.Success ∧ requete.cree = some ressource then
        (requete.executer runtime base).1.numero ::
          numeros runtime (requete.step runtime base) requetes ressource
      else numeros runtime (requete.step runtime base) requetes ressource := by
  by_cases hsuccess : (requete.executer runtime base).1.Success
  · by_cases hcree : requete.cree = some ressource
    · simp [numeros, acceptees, hsuccess, hcree]
    · simp [numeros, acceptees, hsuccess, hcree]
  · simp [numeros, acceptees, hsuccess]

/-- The numbers of the creations of a resource increase strictly over any run, and
begin above every number the table ever gave out. -/
theorem numeros_increasing (runtime : Runtime) (ressource : Ressource) :
    ∀ (requetes : List Requete) (base : Base),
      (numeros runtime base requetes ressource).Pairwise (· < ·) ∧
        ∀ numero ∈ numeros runtime base requetes ressource,
          (ressource.table base.toTables).next ≤ numero := by
  intro requetes
  induction requetes with
  | nil => exact fun base => ⟨List.Pairwise.nil, fun _ hnumero => absurd hnumero
      List.not_mem_nil⟩
  | cons requete requetes ih =>
      intro base
      obtain ⟨hpairwise, habove⟩ := ih (requete.step runtime base)
      rw [numeros_cons]
      split
      · rename_i hcreation
        obtain ⟨entry, hentry, hstep⟩ := inscrit_of_success requete hcreation.1
        have hadds : entry.Adds ressource (requete.executer runtime base).1.numero :=
          (adds_inscription_iff hentry _ _).mpr ⟨hcreation.2, rfl⟩
        have hfresh := hstep.fresh _ _ hadds
        have hissued := (hstep.issued ressource _).mpr (Or.inr hadds)
        rw [Base.mem_issued_fonds] at hfresh hissued
        refine ⟨List.Pairwise.cons (fun later hlater => hissued.trans_le (habove _ hlater))
          hpairwise, fun number hnumber => ?_⟩
        rcases List.mem_cons.mp hnumber with rfl | hnumber
        · exact Nat.le_of_not_lt hfresh
        · exact (Nat.le_of_not_lt hfresh).trans
            (hissued.le.trans (habove _ hnumber))
      · exact ⟨hpairwise, fun number hnumber => (next_le_step ressource).trans
          (habove _ hnumber)⟩

/-! ### Rows -/

/-- The request removes the row, directly or through a cascade. -/
def Emporte (fonds : Fonds) (requete : Requete) (ressource : Ressource) (id : ℕ) : Prop :=
  ∃ source number, requete.supprime = some (source, number) ∧
    id ∈ fonds.emporte source number ressource

/-- What the request makes of a row. -/
def reecrit (runtime : Runtime) (requete : Requete) (ressource : Ressource) (id : ℕ)
    (contenu : ressource.Contenu) : ressource.Contenu :=
  match requete.modifie with
  | some (source, number, data) =>
      if source = ressource ∧ number = id then ressource.enregistre runtime data contenu
      else contenu
  | none => contenu

theorem removes_inscription_iff {fonds : Fonds} {numero : ℕ} {entry : Inscription}
    (hentry : requete.inscription runtime fonds numero = some entry) (ressource : Ressource)
    (id : ℕ) : entry.Removes ressource id ↔ requete.Emporte fonds ressource id := by
  obtain ⟨added, contenu, links, rfl, -, -, hnone⟩ |
    ⟨changed, number, data, links, rfl, -, -, hnone⟩ |
    ⟨source, number, rfl, -, -, hsupprime⟩ := inscription_cases hentry
  · simp [Archive.Entry.Removes, Emporte, hnone]
  · simp [Archive.Entry.Removes, Emporte, hnone]
  · constructor
    · exact fun hgone => ⟨source, number, hsupprime, hgone⟩
    · rintro ⟨other, key, hother, hgone⟩
      cases hsupprime.symm.trans hother
      exact hgone

theorem rewriting_inscription {fonds : Fonds} {numero : ℕ} {entry : Inscription}
    (hentry : requete.inscription runtime fonds numero = some entry) (ressource : Ressource)
    (id : ℕ) : entry.rewriting ressource id = requete.reecrit runtime ressource id := by
  funext found
  obtain ⟨added, contenu, links, rfl, -, hnone, -⟩ |
    ⟨changed, number, data, links, rfl, -, hmodifie, -⟩ |
    ⟨source, number, rfl, -, hnone, -⟩ := inscription_cases hentry
  · simp only [Archive.Entry.rewriting, reecrit, hnone]
  · simp only [Archive.Entry.rewriting, reecrit, hmodifie]
    by_cases hressource : changed = ressource
    · subst hressource
      by_cases hnumber : number = id
      · subst hnumber
        simp
      · simp [hnumber, Ne.symm hnumber]
    · rw [Function.update_of_ne (Ne.symm hressource), if_neg fun hboth => hressource hboth.1]
  · simp only [Archive.Entry.rewriting, reecrit, hnone]

open Classical in
/-- What became of a row over any run: it is gone if an accepted request removed
it, itself or through a cascade; else it holds what the accepted updates of its
number, and nothing else, made of it one after the other. -/
theorem find_run (runtime : Runtime) (base : Base) (requetes : List Requete)
    (ressource : Ressource) (id : ℕ) (hid : id < (ressource.table base.toTables).next) :
    (ressource.table (Run.run (step runtime) base
        requetes).toTables).find id =
      if ∃ accepted ∈ acceptees runtime base requetes,
        accepted.2.Emporte accepted.1.fonds ressource id then none
      else ((ressource.table base.toTables).find id).map fun contenu =>
        (acceptees runtime base requetes).foldl
          (fun found accepted => accepted.2.reecrit runtime ressource id found) contenu := by
  have hissued : id ∈ base.fonds.issued ressource := hid
  have hfile := (path_journal runtime requetes base).file_of_issued hissued
  have hjournal := forall₂_journal runtime base requetes
  have hremoves : (∃ entry ∈ journal runtime base requetes, entry.Removes ressource id) ↔
      ∃ accepted ∈ acceptees runtime base requetes,
        accepted.2.Emporte accepted.1.fonds ressource id :=
    exists_mem_iff_of_forall₂ hjournal fun _ _ hentry =>
      removes_inscription_iff hentry ressource id
  have hfold : ∀ contenu, (journal runtime base requetes).foldl
      (fun found entry => entry.rewriting ressource id found) contenu =
        (acceptees runtime base requetes).foldl
          (fun found accepted => accepted.2.reecrit runtime ressource id found) contenu := by
    intro contenu
    refine (List.rel_foldl (P := Eq) ?_ rfl hjournal).symm
    rintro found _ rfl accepted entry hentry
    exact (congrFun (rewriting_inscription hentry ressource id) found).symm
  simp only [hremoves, hfold] at hfile
  exact hfile

/-- The language of the sample book is changed, then its reservation deleted. -/
def sampleRun : List Requete :=
  [livreUpdate 1 (.object [("langue", .str "FR")]), reservationsDelete 1]

open Classical in
theorem find_run_sample :
    1 < (Ressource.livre.table Base.sample.toTables).next ∧
      (Ressource.livre.table (Run.run (step .dev)
          Base.sample sampleRun).toTables).find 1 =
        if ∃ accepted ∈ acceptees .dev Base.sample sampleRun,
          accepted.2.Emporte accepted.1.fonds .livre 1 then none
        else (Base.sample.livre.find 1).map fun contenu =>
          (acceptees .dev Base.sample sampleRun).foldl
            (fun found accepted => accepted.2.reecrit .dev .livre 1 found) contenu :=
  ⟨by decide, find_run .dev Base.sample sampleRun .livre 1 (by decide)⟩

/-! ### Links -/

/-- The accepted request asks for the link. -/
def Demande (runtime : Runtime) (base : Base) (requete : Requete) (link : ℕ × ℕ) : Prop :=
  ∃ entry, requete.inscription runtime base.fonds
    (requete.executer runtime base).1.numero = some entry ∧ link ∈ entry.links

/-- After any run a book and an author are linked exactly if both are still there
and they were linked before or an accepted request asked for it. -/
theorem mem_livreAuteur_run_iff (runtime : Runtime) (base : Base) (requetes : List Requete)
    (link : ℕ × ℕ) :
    link ∈ (Run.run (step runtime) base
        requetes).livreAuteur ↔
      (link ∈ base.livreAuteur ∨ ∃ accepted ∈ acceptees runtime base requetes,
          accepted.2.Demande runtime accepted.1 link) ∧
        link.1 ∈ (Run.run (step runtime) base
          requetes).livre.ids ∧
        link.2 ∈ (Run.run (step runtime) base
          requetes).auteur.ids := by
  have hlinks := (path_journal runtime requetes base).mem_links_iff link
  have hjournal := forall₂_journal runtime base requetes
  have hasked : (∃ entry ∈ journal runtime base requetes, link ∈ entry.links) ↔
      ∃ accepted ∈ acceptees runtime base requetes,
        accepted.2.Demande runtime accepted.1 link :=
    exists_mem_iff_of_forall₂ hjournal fun _ _ hentry => by
      simp only [Demande, hentry, Option.some.injEq, exists_eq_left']
  rw [hasked, Base.filed_iff, Base.filed_iff] at hlinks
  exact hlinks

end Requete

end Bibliotheque
