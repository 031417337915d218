import Bibliotheque.Api.Deletion
import Bibliotheque.Core.Run

/-!
# What every book must have

`POST /api/livre` refuses a book without a title, a language, a category or an
author.  This module follows these requirements through every sequence of
requests on books, authors and categories.
-/

namespace Bibliotheque

open Program Bibliotheque.Action

/-- A title and a language that are not empty. -/
def Livre.Nomme (livre : Livre) : Prop := livre.titre ≠ "" ∧ livre.langue ≠ ""

/-- The requirements of `POST /api/livre`, of a stored book. -/
def Tables.Complet (tables : Tables) (row : ℕ × Livre) : Prop :=
  row.2.titre ≠ "" ∧ row.2.langue ≠ "" ∧
    row.2.categorie ∈ tables.categorie.ids ∧
    ∃ auteur ∈ tables.auteur.ids, (row.1, auteur) ∈ tables.livreAuteur

def Tables.Complets (tables : Tables) : Prop :=
  ∀ row ∈ tables.livre.rows, tables.Complet row

instance (tables : Tables) (row : ℕ × Livre) : Decidable (tables.Complet row) :=
  inferInstanceAs (Decidable (_ ∧ _))

instance (tables : Tables) : Decidable tables.Complets :=
  inferInstanceAs (Decidable (∀ row ∈ tables.livre.rows, _))

theorem Livre.Nomme.store {livre : Livre} (hnomme : livre.Nomme) : livre.store.Nomme :=
  ⟨Varchar.store_ne_empty (by decide) hnomme.1, Varchar.store_ne_empty (by decide) hnomme.2⟩

/-- Whether the books are complete does not depend on the counters. -/
theorem Tables.Skipped.complets {before after : Tables} (hskipped : before.Skipped after)
    (hcomplets : before.Complets) : after.Complets := by
  obtain ⟨-, hauteurs, hcategories, -⟩ := hskipped.ids_eq
  intro row hrow
  rw [hskipped.livre.1] at hrow
  rw [Complet, hauteurs, hcategories, hskipped.livreAuteur]
  exact hcomplets row hrow

/-- The foreign keys give the category and the existence of the author. -/
theorem Tables.Valid.complet {tables : Tables} (hvalid : tables.Valid)
    {row : ℕ × Livre} (hrow : row ∈ tables.livre.rows) (hnomme : row.2.Nomme)
    {auteur : ℕ} (hlink : (row.1, auteur) ∈ tables.livreAuteur) :
    tables.Complet row :=
  ⟨hnomme.1, hnomme.2, hvalid.livre_categorie row hrow, auteur,
    hvalid.livreAuteur_auteur _ hlink, hlink⟩

namespace Requete

/-- The requests on books, authors and categories. -/
def OnCatalogue : Requete → Prop
  | livreCreate _ | livreUpdate _ _ | livreDelete _ => True
  | auteurCreate _ | auteurUpdate _ _ | auteurDelete _ => True
  | categorieCreate _ | categorieUpdate _ _ | categorieDelete _ => True
  | _ => False

/-- The requests that respect the requirements: the list of authors of a new
book is an array (or the warning about it is fatal), a PUT does not blank the
title or the language of a book, and no book loses its only author. -/
def Respecte (runtime : Runtime) (base : Base) : Requete → Prop
  | livreCreate data => ∀ auteurIds, data.field "auteurIds" = some auteurIds →
      auteurIds.truthy → auteurIds.elements.isSome ∨ runtime.debug = true
  | livreUpdate id data => id ∈ base.livre.ids →
      (∀ titre, data.field "titre" = some titre → titre.toString ≠ .ok "") ∧
        ∀ langue, data.field "langue" = some langue → langue.toString ≠ .ok ""
  | auteurDelete id => ∀ livre, (livre, id) ∈ base.livreAuteur →
      ∃ auteur, auteur ≠ id ∧ (livre, auteur) ∈ base.livreAuteur
  | _ => True

end Requete

/-! ## The session of a request -/

structure Session.Livres (session : Session) : Prop where
  base : session.base.Complets
  managed : ∀ row ∈ session.managed.livre.rows, row.2.Nomme
  persisted : ∀ draft, session.persisted = some (.livre draft) →
    (∀ livre, draft.row = some livre → livre.Nomme) ∧
      ∃ auteur, auteur ∈ session.liens.auteurs .fresh
  removed : session.removed = []

/-- The books after an insertion: the old ones, and the inserted one. -/
theorem Entity.livre_insert {entity : Entity} {tables inserted : Tables}
    {fresh : ℕ} (hinsert : entity.insert tables = some (inserted, fresh))
    {row : ℕ × Livre} (hrow : row ∈ inserted.livre.rows) :
    row ∈ tables.livre.rows ∨
      ∃ draft, entity = .livre draft ∧ draft.row = some row.2 ∧ row.1 = fresh := by
  cases entity with
  | livre draft =>
      obtain ⟨new, hnew, heq⟩ := Option.map_eq_some_iff.mp hinsert
      cases heq
      rcases List.mem_append.mp hrow with hold | hnewRow
      · exact Or.inl hold
      · rw [List.mem_singleton.mp hnewRow]
        exact Or.inr ⟨draft, rfl, hnew, rfl⟩
  | _ =>
      obtain ⟨new, -, heq⟩ := Option.map_eq_some_iff.mp hinsert
      cases heq
      exact Or.inl hrow

/-- An insertion touches no author link. -/
theorem Entity.livreAuteur_insert {entity : Entity} {tables inserted : Tables}
    {fresh : ℕ} (hinsert : entity.insert tables = some (inserted, fresh)) :
    inserted.livreAuteur = tables.livreAuteur := by
  cases entity <;>
    (obtain ⟨new, -, heq⟩ := Option.map_eq_some_iff.mp hinsert
     cases heq
     rfl)

namespace Session

theorem livres_start (base : Base) (insertId : ℕ) (hbase : base.Complets) :
    Livres { start base with insertId := insertId } :=
  ⟨hbase, fun row hrow => ⟨(hbase row hrow).1, (hbase row hrow).2.1⟩,
    by simp [start], rfl⟩

theorem nomme_write {loaded managed stored : Livre} (hmanaged : managed.Nomme)
    (hstored : stored.Nomme) : (Livre.write loaded managed stored).Nomme := by
  constructor
  · simp only [Livre.write, column]
    split
    · exact hstored.1
    · exact hmanaged.1
  · simp only [Livre.write, column]
    split
    · exact hstored.2
    · exact hmanaged.2

/-- The authors of the new book are among the new links. -/
theorem mem_newLinks_fresh {session : Session} {auteur : Ref}
    (hauteur : auteur ∈ session.liens.auteurs .fresh) (fresh : ℕ) :
    (fresh, auteur.number fresh) ∈ session.newLinks fresh := by
  refine List.mem_flatMap.mpr ⟨.fresh, by simp, ?_⟩
  refine List.mem_map.mpr ⟨auteur, ?_, rfl⟩
  simp [hauteur, Tables.liens]

theorem maintains_flush_livres : Maintains Session.Livres Action.flush := by
  intro session hsession
  rw [wp_flush]
  cases hcommit : session.commit with
  | error throwable => exact hsession
  | ok result =>
      obtain ⟨tables, fresh⟩ := result
      dsimp only
      split
      case isFalse hinvalid =>
        exact ⟨session.skipped_rolledBack.complets hsession.base, hsession.managed,
          hsession.persisted, hsession.removed⟩
      case isTrue hvalid =>
        obtain ⟨inserted, hcases, rfl⟩ := commit_cases hsession.removed hcommit
        refine livres_start ⟨_, hvalid⟩ fresh ?_
        have hwritten : ∀ row ∈ (Tables.write session.loaded session.managed
            session.base.toTables).livre.rows, row.2.Nomme :=
          Table.forall_write Livre.Nomme (fun _ _ _ => nomme_write)
            hsession.managed fun row hrow =>
              ⟨(hsession.base row hrow).1, (hsession.base row hrow).2.1⟩
        have hlinks : inserted.livreAuteur = session.base.livreAuteur := by
          rcases hcases with ⟨-, rfl⟩ | ⟨entity, -, hinsert⟩
          · rfl
          · rw [Entity.livreAuteur_insert hinsert]
            rfl
        -- a book that was there keeps the links it had
        have hold : ∀ row ∈ (Tables.write session.loaded session.managed
            session.base.toTables).livre.rows,
            ∃ auteur, (row.1, auteur) ∈ inserted.livreAuteur := by
          intro row hrow
          obtain ⟨stored, hstored, rfl⟩ := List.mem_map.mp hrow
          obtain ⟨-, -, -, auteur, -, hlink⟩ := hsession.base stored hstored
          exact ⟨auteur, hlinks ▸ hlink⟩
        have hbooks : ∀ row ∈ inserted.livre.rows, row.2.Nomme ∧
            ∃ auteur, (row.1, auteur) ∈ inserted.livreAuteur ++ session.newLinks fresh := by
          have hkept : ∀ row ∈ (Tables.write session.loaded session.managed
              session.base.toTables).livre.rows, row.2.Nomme ∧
              ∃ auteur, (row.1, auteur) ∈ inserted.livreAuteur ++ session.newLinks fresh := by
            intro row hstored
            obtain ⟨auteur, hlink⟩ := hold row hstored
            exact ⟨hwritten row hstored, auteur, List.mem_append_left _ hlink⟩
          intro row hrow
          rcases hcases with ⟨-, rfl⟩ | ⟨entity, hpersisted, hinsert⟩
          · exact hkept row hrow
          · rcases Entity.livre_insert hinsert hrow with hstored | hnew
            · exact hkept row hstored
            · obtain ⟨draft, rfl, hdraft, hfresh⟩ := hnew
              obtain ⟨hnomme, auteur, hauteur⟩ := hsession.persisted draft hpersisted
              refine ⟨hnomme row.2 hdraft, auteur.number fresh,
                List.mem_append_right _ ?_⟩
              rw [hfresh]
              exact mem_newLinks_fresh hauteur fresh
        intro row hrow
        obtain ⟨written, hwritten, rfl⟩ := Table.mem_rows_map.mp hrow
        obtain ⟨hnomme, auteur, hlink⟩ := hbooks written hwritten
        exact hvalid.complet hrow hnomme.store hlink

/-- A setter of a book that blanks neither of the two. -/
theorem maintains_setLivre {id : ℕ} {rewrite : Livre → Livre}
    (hrewrite : ∀ livre, livre.Nomme → (rewrite livre).Nomme) :
    Maintains Session.Livres (setLivre id rewrite) := by
  refine maintains_modify ?_
  intro session hsession
  refine ⟨hsession.base, ?_, hsession.persisted, hsession.removed⟩
  intro row hrow
  obtain ⟨old, hold, rfl⟩ := List.mem_map.mp hrow
  dsimp only
  split
  · exact hrewrite _ (hsession.managed old hold)
  · exact hsession.managed old hold

theorem maintains_setAuteur_livres (id : ℕ) (rewrite : Auteur → Auteur) :
    Maintains Session.Livres (setAuteur id rewrite) :=
  maintains_modify fun _ hsession =>
    ⟨hsession.base, hsession.managed, hsession.persisted, hsession.removed⟩

theorem maintains_setCategorie_livres (id : ℕ) (rewrite : Categorie → Categorie) :
    Maintains Session.Livres (setCategorie id rewrite) :=
  maintains_modify fun _ hsession =>
    ⟨hsession.base, hsession.managed, hsession.persisted, hsession.removed⟩

theorem maintains_addAuteur_livres (livre auteur : Ref) :
    Maintains Session.Livres (addAuteur livre auteur) := by
  refine maintains_modify ?_
  intro session hsession
  refine ⟨hsession.base, hsession.managed, ?_, hsession.removed⟩
  intro draft hdraft
  obtain ⟨hnomme, member, hmember⟩ := hsession.persisted draft hdraft
  exact ⟨hnomme, member,
    (Liens.mem_auteurs_addAuteur _ _ _ _ _).mpr (Or.inl hmember)⟩

theorem maintains_addLivre_livres (auteur livre : Ref) :
    Maintains Session.Livres (addLivre auteur livre) := by
  refine maintains_modify ?_
  intro session hsession
  refine ⟨hsession.base, hsession.managed, ?_, hsession.removed⟩
  intro draft hdraft
  obtain ⟨hnomme, member, hmember⟩ := hsession.persisted draft hdraft
  exact ⟨hnomme, member, Liens.mem_auteurs_addLivre hmember⟩

/-- Persisting anything but a book. -/
theorem maintains_persist_livres {entity : Entity}
    (hentity : ∀ draft, entity ≠ .livre draft) :
    Maintains Session.Livres (persist entity) := by
  refine maintains_modify ?_
  intro session hsession
  refine ⟨hsession.base, hsession.managed, ?_, hsession.removed⟩
  intro draft hdraft
  exact absurd (Option.some.inj hdraft) (hentity draft)

end Session

/-! ## Creating a book -/

section Create

variable (runtime : Runtime)

theorem maintains_linkAuteur (livre : Ref) {missing : Action Unit}
    (hmissing : Maintains Session.Livres missing) (auteurId : Value) :
    Maintains Session.Livres
      (LivreController.linkAuteur runtime livre missing auteurId) := by
  refine (maintains_find runtime Tables.auteur auteurId).bind ?_
  intro auteur
  cases auteur with
  | some auteur => exact Session.maintains_addAuteur_livres livre (.managed auteur)
  | none => exact hmissing

/-- The state after a turn of the loop of `create`: the new book has an
author. -/
def Session.Lie (session : Session) : Prop :=
  session.Livres ∧ ∃ auteur, auteur ∈ session.liens.auteurs .fresh

theorem wp_linkAuteur_fresh (status : ℕ) (body : List (String × Value))
    (auteurId : Value) (session : Session) (hsession : session.Livres) :
    wp (LivreController.linkAuteur runtime .fresh (answer status body) auteurId)
      (fun _ => Session.Lie) (fun _ => Session.Livres) session := by
  unfold LivreController.linkAuteur
  rw [wp_bind]
  refine wp_mono (maintains_find runtime Tables.auteur auteurId session hsession)
    ?_ (fun _ _ hstop => hstop)
  intro auteur middle hmiddle
  cases auteur with
  | none => exact hmiddle
  | some auteur =>
      refine ⟨Session.maintains_addAuteur_livres .fresh (.managed auteur) middle
        hmiddle, .managed auteur, ?_⟩
      exact (Liens.mem_auteurs_addAuteur _ _ _ _ _).mpr (Or.inr ⟨rfl, rfl⟩)

theorem wp_foreach_linkAuteur_fresh (status : ℕ) (body : List (String × Value))
    {auteurIds : Value} (htruthy : auteurIds.truthy = true)
    (harray : auteurIds.elements.isSome ∨ runtime.debug = true)
    (session : Session) (hsession : session.Livres) :
    wp (foreach runtime auteurIds
        (LivreController.linkAuteur runtime .fresh (answer status body)))
      (fun _ => Session.Lie) (fun _ => Session.Livres) session := by
  unfold foreach
  cases helements : auteurIds.elements with
  | none =>
      have hdebug : runtime.debug = true := by
        simpa [helements] using harray
      simp only [hdebug, if_true]
      exact hsession
  | some items =>
      refine wp_forM_of_ne_nil (fun _ hlie => hlie.1)
        (wp_linkAuteur_fresh runtime status body) ?_ session hsession
      rintro rfl
      cases auteurIds with
      | arr entries =>
          simp only [Value.elements, Option.some.injEq, List.map_eq_nil_iff]
            at helements
          simp [Value.truthy, helements] at htruthy
      | _ => simp [Value.elements] at helements

theorem LivreDraft.nomme_of_row {draft : LivreDraft} {titre langue : String}
    (htitre : draft.titre = some titre) (hlangue : draft.langue = some langue)
    (hnonempty : titre ≠ "" ∧ langue ≠ "") {livre : Livre}
    (hrow : draft.row = some livre) : livre.Nomme := by
  simp only [LivreDraft.row, htitre, hlangue, Option.bind_eq_bind,
    Option.bind_eq_some_iff, Option.some.injEq, exists_eq_left'] at hrow
  obtain ⟨dateSortie, -, categorie, -, hrow⟩ := hrow
  cases hrow
  exact hnonempty

theorem maintains_livreCreate {data : Value}
    (harray : ∀ auteurIds, data.field "auteurIds" = some auteurIds →
      auteurIds.truthy → auteurIds.elements.isSome ∨ runtime.debug = true) :
    Maintains Session.Livres (LivreController.create runtime data) := by
  refine (yields_answerIf _ _ _).bind fun _ hpresent => ?_
  simp only [Bool.or_eq_false_iff, Value.missing, Bool.not_eq_eq_eq_not,
    Bool.not_false, Option.any_eq_true] at hpresent
  obtain ⟨⟨⟨⟨⟨givenTitre, htitre, htitreTrue⟩, -⟩, givenLangue, hlangue,
    hlangueTrue⟩, -⟩, hauteurIds⟩ := hpresent
  refine (yields_php _).bind fun titre hreadTitre => ?_
  refine (maintains_php _).bind fun dateSortie => ?_
  refine (yields_php _).bind fun langue hreadLangue => ?_
  refine (maintains_php _).bind fun photoCouverture => ?_
  refine maintains_findOr runtime _ _ fun categorie => ?_
  rw [htitre] at hreadTitre
  rw [hlangue] at hreadLangue
  have htitreNe := Value.toString_ne_empty htitreTrue hreadTitre
  have hlangueNe := Value.toString_ne_empty hlangueTrue hreadLangue
  have harray' : ((data.field "auteurIds").getD (.arr [])).elements.isSome ∨
      runtime.debug = true := by
    cases hfield : data.field "auteurIds" with
    | none => exact Or.inl rfl
    | some auteurIds =>
        rw [hfield] at hauteurIds
        exact harray auteurIds hfield hauteurIds
  intro session hsession
  rw [wp_bind]
  refine wp_mono (wp_foreach_linkAuteur_fresh runtime _ _ hauteurIds harray'
    session hsession) ?_ (fun _ _ hstop => hstop)
  rintro _ linked ⟨hlinked, hauteur⟩
  rw [wp_bind, wp_persist]
  refine Maintains.bind Session.maintains_flush_livres
    (fun _ => maintains_insertedId.bind fun _ => maintains_pure _) _ ?_
  refine ⟨hlinked.base, hlinked.managed, ?_, hlinked.removed⟩
  rintro draft heq
  cases heq
  exact ⟨fun livre hrow => LivreDraft.nomme_of_row rfl rfl
    ⟨htitreNe, hlangueNe⟩ hrow, hauteur⟩

end Create

/-! ## The other requests -/

section Others

variable (runtime : Runtime)

theorem maintains_livreUpdate (id : ℕ) {data : Value}
    (htitre : ∀ titre, data.field "titre" = some titre → titre.toString ≠ .ok "")
    (hlangue : ∀ langue, data.field "langue" = some langue →
      langue.toString ≠ .ok "") :
    Maintains Session.Livres (LivreController.update runtime id data) := by
  refine Maintains.bind ?_ fun _ =>
    Session.maintains_flush_livres.bind fun _ => maintains_pure _
  refine maintains_findOr runtime _ _ fun livre => ?_
  refine Maintains.bind (maintains_setter fun given titre hgiven hread =>
    Session.maintains_setLivre fun _ hnomme => ⟨?_, hnomme.2⟩) fun _ => ?_
  · rintro rfl
    exact htitre given hgiven hread
  refine Maintains.bind (maintains_setter fun _ _ _ _ =>
    Session.maintains_setLivre fun _ hnomme => hnomme) fun _ => ?_
  refine Maintains.bind (maintains_setter fun given langue hgiven hread =>
    Session.maintains_setLivre fun _ hnomme => ⟨hnomme.1, ?_⟩) fun _ => ?_
  · rintro rfl
    exact hlangue given hgiven hread
  refine Maintains.bind (maintains_setter fun _ _ _ _ =>
    Session.maintains_setLivre fun _ hnomme => hnomme) fun _ => ?_
  refine Maintains.bind (maintains_ifSet fun categorieId _ => ?_) fun _ => ?_
  · refine (maintains_find runtime Tables.categorie categorieId).bind ?_
    intro categorie
    cases categorie with
    | some categorie => exact Session.maintains_setLivre fun _ hnomme => hnomme
    | none => exact maintains_throw _
  · exact maintains_ifSet fun auteurIds _ => maintains_foreach runtime auteurIds
      (maintains_linkAuteur runtime (.managed livre) (maintains_throw _))

theorem maintains_auteurReadDate {invariant : Session → Prop} (value : Value) :
    Maintains invariant (AuteurController.readDate value) :=
  (maintains_php _).bind fun _ => maintains_php _

theorem maintains_auteurUpdate (id : ℕ) (data : Value) :
    Maintains Session.Livres (AuteurController.update runtime id data) := by
  refine maintains_findOr runtime _ _ fun auteur => ?_
  refine (maintains_foreach runtime _ fun _ => maintains_throw _).bind fun _ => ?_
  refine Maintains.bind (maintains_setter fun _ _ _ _ =>
    Session.maintains_setAuteur_livres _ _) fun _ => ?_
  refine Maintains.bind (maintains_setter fun _ _ _ _ =>
    Session.maintains_setAuteur_livres _ _) fun _ => ?_
  refine Maintains.bind (maintains_ifSet fun _ _ =>
    (maintains_auteurReadDate _).bind fun _ =>
      Session.maintains_setAuteur_livres _ _) fun _ => ?_
  refine Maintains.bind (maintains_ifSet fun _ _ =>
    (maintains_auteurReadDate _).bind fun _ =>
      Session.maintains_setAuteur_livres _ _) fun _ => ?_
  refine Maintains.bind (maintains_setter fun _ _ _ _ =>
    Session.maintains_setAuteur_livres _ _) fun _ => ?_
  refine Maintains.bind (maintains_setter fun _ _ _ _ =>
    Session.maintains_setAuteur_livres _ _) fun _ => ?_
  refine Maintains.bind (maintains_setter fun _ _ _ _ =>
    Session.maintains_setAuteur_livres _ _) fun _ => ?_
  exact Session.maintains_flush_livres.bind fun _ => maintains_pure _

theorem maintains_optionalDate {invariant : Session → Prop}
    (value : Option Value) :
    Maintains invariant (AuteurController.optionalDate value) := by
  cases value with
  | some value =>
      exact (maintains_auteurReadDate value).bind fun _ => maintains_pure _
  | none => exact maintains_pure _

theorem maintains_auteurCreate (data : Value) :
    Maintains Session.Livres (AuteurController.create runtime data) := by
  refine (maintains_answerIf _ _ _).bind fun _ => ?_
  refine (maintains_php _).bind fun nom => ?_
  refine (maintains_php _).bind fun prenom => ?_
  refine (maintains_optionalDate _).bind fun dateNaiss => ?_
  refine (maintains_optionalDate _).bind fun dateDeces => ?_
  refine (maintains_php _).bind fun nationalite => ?_
  refine (maintains_php _).bind fun photo => ?_
  refine (maintains_php _).bind fun description => ?_
  refine (maintains_foreach runtime _ fun livreId => ?_).bind fun _ => ?_
  · refine (maintains_find runtime Tables.livre livreId).bind ?_
    intro livre
    cases livre with
    | some livre => exact Session.maintains_addLivre_livres _ _
    | none => exact maintains_pure _
  · refine (Session.maintains_persist_livres fun _ => by simp).bind fun _ => ?_
    exact Session.maintains_flush_livres.bind fun _ =>
      maintains_insertedId.bind fun _ => maintains_pure _

theorem maintains_categorieCreate (data : Value) :
    Maintains Session.Livres (CategorieController.create data) := by
  refine (maintains_php _).bind fun nom => ?_
  refine (maintains_php _).bind fun description => ?_
  refine (Session.maintains_persist_livres fun _ => by simp).bind fun _ => ?_
  exact Session.maintains_flush_livres.bind fun _ =>
    maintains_insertedId.bind fun _ => maintains_pure _

theorem maintains_categorieUpdate (id : ℕ) (data : Value) :
    Maintains Session.Livres (CategorieController.update runtime id data) := by
  refine maintains_findOr runtime _ _ fun categorie => ?_
  refine Maintains.bind (maintains_setter fun _ _ _ _ =>
    Session.maintains_setCategorie_livres _ _) fun _ => ?_
  refine Maintains.bind (maintains_setter fun _ _ _ _ =>
    Session.maintains_setCategorie_livres _ _) fun _ => ?_
  exact Session.maintains_flush_livres.bind fun _ => maintains_pure _

end Others

/-! ## Deletions -/

namespace Tables

/-- No cascade leads to an author. -/
theorem auteur_not_mem_cascade {tables : Tables} (hvalid : tables.Valid)
    (entity : Ligne) (id : ℕ) : .auteur id ∉ tables.cascade entity := by
  intro hauteur
  by_cases hreservation : ∃ reservation, entity = .reservations reservation
  · obtain ⟨reservation, rfl⟩ := hreservation
    rw [mem_cascade_reservations] at hauteur
    simp [targets] at hauteur
  · have hreference := references_of_mem_cascade hvalid
      (fun reservation heq => hreservation ⟨reservation, heq⟩) hauteur
    exact absurd hreference.2 (by simp [targets])

theorem eq_of_auteur_mem_removed {tables : Tables} (hvalid : tables.Valid)
    {ligne : Ligne} {removed : List Ligne}
    (hremoved : tables.doRemove ligne = some removed) {id : ℕ}
    (hauteur : .auteur id ∈ removed) : ligne = .auteur id := by
  have hpath := (Traversal.mem_visit_iff hremoved _).mp hauteur
  rcases Relation.ReflTransGen.cases_tail hpath with heq | ⟨before, -, hedge⟩
  · exact heq.symm
  · exact absurd hedge (auteur_not_mem_cascade hvalid before id)

/-- A deletion that leaves every kept book one of its authors. -/
theorem Complets.without {tables : Tables} (hcomplets : tables.Complets)
    {removed : List Ligne} (hvalid : (tables.without removed).Valid)
    (hentities : ∀ ligne ∈ removed, ligne.isEntity = true)
    (hlinks : ∀ livre auteur, (livre, auteur) ∈ tables.livreAuteur →
      ∃ other, (livre, other) ∈ tables.livreAuteur ∧ .auteur other ∉ removed) :
    (tables.without removed).Complets := by
  intro row hrow
  obtain ⟨hstored, hkept⟩ := List.mem_filter.mp hrow
  obtain ⟨htitre, hlangue, -, auteur, -, hlink⟩ := hcomplets row hstored
  obtain ⟨other, hother, hleft⟩ := hlinks row.1 auteur hlink
  have hlivre : Ligne.livre row.1 ∉ removed := by simpa using hkept
  have hjoin : Ligne.livreAuteur row.1 other ∉ removed := fun hmember =>
    Bool.false_ne_true (hentities _ hmember)
  have hsurvives : (row.1, other) ∈ (tables.without removed).livreAuteur :=
    List.mem_filter.mpr ⟨hother, by simp [hjoin, hlivre, hleft]⟩
  exact hvalid.complet hrow ⟨htitre, hlangue⟩ hsurvives

end Tables

/-- A DELETE keeps the requirements if it leaves every book an author. -/
theorem complets_executer_deletion (runtime : Runtime) {base : Base}
    (hbase : base.Complets) {ligne : Ligne} {requete : Requete}
    (hrequete : ligne.deletion = some requete)
    (hlinks : ∀ livre auteur, (livre, auteur) ∈ base.livreAuteur →
      ∃ other, (livre, other) ∈ base.livreAuteur ∧ ligne ≠ .auteur other) :
    (requete.executer runtime base).2.Complets := by
  by_cases hligne : ligne ∈ base.lignes
  · obtain ⟨removed, hremoved⟩ := Tables.exists_removed base.valid hligne
    have hvalid := Tables.valid_without_removed base.valid hremoved
    obtain ⟨body, hexecuter⟩ :=
      executer_deletion runtime base hligne hrequete hremoved hvalid
    rw [hexecuter]
    have hkind : ligne.isEntity = true := by
      cases ligne with
      | livreAuteur livre auteur => cases hrequete
      | _ => rfl
    refine hbase.without hvalid
      (fun _ hmember => Tables.isEntity_of_mem_removed hremoved hkind hmember) ?_
    intro livre auteur hlink
    obtain ⟨other, hother, hne⟩ := hlinks livre auteur hlink
    exact ⟨other, hother, fun hmember =>
      hne (Tables.eq_of_auteur_mem_removed base.valid hremoved hmember)⟩
  · obtain ⟨body, hexecuter⟩ :=
      executer_deletion_of_not_mem runtime base hligne hrequete
    rw [hexecuter]
    exact hbase

/-! ## Runs -/

namespace Requete

variable {runtime : Runtime} {base : Base}

/-- A PUT of an unknown book answers 404. -/
theorem step_livreUpdate_of_not_mem {id : ℕ} {data : Value}
    (hid : id ∉ base.livre.ids) :
    (livreUpdate id data).step runtime base = base := by
  have hend := serve_iff_wp (LivreController.update runtime id data) base
    fun _ final => final = base
  refine hend.mpr ?_
  rw [LivreController.update, wp_bind, LivreController.updateFields, wp_bind,
    wp_find_of_not_mem runtime (runtime.rowId_int id) hid]
  rfl

/-- Each respectful request keeps the requirements. -/
theorem complets_step {requete : Requete} (hbase : base.Complets)
    (hcatalogue : requete.OnCatalogue) (hrespecte : requete.Respecte runtime base) :
    (requete.step runtime base).Complets := by
  have hstart : Session.Livres (Session.start base) :=
    Session.livres_start base 0 hbase
  have hserve : Maintains Session.Livres (requete.handler runtime) →
      (requete.step runtime base).Complets := by
    intro hhandler
    obtain ⟨session, hsession, heq⟩ := exists_session_of_maintains hhandler hstart
    rw [step, executer, heq]
    exact hsession.base
  cases requete with
  | livreCreate data => exact hserve (maintains_livreCreate runtime hrespecte)
  | livreUpdate id data =>
      by_cases hid : id ∈ base.livre.ids
      · obtain ⟨htitre, hlangue⟩ := hrespecte hid
        exact hserve (maintains_livreUpdate runtime id htitre hlangue)
      · rw [step_livreUpdate_of_not_mem hid]
        exact hbase
  | livreDelete id =>
      have hrequete : (Ligne.livre id).deletion = some (livreDelete id) := rfl
      exact complets_executer_deletion runtime hbase hrequete
        fun _ auteur hlink => ⟨auteur, hlink, by simp⟩
  | auteurCreate data => exact hserve (maintains_auteurCreate runtime data)
  | auteurUpdate id data => exact hserve (maintains_auteurUpdate runtime id data)
  | auteurDelete id =>
      have hrequete : (Ligne.auteur id).deletion = some (auteurDelete id) := rfl
      refine complets_executer_deletion runtime hbase hrequete ?_
      intro livre auteur hlink
      by_cases hsame : auteur = id
      · obtain ⟨other, hother, hotherLink⟩ := hrespecte livre (hsame ▸ hlink)
        exact ⟨other, hotherLink, by simpa using hother.symm⟩
      · exact ⟨auteur, hlink, by simpa using Ne.symm hsame⟩
  | categorieCreate data => exact hserve (maintains_categorieCreate data)
  | categorieUpdate id data =>
      exact hserve (maintains_categorieUpdate runtime id data)
  | categorieDelete id =>
      have hrequete : (Ligne.categorie id).deletion = some (categorieDelete id) :=
        rfl
      exact complets_executer_deletion runtime hbase hrequete
        fun _ auteur hlink => ⟨auteur, hlink, by simp⟩
  | _ => exact hcatalogue.elim

/-- From an empty database, requests that respect the requirements of
`POST /api/livre` leave only books that meet them. -/
theorem run_complets (runtime : Runtime) (requetes : List Requete)
    (hcatalogue : ∀ requete ∈ requetes, requete.OnCatalogue)
    (hrespectent : Run.Permitted (step runtime)
      (fun base requete => requete.Respecte runtime base) Base.empty requetes) :
    (Run.run (step runtime) Base.empty requetes).Complets := by
  have hempty : Base.empty.Complets := by
    intro row hrow
    cases hrow
  exact Run.invariant_run (fun base : Base => base.Complets)
    (fun _ _ hbase hallowed => complets_step hbase hallowed.2 hallowed.1)
    requetes Base.empty hempty (hrespectent.and_forall hcatalogue)

/-- A category, an author and a book with that author. -/
def sampleRequests : List Requete :=
  [categorieCreate (.object [("nom", .str "Roman"), ("description", .str "")]),
    auteurCreate (.object [("nom", .str "Austen"), ("prenom", .str "Jane"),
      ("dateNaiss", .str "16/12/1775"), ("nationalite", .str "GB"),
      ("description", .str "")]),
    livreCreate (.object [("titre", .str "Emma"), ("dateSortie", .str "12/12/1815"),
      ("langue", .str "EN"), ("categorieId", .int 1),
      ("auteurIds", .list [.int 1])])]

theorem run_complets_sample :
    (Run.run (step .dev) Base.empty sampleRequests).livre.ids = [1] ∧
      (Run.run (step .dev) Base.empty sampleRequests).Complets := by
  refine ⟨by decide, run_complets .dev sampleRequests ?_ ?_⟩
  · simp [sampleRequests, OnCatalogue]
  · exact ⟨trivial, trivial, fun _ _ _ => Or.inr rfl, trivial⟩

/-- A PUT blanks the title that the POST required. -/
theorem livreUpdate_blanks_titre :
    ¬ (Run.run (step .dev) Base.empty (sampleRequests ++
        [livreUpdate 1 (.object [("titre", .str "")])])).Complets := by
  decide

end Requete

end Bibliotheque
