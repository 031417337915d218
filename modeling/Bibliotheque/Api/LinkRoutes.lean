import Bibliotheque.Api.LivreEffects
import Bibliotheque.Api.ValidBodies

/-!
# Three routes to the author links

`PUT /api/livre/{id}` with `auteurIds`, `PUT /api/auteur/{id}` with `livres` and
`POST /api/auteur` with `livres` are meant to write one relation from its two
ends.  The first and the third do, for every list of books.  The second fails
on every list that is not empty: its loop uses a repository that the method
does not have.
-/

namespace Bibliotheque

open Program Bibliotheque.Action

/-- A list of row numbers in a body. -/
def Value.ids (numbers : List ℕ) : Value :=
  .list (numbers.map fun number : ℕ => .int number)

@[simp]
theorem Value.elements_ids (numbers : List ℕ) :
    (Value.ids numbers).elements = some (numbers.map fun number : ℕ => .int number) :=
  Value.elements_list _

variable {runtime : Runtime} {base : Base} {auteur : ℕ} {livres : List ℕ}

namespace LivreController

/-- The body that links one author. -/
def linking (auteur : ℕ) : Value :=
  .object [("auteurIds", .ids [auteur])]

theorem sent_linking :
    sent runtime (linking auteur) = ⟨none, none, none, none, none, [auteur]⟩ := rfl

theorem accepted_linking {livre : ℕ} (hlivre : livre ∈ base.livre.ids)
    (hauteur : auteur ∈ base.auteur.ids) :
    Accepted runtime base.toTables livre (linking auteur) where
  livre := hlivre
  titre := fun _ hfield => by cases hfield
  dateSortie := fun _ hfield => by cases hfield
  langue := fun _ hfield => by cases hfield
  photoCouverture := fun _ hfield => by cases hfield
  categorie := fun _ hfield => by cases hfield
  auteurs := by
    intro given hfield
    obtain rfl : Value.ids [auteur] = given := Option.some.inj hfield
    simp [hauteur]

/-- One such request adds the link and changes no row. -/
theorem step_linking {livre : ℕ} (hlivre : livre ∈ base.livre.ids)
    (hauteur : auteur ∈ base.auteur.ids) :
    let final := (Requete.livreUpdate livre (linking auteur)).step runtime base
    final.livre.ids = base.livre.ids ∧ final.auteur.ids = base.auteur.ids ∧
      ∀ link, link ∈ final.livreAuteur ↔
        link ∈ base.livreAuteur ∨ link = (livre, auteur) := by
  intro final
  obtain ⟨old, hold⟩ := Table.exists_find_of_mem_ids hlivre
  have haccepted := @accepted_linking runtime base auteur livre hlivre hauteur
  have hfits : ((sent runtime (linking auteur)).onRow old).Fits := by
    rw [sent_linking]
    exact base.valid.livre_fits (livre, old) ((Table.find_eq_some_iff _ _ _).mp hold)
  have htables : final.toTables = committed runtime livre (linking auteur) base base :=
    congrArg (fun result : Outcome × Base => result.2.toTables)
      (serve_update haccepted hold hfits.store)
  refine ⟨?_, ?_, ?_⟩
  · rw [htables, committed_eq hold, Table.ids_modify]
  · rw [htables, committed_eq hold]
  · rintro ⟨left, right⟩
    rw [htables, mem_livreAuteur_committed hold, ← mem_sent_auteurs_iff, sent_linking]
    simp

/-- The requests sent one after the other. -/
def linkingRun (runtime : Runtime) (base : Base) (auteur : ℕ) (livres : List ℕ) : Base :=
  Run.run (Requete.step runtime) base
    (livres.map fun livre => .livreUpdate livre (linking auteur))

theorem linkingRun_cons (livre : ℕ) (livres : List ℕ) :
    linkingRun runtime base auteur (livre :: livres) =
      linkingRun runtime ((Requete.livreUpdate livre (linking auteur)).step runtime base)
        auteur livres := rfl

/-- The requests for a list of books add exactly their links. -/
theorem mem_livreAuteur_linkingRun :
    ∀ (livres : List ℕ) (base : Base), (∀ livre ∈ livres, livre ∈ base.livre.ids) →
      auteur ∈ base.auteur.ids →
        ∀ link, link ∈ (linkingRun runtime base auteur livres).livreAuteur ↔
          link ∈ base.livreAuteur ∨ ∃ livre ∈ livres, link = (livre, auteur) := by
  intro livres
  induction livres with
  | nil => simp [linkingRun]
  | cons livre livres ih =>
      intro base hlivres hauteur link
      obtain ⟨hids, hauteurs, hlinks⟩ := @step_linking runtime base auteur livre
        (hlivres livre List.mem_cons_self) hauteur
      have hrest := ih ((Requete.livreUpdate livre (linking auteur)).step runtime base)
        (fun other hother => hids ▸ hlivres other (List.mem_cons_of_mem _ hother))
        (hauteurs ▸ hauteur) link
      rw [linkingRun_cons, hrest, hlinks]
      simp only [List.mem_cons, exists_eq_or_imp, or_assoc]

end LivreController

namespace AuteurController

/-- The body that links a list of books. -/
def linking (livres : List ℕ) : Value :=
  .object [("livres", .ids livres)]

theorem onRow_linking (row : Auteur) : onRow (linking livres) row = row := rfl

theorem accepted_linking_iff (hauteur : auteur ∈ base.auteur.ids) :
    UpdateAccepted runtime base.toTables auteur (linking livres) ↔ livres = [] := by
  constructor
  · intro haccepted
    rcases haccepted.livres _ rfl with hempty | ⟨hnone, -⟩
    · rw [Value.elements_ids] at hempty
      exact List.map_eq_nil_iff.mp (Option.some.inj hempty)
    · rw [Value.elements_ids] at hnone
      cases hnone
  · rintro rfl
    exact
      { auteur := hauteur
        livres := by
          intro given hgiven
          obtain rfl : Value.ids [] = given := Option.some.inj hgiven
          exact Or.inl rfl
        nom := fun _ hfield => by cases hfield
        prenom := fun _ hfield => by cases hfield
        dateNaiss := fun _ hfield => by cases hfield
        dateDeces := fun _ hfield => by cases hfield
        nationalite := fun _ hfield => by cases hfield
        photo := fun _ hfield => by cases hfield
        description := fun _ hfield => by cases hfield }

theorem modified_linking : modified base auteur (linking livres) = base.toTables := by
  have hstored : base.auteur.modify auteur (Auteur.store ∘ onRow (linking livres)) =
      base.auteur := by
    rw [Table.modify_eq_self_iff]
    intro row hrow
    rw [Function.comp_apply, onRow_linking]
    exact (base.valid.auteur_fits _ ((Table.find_eq_some_iff _ _ _).mp hrow)).store_eq
  rw [modified, hstored]

/-- The request fails on every list that is not empty. -/
theorem not_success_linking (hauteur : auteur ∈ base.auteur.ids) (hlivres : livres ≠ []) :
    ¬ ((Requete.auteurUpdate auteur (linking livres)).executer runtime base).1.Success := by
  intro hsuccess
  obtain ⟨haccepted, -⟩ :=
    passed_of_success refuses_update (fun _ => completes_update_iff) hsuccess
  exact hlivres ((accepted_linking_iff hauteur).mp haccepted)

/-- On the empty list it succeeds and changes nothing. -/
theorem executer_linking_nil (hauteur : auteur ∈ base.auteur.ids) :
    ((Requete.auteurUpdate auteur (linking [])).executer runtime base).1.Success ∧
      ((Requete.auteurUpdate auteur (linking [])).executer runtime base).2.toTables =
        base.toTables := by
  have hvalid : (modified base auteur (linking [])).Valid := by
    rw [modified_linking]
    exact base.valid
  rw [Requete.executer, Requete.handler,
    ((accepted_linking_iff hauteur).mpr rfl).serve_update hvalid]
  exact ⟨Outcome.success_of_status (by decide), modified_linking⟩

/-- A created author is linked to exactly the books of a list. -/
theorem CreateValid.mem_livreAuteur {data : Value} (hvalid : CreateValid runtime base data)
    (hfield : data.field "livres" = some (.ids livres))
    (hlivres : ∀ livre ∈ livres, livre ∈ base.livre.ids) :
    ((Requete.auteurCreate data).executer runtime base).1.Success ∧
      ∀ link, link ∈ ((Requete.auteurCreate data).executer runtime base).2.livreAuteur ↔
        link ∈ base.livreAuteur ∨ ∃ livre ∈ livres, link = (livre, base.auteur.next) := by
  obtain ⟨row, hrow, hfits, -⟩ := hvalid.describes
  have hitems : livreIds data = livres.map fun livre : ℕ => .int livre := by
    simp [livreIds, hfield]
  rw [Requete.executer, Requete.handler, hrow.serve_create hfits.store]
  refine ⟨Outcome.success_of_status (by simp), fun link => ?_⟩
  obtain ⟨left, right⟩ := link
  simp only [created, List.mem_append, mem_newLinks_creating, mem_livresOf_iff, hitems,
    List.mem_map, exists_exists_and_eq_and, Runtime.rowId_int, Except.ok.injEq,
    Option.some.injEq, exists_eq_right, Prod.mk.injEq]
  apply or_congr Iff.rfl
  constructor
  · rintro ⟨rfl, -, hleft⟩
    exact ⟨left, hleft, rfl, rfl⟩
  · rintro ⟨livre, hlivre, rfl, rfl⟩
    exact ⟨rfl, hlivres left hlivre, hlivre⟩

end AuteurController

/-- The three routes agree on a list of books: the update of the author succeeds
and leaves the links that the updates of the books leave, the old ones and those
of the list, and the creation of an author links it to exactly the list. -/
structure LinksAgree (runtime : Runtime) (base : Base) (auteur : ℕ)
    (livres : List ℕ) : Prop where
  success : ((Requete.auteurUpdate auteur (AuteurController.linking livres)).executer
    runtime base).1.Success
  serial : ∀ link, link ∈ ((Requete.auteurUpdate auteur
      (AuteurController.linking livres)).step runtime base).livreAuteur ↔
    link ∈ (LivreController.linkingRun runtime base auteur livres).livreAuteur
  links : ∀ link, link ∈ ((Requete.auteurUpdate auteur
      (AuteurController.linking livres)).step runtime base).livreAuteur ↔
    link ∈ base.livreAuteur ∨ ∃ livre ∈ livres, link = (livre, auteur)
  creation : ∀ data, AuteurController.CreateValid runtime base data →
    data.field "livres" = some (.ids livres) →
      ((Requete.auteurCreate data).executer runtime base).1.Success ∧
        ∀ link, link ∈ ((Requete.auteurCreate data).executer runtime base).2.livreAuteur ↔
          link ∈ base.livreAuteur ∨ ∃ livre ∈ livres, link = (livre, base.auteur.next)

/-- The routes agree exactly on the empty list. -/
theorem linksAgree_iff (hauteur : auteur ∈ base.auteur.ids)
    (hlivres : ∀ livre ∈ livres, livre ∈ base.livre.ids) :
    LinksAgree runtime base auteur livres ↔ livres = [] := by
  constructor
  · intro hagree
    by_contra hnonempty
    exact AuteurController.not_success_linking hauteur hnonempty hagree.success
  · rintro rfl
    obtain ⟨hsuccess, hfinal⟩ :=
      @AuteurController.executer_linking_nil runtime base auteur hauteur
    have hlinks : ((Requete.auteurUpdate auteur (AuteurController.linking [])).step
        runtime base).livreAuteur = base.livreAuteur := congrArg Tables.livreAuteur hfinal
    exact
      { success := hsuccess
        serial := fun link => by
          rw [hlinks, LivreController.mem_livreAuteur_linkingRun [] base hlivres hauteur]
          simp
        links := fun link => by
          rw [hlinks]
          simp
        creation := fun data hvalid hfield => hvalid.mem_livreAuteur hfield hlivres }

theorem linksAgree_sample : LinksAgree Runtime.dev Base.sample 1 [] :=
  (linksAgree_iff (by decide) (by simp)).mpr rfl

/-- The author of the sample library cannot be linked to its book again. -/
theorem linksAgree_fails :
    ¬ ∀ (runtime : Runtime) (base : Base) (auteur : ℕ) (livres : List ℕ),
      auteur ∈ base.auteur.ids → (∀ livre ∈ livres, livre ∈ base.livre.ids) →
        LinksAgree runtime base auteur livres := by
  intro hall
  have hagree := hall Runtime.dev Base.sample 1 [1] (by decide) (by decide)
  exact AuteurController.not_success_linking (by decide) (by simp) hagree.success

end Bibliotheque
