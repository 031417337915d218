import Bibliotheque.Front.Lists

/-!
# The detail page of a book

A line of the book list links to `/livre/:titre` with the title of its book.
`LivreDetailComponent` loads the whole listing again and keeps the first entry
with that title; titles are not unique.
-/

namespace Bibliotheque.Front

/-- The parameter of `[routerLink]="['/livre', livre.titre]"`. -/
def LivresListComponent.routerLink (livre : Value) : Option Value :=
  get livre "titre"

structure LivreDetailComponent where
  livres : Value := .list []
  livre : Option Value := none

namespace LivreDetailComponent

/-- The callback of `getLivres` in `ngOnInit`, `titre` being
`params['titre']`. -/
def recevoirLivres (titre : Option Value) (data : Value)
    (component : LivreDetailComponent) :
    Except RenderError LivreDetailComponent :=
  match array data with
  | none => .error (.notAFunction "find")
  | some livres =>
      .ok { component with
        livres := data
        livre := livres.find? fun l => strictEq (get l "titre") titre }

/-- The book of the template, under `*ngIf="livre"`. -/
def affiche (component : LivreDetailComponent) : Option Value :=
  if truthy component.livre then component.livre else none

end LivreDetailComponent

section Detail

variable (normalize : Date → String) (base : Base)

/-- The detail page reached by a link, once the listing has arrived. -/
def livreDetail (titre : Option Value) : Except RenderError LivreDetailComponent :=
  LivreDetailComponent.recevoirLivres titre
    (LivreController.index normalize base.toTables).body {}

/-- The page shows the row with this id. -/
def AfficheLivre (id : ℕ) (component : LivreDetailComponent) : Prop :=
  ∃ entry, component.affiche = some entry ∧ get entry "id" = some (.int id)

theorem routerLink_entry (id : ℕ) (livre : Livre) :
    LivresListComponent.routerLink
      (LivreController.entry normalize base.toTables id livre) =
        some (.str livre.titre) := rfl

theorem get_id_entry (id : ℕ) (livre : Livre) :
    get (LivreController.entry normalize base.toTables id livre) "id" =
      some (.int id) := rfl

/-- `find` over the entries is `find` over the rows. -/
theorem find_entry (titre : String) (rows : List (ℕ × Livre)) :
    (rows.map fun row => LivreController.entry normalize base.toTables row.1 row.2).find?
        (fun l => strictEq (get l "titre") (some (.str titre))) =
      (rows.find? fun row => row.2.titre = titre).map fun row =>
        LivreController.entry normalize base.toTables row.1 row.2 := by
  rw [List.find?_map]
  congr 1
  apply congrArg (fun test => rows.find? test)
  funext row
  change decide (some (Value.str row.2.titre) = some (.str titre)) = _
  exact decide_eq_decide.mpr (by rw [Option.some.injEq, Value.str.injEq])

/-- The page reached with a title shows the first row that has it. -/
theorem livreDetail_eq (titre : String) :
    livreDetail normalize base (some (.str titre)) =
      .ok {
        livres := (LivreController.index normalize base.toTables).body
        livre := (base.livre.rows.find? fun row => row.2.titre = titre).map fun row =>
          LivreController.entry normalize base.toTables row.1 row.2 } := by
  rw [livreDetail, LivreDetailComponent.recevoirLivres]
  simp only [LivreController.index, array_list, find_entry]

/-- The page behind the link of a book shows the first book of the listing with
its title.  That is the book itself iff no book before it in the listing has
the same title. -/
theorem livreDetail_routerLink {id : ℕ} {livre : Livre}
    (hrow : (id, livre) ∈ base.livre.rows) :
    ∃ component premier,
      livreDetail normalize base (LivresListComponent.routerLink
        (LivreController.entry normalize base.toTables id livre)) = .ok component ∧
      base.livre.rows.find? (fun row => row.2.titre = livre.titre) = some premier ∧
      component.affiche =
        some (LivreController.entry normalize base.toTables premier.1 premier.2) ∧
      (AfficheLivre id component ↔
        ∀ other ∈ base.livre.rows.takeWhile (fun other => other.1 ≠ id),
          other.2.titre ≠ livre.titre) := by
  have hfirst := base.livre.find?_rows_eq_some_iff hrow
    fun row => row.2.titre = livre.titre
  simp only [decide_true, true_and, decide_eq_false_iff_not] at hfirst
  cases hfind : base.livre.rows.find? fun row => row.2.titre = livre.titre with
  | none =>
      have hmissing := List.find?_eq_none.mp hfind (id, livre) hrow
      exact absurd (decide_eq_true rfl) hmissing
  | some premier =>
      rw [hfind] at hfirst
      have hshown := livreDetail_eq normalize base livre.titre
      rw [hfind] at hshown
      refine ⟨_, premier, hshown, rfl, rfl, Iff.trans ?_ hfirst⟩
      have hpremier := List.mem_of_find?_eq_some hfind
      constructor
      · rintro ⟨entry, hentry, hid⟩
        cases hentry
        rw [get_id_entry, Option.some.injEq, Value.int.injEq, Int.natCast_inj] at hid
        obtain ⟨number, row⟩ := premier
        cases hid
        rw [base.livre.eq_of_mem hpremier hrow]
      · intro hsame
        cases hsame
        exact ⟨_, rfl, rfl⟩

end Detail

/-- A book in one language or the other. -/
def emma (langue : String) : Livre where
  titre := "Emma"
  dateSortie := Date.sample
  langue := langue
  photoCouverture := none
  categorie := 1

/-- Two books with one title. -/
def deuxEmma : Base where
  categorie := Table.empty.insert { nom := "Roman", description := "" }
  auteur := Table.empty
  livre := (Table.empty.insert (emma "EN")).insert (emma "FR")
  utilisateur := Table.empty
  emprunt := Table.empty
  reservations := Table.empty
  livreAuteur := []
  valid := by decide

/-- The first of the two books is found behind its link. -/
theorem livreDetail_routerLink_first :
    ∃ component, livreDetail sampleNormalize deuxEmma (some (.str "Emma")) =
        .ok component ∧ AfficheLivre 1 component := by
  have hrow : (1, emma "EN") ∈ deuxEmma.livre.rows := by decide
  obtain ⟨component, premier, hpage, -, -, hiff⟩ :=
    livreDetail_routerLink sampleNormalize deuxEmma hrow
  exact ⟨component, hpage, hiff.mpr (by decide)⟩

/-- The link of the second book leads to the first. -/
theorem second_link_shows_first :
    ¬ ∀ (base : Base) (id : ℕ) (livre : Livre), (id, livre) ∈ base.livre.rows →
      ∃ component, livreDetail sampleNormalize base (LivresListComponent.routerLink
          (LivreController.entry sampleNormalize base.toTables id livre)) =
            .ok component ∧ AfficheLivre id component := by
  intro hall
  obtain ⟨component, hpage, entry, hentry, hid⟩ :=
    hall deuxEmma 2 (emma "FR") (by decide)
  rw [routerLink_entry, livreDetail_eq] at hpage
  cases hpage
  cases hentry
  revert hid
  decide

end Bibliotheque.Front
