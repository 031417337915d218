import Bibliotheque.Core.Distinct
import Bibliotheque.Front.Requests

/-!
# The two views of the book list

The page shows `filteredLivres`, the books that the search text leaves, and
`langues`, the choices of the language select.  Both are computed from `livres`:
`applyFilter` computes the first, `getUniqueLangues` the second.  The handlers
call `applyFilter` only.
-/

namespace Bibliotheque.Front

/-- The screen with the choices of its language select. -/
structure Page where
  ecran : Ecran
  langues : List (Option Value) := []

/-- An action and the handlers it runs. -/
inductive Action where
  /-- The answer to the request with this number. -/
  | reponse (numero : ℕ)
  /-- A change of the search field, which `ngModel` has already copied. -/
  | rechercher (searchQuery : String)
  | onLivreSelected
  | remplir (criteres : Criteres)
  | filterLivres
  | reponseAuteurs (data : Value)

def Action.evenements : Action → List Evenement
  | .reponse numero => [.reponse numero]
  | .rechercher searchQuery => [.saisir searchQuery, .onSearchChange]
  | .onLivreSelected => [.onLivreSelected]
  | .remplir criteres => [.remplir criteres]
  | .filterLivres => [.filterLivres]
  | .reponseAuteurs data => [.reponseAuteurs data]

namespace Page

def initial : Page where
  ecran := .initial

/-- `Array.from(languesSet)`, where a set keeps the first of equal values.  No
handler of the component calls it. -/
def getUniqueLangues (page : Page) : Except RenderError Page :=
  match array page.ecran.component.livres with
  | none => .error (.notAFunction "forEach")
  | some livres =>
      .ok { page with
        langues := Distinct.distinct id [] (livres.map fun livre => get livre "langue") }

section Step

variable (toLowerCase : String → String) (payload : ℕ → Option Value)

def step (page : Page) (action : Action) : Page :=
  { page with
    ecran := Run.run (Ecran.step toLowerCase payload) page.ecran action.evenements }

end Step

end Page

/-! ## What the views should be -/

/-- A book as the API sends it: its title and its language are texts. -/
structure EstLivre (livre : Value) : Prop where
  titre : ∃ titre, get livre "titre" = some (.str titre)
  langue : ∃ langue, get livre "langue" = some (.str langue)

/-- `livre.titre`, if it is a text. -/
def titre (livre : Value) : String :=
  match get livre "titre" with
  | some (.str titre) => titre
  | _ => ""

section Views

variable (toLowerCase : String → String)

/-- The title contains the text, ignoring case. -/
def titreContient (texte : String) (livre : Value) : Bool :=
  texte = "" || decide ((toLowerCase texte).toList <:+: (toLowerCase (titre livre)).toList)

/-- The list holds the books of the catalogue that the search text leaves. -/
def FiltreAJour (component : LivresListComponent) (livres : List Value) : Prop :=
  component.livres = .list livres ∧
    component.filteredLivres =
      .list (livres.filter (titreContient toLowerCase component.searchQuery))

/-- The choices are the languages of the books, each once. -/
def LanguesAJour (page : Page) (livres : List Value) : Prop :=
  page.langues.Nodup ∧
    ∀ langue, langue ∈ page.langues ↔ ∃ livre ∈ livres, get livre "langue" = langue

/-- Both views are those of the books in `livres`. -/
def AJour (page : Page) : Prop :=
  ∃ livres, FiltreAJour toLowerCase page.ecran.component livres ∧ LanguesAJour page livres

/-- `getUniqueLangues` would bring the choices up to date. -/
theorem languesAJour_getUniqueLangues {page after : Page} {livres : List Value}
    (hlivres : page.ecran.component.livres = .list livres)
    (hafter : page.getUniqueLangues = .ok after) : LanguesAJour after livres := by
  rw [Page.getUniqueLangues, hlivres, array_list] at hafter
  cases hafter
  constructor
  · exact Distinct.nodup_distinct_id _ []
  · intro langue
    rw [Distinct.mem_distinct_id, List.mem_map]
    exact and_iff_left List.not_mem_nil

/-! ## The search filter -/

theorem filterAuxM_eq_filter {Item : Type} {test : Item → Except RenderError Bool}
    {keep : Item → Bool} (items : List Item) :
    ∀ kept, (∀ item ∈ items, test item = .ok (keep item)) →
      items.filterAuxM test kept = .ok ((items.filter keep).reverse ++ kept) := by
  induction items with
  | nil => exact fun _ _ => rfl
  | cons item items ih =>
      intro kept htest
      rw [List.filterAuxM, htest item List.mem_cons_self]
      calc items.filterAuxM test (cond (keep item) (item :: kept) kept)
        _ = .ok ((items.filter keep).reverse ++ cond (keep item) (item :: kept) kept) :=
            ih _ fun other hother => htest other (List.mem_cons_of_mem item hother)
        _ = .ok (((item :: items).filter keep).reverse ++ kept) := by
            cases hkeep : keep item <;> simp [hkeep]

theorem titreIncludes_of_estLivre {livre : Value} (hlivre : EstLivre livre)
    {texte : String} (htexte : texte ≠ "") :
    LivresListComponent.titreIncludes toLowerCase texte livre =
      .ok (titreContient toLowerCase texte livre) := by
  obtain ⟨title, htitle⟩ := hlivre.titre
  simp only [LivresListComponent.titreIncludes, titreContient, titre, htitle,
    decide_eq_false htexte, Bool.false_or]

/-- On books the filter keeps exactly those with a fitting title. -/
theorem searchFilter_of_estLivre {livres : List Value} (texte : String)
    (hlivres : ∀ livre ∈ livres, EstLivre livre) :
    searchFilter toLowerCase texte (.list livres) =
      .ok (.list (livres.filter (titreContient toLowerCase texte))) := by
  by_cases htexte : texte = ""
  · have hall : livres.filter (titreContient toLowerCase texte) = livres :=
      List.filter_eq_self.mpr fun livre _ => by simp [titreContient, htexte]
    rw [searchFilter, if_pos htexte, hall]
  · rw [searchFilter, if_neg htexte, array_list]
    dsimp only
    rw [List.filterM, filterAuxM_eq_filter livres [] fun livre hlivre =>
      titreIncludes_of_estLivre toLowerCase (hlivres livre hlivre) htexte]
    change Except.ok (Value.list ((_ ++ []).reverse)) = _
    rw [List.append_nil, List.reverse_reverse]

theorem filtreAJour_applyFilter {component : LivresListComponent} {livres : List Value}
    (hcomponent : component.livres = .list livres)
    (hlivres : ∀ livre ∈ livres, EstLivre livre) :
    FiltreAJour toLowerCase (Ecran.applyFilter toLowerCase component) livres := by
  constructor
  · rw [livres_applyFilter, hcomponent]
  · rw [searchQuery_applyFilter]
    apply filteredLivres_applyFilter
    rw [hcomponent]
    exact searchFilter_of_estLivre toLowerCase component.searchQuery hlivres

end Views

/-! ## Runs -/

/-- An answer of the catalogue: an array of books. -/
def EstCatalogue (data : Value) : Prop :=
  ∃ livres, data = .list livres ∧ ∀ livre ∈ livres, EstLivre livre

/-- The data that an action brings. -/
def Action.arrivee (payload : ℕ → Option Value) : Action → Option Value
  | .reponse numero => payload numero
  | _ => none

theorem list_injective : Function.Injective Value.list := by
  intro left right heq
  have hsame : some left = some right := by
    rw [← array_list left, heq, array_list]
  exact Option.some.inj hsame

section Runs

variable (toLowerCase : String → String) (payload : ℕ → Option Value)

/-- Without data the books stay, and the filter follows the search text. -/
theorem filtreAJour_step_of_none {page : Page} {livres : List Value}
    (hfiltre : FiltreAJour toLowerCase page.ecran.component livres)
    (hlivres : ∀ livre ∈ livres, EstLivre livre) {action : Action}
    (hnone : action.arrivee payload = none) :
    FiltreAJour toLowerCase
      (page.step toLowerCase payload action).ecran.component livres := by
  cases action with
  | reponse numero =>
      have hstep : (page.step toLowerCase payload (.reponse numero)).ecran.component =
          page.ecran.component := by
        change payload numero = none at hnone
        simp only [Page.step, Action.evenements, Run.run_cons, Run.run_nil, Ecran.step,
          hnone]
      rw [hstep]
      exact hfiltre
  | rechercher searchQuery => exact filtreAJour_applyFilter toLowerCase hfiltre.1 hlivres
  | onLivreSelected => exact filtreAJour_applyFilter toLowerCase hfiltre.1 hlivres
  | remplir criteres => exact hfiltre
  | filterLivres => exact hfiltre
  | reponseAuteurs data => exact hfiltre

/-- Data replaces the books. -/
theorem filtreAJour_step_of_list (page : Page) {livres : List Value}
    (hlivres : ∀ livre ∈ livres, EstLivre livre) {action : Action}
    (hdata : action.arrivee payload = some (.list livres)) :
    FiltreAJour toLowerCase
      (page.step toLowerCase payload action).ecran.component livres := by
  cases action with
  | reponse numero =>
      have hstep : (page.step toLowerCase payload (.reponse numero)).ecran.component =
          Ecran.applyFilter toLowerCase
            { page.ecran.component with livres := .list livres } := by
        change payload numero = some (.list livres) at hdata
        simp only [Page.step, Action.evenements, Run.run_cons, Run.run_nil, Ecran.step,
          hdata]
      rw [hstep]
      exact filtreAJour_applyFilter toLowerCase rfl hlivres
  | _ => cases hdata

/-- No handler changes the choices. -/
theorem langues_run (actions : List Action) :
    (Run.run (Page.step toLowerCase payload) .initial actions).langues = [] := by
  have hstep : ∀ (page : Page) (action : Action), page.langues = [] → True →
      (page.step toLowerCase payload action).langues = [] := fun _ _ hnone _ => hnone
  exact Run.invariant_run (fun page : Page => page.langues = []) hstep actions .initial rfl
    (Run.permitted_true _ _)

/-- A select without choices is right for an empty list only. -/
theorem aJour_iff {page : Page} (hlangues : page.langues = []) :
    AJour toLowerCase page ↔ FiltreAJour toLowerCase page.ecran.component [] := by
  constructor
  · rintro ⟨livres, hfiltre, -, hchoices⟩
    have hnone : livres = [] := by
      rw [List.eq_nil_iff_forall_not_mem]
      intro livre hlivre
      have hchoice := (hchoices (get livre "langue")).mpr ⟨livre, hlivre, rfl⟩
      rw [hlangues] at hchoice
      exact List.not_mem_nil hchoice
    rw [← hnone]
    exact hfiltre
  · intro hfiltre
    refine ⟨[], hfiltre, ?_, ?_⟩
    · rw [hlangues]
      exact List.nodup_nil
    · simp [hlangues]

variable {payload} (hpayload : ∀ numero data, payload numero = some data → EstCatalogue data)

include hpayload

theorem estCatalogue_arrivee {action : Action} {data : Value}
    (hdata : action.arrivee payload = some data) : EstCatalogue data := by
  cases action with
  | reponse numero => exact hpayload numero data hdata
  | _ => cases hdata

/-- The list of the page follows the catalogue in every run. -/
theorem filtreAJour_run (actions : List Action) :
    ∃ livres, FiltreAJour toLowerCase
      (Run.run (Page.step toLowerCase payload) .initial actions).ecran.component livres := by
  have hall : ∃ livres, FiltreAJour toLowerCase
      (Run.run (Page.step toLowerCase payload) .initial actions).ecran.component livres ∧
        ∀ livre ∈ livres, EstLivre livre := by
    apply Run.invariant_run
      (fun page : Page => ∃ livres, FiltreAJour toLowerCase page.ecran.component livres ∧
        ∀ livre ∈ livres, EstLivre livre) _ actions .initial _ (Run.permitted_true _ _)
    · intro page action hpage _
      obtain ⟨livres, hfiltre, hlivres⟩ := hpage
      cases hdata : action.arrivee payload with
      | none =>
          exact ⟨livres, filtreAJour_step_of_none toLowerCase payload hfiltre hlivres hdata,
            hlivres⟩
      | some data =>
          obtain ⟨books, rfl, hbooks⟩ := estCatalogue_arrivee hpayload hdata
          exact ⟨books, filtreAJour_step_of_list toLowerCase payload page hbooks hdata, hbooks⟩
    · exact ⟨[], ⟨rfl, rfl⟩, fun _ hlivre => absurd hlivre List.not_mem_nil⟩
  obtain ⟨livres, hfiltre, -⟩ := hall
  exact ⟨livres, hfiltre⟩

/-- In every run the list is the filtered catalogue.  The choices of the select
are right throughout a run exactly when no answer of it holds a book. -/
theorem aJour_throughout_iff (actions : List Action) :
    (∀ before, before <+: actions → ∃ livres, FiltreAJour toLowerCase
      (Run.run (Page.step toLowerCase payload) .initial before).ecran.component livres) ∧
    ((∀ before, before <+: actions →
        AJour toLowerCase (Run.run (Page.step toLowerCase payload) .initial before)) ↔
      ∀ action ∈ actions, ∀ data, action.arrivee payload = some data →
        data = .list []) := by
  have hstep : ∀ (page : Page) (action : Action),
      FiltreAJour toLowerCase page.ecran.component [] →
        (FiltreAJour toLowerCase (page.step toLowerCase payload action).ecran.component [] ↔
          ∀ data, action.arrivee payload = some data → data = .list []) := by
    intro page action hpage
    have hnil : ∀ livre ∈ ([] : List Value), EstLivre livre :=
      fun _ hlivre => absurd hlivre List.not_mem_nil
    cases hdata : action.arrivee payload with
    | none =>
        exact iff_of_true
          (filtreAJour_step_of_none toLowerCase payload hpage hnil hdata)
          fun _ hsome => nomatch hsome
    | some data =>
        obtain ⟨books, rfl, hbooks⟩ := estCatalogue_arrivee hpayload hdata
        have hafter := filtreAJour_step_of_list toLowerCase payload page hbooks hdata
        constructor
        · intro hempty other hother
          rw [← Option.some.inj hother, ← hafter.1, hempty.1]
        · intro hall
          rw [← list_injective (hall _ rfl)]
          exact hafter
  have hprefixes := Run.invariant_prefixes_iff
    (fun page : Page => FiltreAJour toLowerCase page.ecran.component []) hstep actions
    .initial ⟨rfl, rfl⟩
  rw [Run.permitted_iff_forall] at hprefixes
  apply And.intro (fun before _ => filtreAJour_run toLowerCase hpayload before)
  rw [← hprefixes]
  apply forall_congr'
  intro before
  rw [aJour_iff toLowerCase (langues_run toLowerCase payload before)]

end Runs

/-- An empty catalogue. -/
theorem aJour_throughout_empty :
    AJour Deroulement.asciiLower
      (Run.run (Page.step Deroulement.asciiLower fun _ => some (.list [])) .initial
        [.reponse 0]) :=
  (@aJour_throughout_iff Deroulement.asciiLower (fun _ => some (.list []))
    (fun _ _ hdata => ⟨[], (Option.some.inj hdata).symm,
      fun _ hlivre => absurd hlivre List.not_mem_nil⟩) [.reponse 0]).2.mpr
    (by
      intro action haction data hdata
      rw [List.mem_singleton.mp haction] at hdata
      exact (Option.some.inj hdata).symm) _ List.prefix_rfl

/-- The first book on the page brings a language that the select does not
offer. -/
theorem first_book_without_choice :
    ¬ ∀ actions : List Action, AJour Deroulement.asciiLower
      (Run.run (Page.step Deroulement.asciiLower fun _ =>
          some (.list [.object [("titre", .str "Emma"), ("langue", .str "EN")]])) .initial
        actions) := by
  intro hall
  obtain ⟨livres, ⟨hlivres, -⟩, -, hchoices⟩ := hall [.reponse 0]
  have hbooks : livres = [.object [("titre", .str "Emma"), ("langue", .str "EN")]] :=
    list_injective (hlivres.symm.trans (by decide))
  have hchoice := (hchoices (some (.str "EN"))).mpr ⟨_, by
    rw [hbooks]
    exact List.mem_singleton_self _, by decide⟩
  exact List.not_mem_nil hchoice

end Bibliotheque.Front
