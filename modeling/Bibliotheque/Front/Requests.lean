import Bibliotheque.Core.Run
import Bibliotheque.Front.Lists

/-!
# The requests of the book list

`LivresListComponent` sends a request when it is created and another one at each
call of `filterLivres`.  All of them are subscribed with the same callback, which
overwrites the list; none is numbered or cancelled, and a request that fails has
no callback at all.  The answers may arrive in any order, between any two
actions of the user.
-/

namespace Bibliotheque.Front

/-! ## What is sent -/

/-- A `GET` of the HTTP client. -/
structure HttpGet where
  url : String
  params : List (String × String)
  deriving DecidableEq

/-- The object `params` of `filterLivres`. -/
structure Params where
  langue : Option String
  size : ℤ
  offset : ℤ
  deriving DecidableEq

namespace ApiService

def apiUrl : String := "https://127.0.0.1:8008/api"

def getLivres : HttpGet where
  url := apiUrl ++ "/livre"
  params := []

/-- The keys of `params` in the order in which they were set. -/
def getLivresFiltered (params : Params) : HttpGet where
  url := apiUrl
  params := params.langue.toList.map (fun langue => ("langue", langue)) ++
    [("size", toString params.size), ("offset", toString params.offset)]

end ApiService

/-- The fields of the form above the list. -/
structure Criteres where
  selectedLangue : String := ""
  size : ℤ := 10
  offset : ℤ := 0

/-- The parameters that `filterLivres` makes of the form. -/
def Criteres.params (criteres : Criteres) : Params where
  langue := if criteres.selectedLangue = "" then none else some criteres.selectedLangue
  size := criteres.size
  offset := (criteres.offset - 1) * criteres.size

/-! ## The screen -/

/-- The component, the form, the requests sent so far and the numbers of those
that are not answered yet. -/
structure Ecran where
  component : LivresListComponent
  criteres : Criteres
  emises : List HttpGet
  enAttente : List ℕ

/-- What happens to the component. -/
inductive Evenement where
  /-- `[(ngModel)]="searchQuery"`. -/
  | saisir (searchQuery : String)
  | onSearchChange
  | onLivreSelected
  /-- The other fields of the form. -/
  | remplir (criteres : Criteres)
  | filterLivres
  /-- The answer to the request with this number. -/
  | reponse (numero : ℕ)
  | reponseAuteurs (data : Value)

namespace Ecran

/-- After `ngOnInit`. -/
def initial : Ecran where
  component := {}
  criteres := {}
  emises := [ApiService.getLivres]
  enAttente := [0]

/-- A request is answered at most once. -/
def Permis (ecran : Ecran) : Evenement → Prop
  | .reponse numero => numero ∈ ecran.enAttente
  | _ => True

instance (ecran : Ecran) (evenement : Evenement) : Decidable (ecran.Permis evenement) :=
  match evenement with
  | .reponse _ => inferInstanceAs (Decidable (_ ∈ _))
  | .saisir _ | .onSearchChange | .onLivreSelected | .remplir _ | .filterLivres
  | .reponseAuteurs _ => inferInstanceAs (Decidable True)

/- `String.prototype.toLowerCase`, and the JSON data of each answer; an answer
without data is an HTTP error. -/
variable (toLowerCase : String → String) (payload : ℕ → Option Value)

/-- A call of `applyFilter`.  If it throws, the component stays as it is. -/
def applyFilter (component : LivresListComponent) : LivresListComponent :=
  (component.applyFilter toLowerCase).toOption.getD component

def step (ecran : Ecran) : Evenement → Ecran
  | .saisir searchQuery =>
      { ecran with component := { ecran.component with searchQuery := searchQuery } }
  | .onSearchChange | .onLivreSelected =>
      { ecran with component := applyFilter toLowerCase ecran.component }
  | .remplir criteres => { ecran with criteres := criteres }
  | .filterLivres => { ecran with
      emises := ecran.emises ++ [ApiService.getLivresFiltered ecran.criteres.params]
      enAttente := ecran.enAttente ++ [ecran.emises.length] }
  | .reponse numero =>
      let component := match payload numero with
        | some data => applyFilter toLowerCase { ecran.component with livres := data }
        | none => ecran.component
      { ecran with component := component, enAttente := ecran.enAttente.erase numero }
  | .reponseAuteurs data =>
      { ecran with component := ecran.component.recevoirAuteurs data }

end Ecran

/-! ## The search filter -/

section Filter

variable (toLowerCase : String → String)

/-- The books of a list whose title contains the text. -/
def searchFilter (texte : String) (livres : Value) : Except RenderError Value :=
  if texte = "" then .ok livres
  else
    match array livres with
    | none => .error (.notAFunction "filter")
    | some livres => do
        let kept ← livres.filterM (LivresListComponent.titreIncludes toLowerCase texte)
        return .list kept

theorem applyFilter_eq (component : LivresListComponent) :
    component.applyFilter toLowerCase =
      (searchFilter toLowerCase component.searchQuery component.livres).map
        fun filtered => { component with filteredLivres := filtered } := by
  by_cases hquery : component.searchQuery = ""
  · simp only [LivresListComponent.applyFilter, searchFilter, hquery, if_true]
    rfl
  · cases harray : array component.livres with
    | none =>
        simp only [LivresListComponent.applyFilter, searchFilter, hquery, if_false, harray]
        rfl
    | some livres =>
        simp only [LivresListComponent.applyFilter, searchFilter, hquery, if_false, harray]
        cases livres.filterM
          (LivresListComponent.titreIncludes toLowerCase component.searchQuery) <;> rfl

theorem livres_applyFilter (component : LivresListComponent) :
    (Ecran.applyFilter toLowerCase component).livres = component.livres := by
  rw [Ecran.applyFilter, applyFilter_eq]
  cases searchFilter toLowerCase component.searchQuery component.livres <;> rfl

theorem searchQuery_applyFilter (component : LivresListComponent) :
    (Ecran.applyFilter toLowerCase component).searchQuery = component.searchQuery := by
  rw [Ecran.applyFilter, applyFilter_eq]
  cases searchFilter toLowerCase component.searchQuery component.livres <;> rfl

theorem filteredLivres_applyFilter {component : LivresListComponent} {filtered : Value}
    (hfiltered : searchFilter toLowerCase component.searchQuery component.livres =
      .ok filtered) :
    (Ecran.applyFilter toLowerCase component).filteredLivres = filtered := by
  rw [Ecran.applyFilter, applyFilter_eq, hfiltered]
  rfl

end Filter

/-! ## What a run comes to -/

/-- The answers in the order of their arrival, the search text, and the search
text as it was when the filter last ran. -/
structure Suivi where
  arrivees : List ℕ := []
  texte : String := ""
  filtre : String := ""

namespace Suivi

variable (payload : ℕ → Option Value)

def step (suivi : Suivi) : Evenement → Suivi
  | .saisir searchQuery => { suivi with texte := searchQuery }
  | .onSearchChange | .onLivreSelected => { suivi with filtre := suivi.texte }
  | .reponse numero => { suivi with
      arrivees := suivi.arrivees ++ [numero]
      filtre := if (payload numero).isSome then suivi.texte else suivi.filtre }
  | .remplir _ | .filterLivres | .reponseAuteurs _ => suivi

/-- The data that arrived last. -/
def derniere (suivi : Suivi) : Value :=
  (suivi.arrivees.filterMap payload).getLast?.getD (.list [])

end Suivi

/-- The screen is where the account of the run says. -/
structure Suit (toLowerCase : String → String) (payload : ℕ → Option Value)
    (ecran : Ecran) (suivi : Suivi) : Prop where
  answered : (suivi.arrivees ++ ecran.enAttente).Perm (List.range ecran.emises.length)
  livres : ecran.component.livres = suivi.derniere payload
  searchQuery : ecran.component.searchQuery = suivi.texte
  filteredLivres : ∀ filtered,
    searchFilter toLowerCase suivi.filtre ecran.component.livres = .ok filtered →
      ecran.component.filteredLivres = filtered

namespace Suit

variable {toLowerCase : String → String} {payload : ℕ → Option Value}
variable {ecran : Ecran} {suivi : Suivi}

theorem initial : Suit toLowerCase payload .initial {} where
  answered := List.Perm.refl _
  livres := rfl
  searchQuery := rfl
  filteredLivres := by
    intro filtered hfiltered
    cases hfiltered
    rfl

/-- `applyFilter` brings the filtered list up to date. -/
theorem applyFilter (hsuit : Suit toLowerCase payload ecran suivi) :
    Suit toLowerCase payload
      { ecran with component := Ecran.applyFilter toLowerCase ecran.component }
      { suivi with filtre := suivi.texte } where
  answered := hsuit.answered
  livres := (livres_applyFilter toLowerCase ecran.component).trans hsuit.livres
  searchQuery := (searchQuery_applyFilter toLowerCase ecran.component).trans
    hsuit.searchQuery
  filteredLivres := by
    intro filtered hfiltered
    rw [livres_applyFilter, ← hsuit.searchQuery] at hfiltered
    exact filteredLivres_applyFilter toLowerCase hfiltered

/-- The answered request leaves the waiting ones. -/
theorem answered_reponse (hsuit : Suit toLowerCase payload ecran suivi) {numero : ℕ}
    (hattente : numero ∈ ecran.enAttente) :
    (suivi.arrivees ++ [numero] ++ ecran.enAttente.erase numero).Perm
      (List.range ecran.emises.length) := by
  rw [List.append_assoc]
  exact ((List.perm_cons_erase hattente).symm.append_left suivi.arrivees).trans
    hsuit.answered

/-- An answer with data overwrites the list and runs the filter. -/
theorem reponse_data (hsuit : Suit toLowerCase payload ecran suivi) {numero : ℕ}
    (hattente : numero ∈ ecran.enAttente) {data : Value} (hdata : payload numero = some data) :
    Suit toLowerCase payload (ecran.step toLowerCase payload (.reponse numero))
      (suivi.step payload (.reponse numero)) := by
  have hstep : ecran.step toLowerCase payload (.reponse numero) =
      { ecran with
        component := Ecran.applyFilter toLowerCase { ecran.component with livres := data }
        enAttente := ecran.enAttente.erase numero } := by
    simp only [Ecran.step, hdata]
  rw [hstep]
  constructor
  case answered => exact hsuit.answered_reponse hattente
  case livres =>
    rw [livres_applyFilter]
    simp [Suivi.derniere, Suivi.step, List.filterMap_append, hdata]
  case searchQuery =>
    rw [searchQuery_applyFilter]
    exact hsuit.searchQuery
  case filteredLivres =>
    intro filtered hfiltered
    rw [livres_applyFilter] at hfiltered
    simp only [Suivi.step, hdata, Option.isSome_some, if_true, ← hsuit.searchQuery]
      at hfiltered
    exact filteredLivres_applyFilter toLowerCase hfiltered

/-- A failed request changes nothing but the waiting list. -/
theorem reponse_erreur (hsuit : Suit toLowerCase payload ecran suivi) {numero : ℕ}
    (hattente : numero ∈ ecran.enAttente) (herreur : payload numero = none) :
    Suit toLowerCase payload (ecran.step toLowerCase payload (.reponse numero))
      (suivi.step payload (.reponse numero)) := by
  have hstep : ecran.step toLowerCase payload (.reponse numero) =
      { ecran with enAttente := ecran.enAttente.erase numero } := by
    simp only [Ecran.step, herreur]
  rw [hstep]
  constructor
  case answered => exact hsuit.answered_reponse hattente
  case livres =>
    rw [hsuit.livres]
    simp [Suivi.derniere, Suivi.step, List.filterMap_append, herreur]
  case searchQuery => exact hsuit.searchQuery
  case filteredLivres =>
    intro filtered hfiltered
    simp only [Suivi.step, herreur, Option.isSome_none, Bool.false_eq_true, if_false]
      at hfiltered
    exact hsuit.filteredLivres filtered hfiltered

theorem step (hsuit : Suit toLowerCase payload ecran suivi) (evenement : Evenement)
    (hpermis : ecran.Permis evenement) :
    Suit toLowerCase payload (ecran.step toLowerCase payload evenement)
      (suivi.step payload evenement) := by
  cases evenement with
  | saisir searchQuery => exact { hsuit with searchQuery := rfl }
  | onSearchChange => exact hsuit.applyFilter
  | onLivreSelected => exact hsuit.applyFilter
  | remplir criteres => exact { hsuit with }
  | filterLivres =>
      refine { hsuit with answered := ?_ }
      simp only [Ecran.step, Suivi.step, List.length_append, List.length_singleton,
        List.range_succ, ← List.append_assoc]
      exact hsuit.answered.append_right _
  | reponse numero =>
      cases hpayload : payload numero with
      | some data => exact hsuit.reponse_data hpermis hpayload
      | none => exact hsuit.reponse_erreur hpermis hpayload
  | reponseAuteurs data => exact { hsuit with }

end Suit

/-! ## Runs in which every request is answered -/

/-- A run of the component until the last answer. -/
structure Deroulement (toLowerCase : String → String) where
  payload : ℕ → Option Value
  evenements : List Evenement
  permis : Run.Permitted (Ecran.step toLowerCase payload) Ecran.Permis .initial evenements
  answered : (Run.run (Ecran.step toLowerCase payload) .initial evenements).enAttente = []

namespace Deroulement

variable {toLowerCase : String → String} (deroulement : Deroulement toLowerCase)

def fin : Ecran :=
  Run.run (Ecran.step toLowerCase deroulement.payload) .initial deroulement.evenements

def suivi : Suivi :=
  Run.run (Suivi.step deroulement.payload) {} deroulement.evenements

/-- The list is that of the request sent last, filtered by the search text. -/
def MontreDerniereEmise : Prop :=
  deroulement.payload (deroulement.fin.emises.length - 1) =
      some deroulement.fin.component.livres ∧
    searchFilter toLowerCase deroulement.fin.component.searchQuery
      deroulement.fin.component.livres = .ok deroulement.fin.component.filteredLivres

/-- Every request was answered once.  The list is the data that arrived last, and
the filtered list is what the search text of the last filtering keeps of it. -/
theorem montre_derniere_arrivee :
    deroulement.suivi.arrivees.Perm (List.range deroulement.fin.emises.length) ∧
      deroulement.fin.component.livres =
        deroulement.suivi.derniere deroulement.payload ∧
      deroulement.fin.component.searchQuery = deroulement.suivi.texte ∧
      ∀ filtered, searchFilter toLowerCase deroulement.suivi.filtre
          deroulement.fin.component.livres = .ok filtered →
        deroulement.fin.component.filteredLivres = filtered := by
  have hsuit : Suit toLowerCase deroulement.payload deroulement.fin deroulement.suivi :=
    Run.simulation_run (Suit toLowerCase deroulement.payload)
      (fun _ _ evenement hrelated hpermis => hrelated.step evenement hpermis)
      deroulement.evenements _ _ Suit.initial deroulement.permis
  have hanswered := hsuit.answered
  have hwaiting : deroulement.fin.enAttente = [] := deroulement.answered
  rw [hwaiting, List.append_nil] at hanswered
  exact ⟨hanswered, hsuit.livres, hsuit.searchQuery, hsuit.filteredLivres⟩

/-- `toLowerCase` on a text of ASCII characters. -/
def asciiLower (text : String) : String := String.ofList (text.toList.map Char.toLower)

/-- The whole catalogue for the first request, nothing for the second. -/
def emmaPuisRien : ℕ → Option Value
  | 0 => some (.list [.object [("titre", .str "Emma")]])
  | 1 => some (.list [])
  | _ => none

/-- The answer to `filterLivres` overtakes that of `ngOnInit`. -/
def croise : Deroulement asciiLower where
  payload := emmaPuisRien
  evenements := [.filterLivres, .reponse 1, .reponse 0]
  permis := ⟨trivial, by decide, by decide, trivial⟩
  answered := by decide

/-- A text is typed after the answer, and the field is not left. -/
def saisie : Deroulement asciiLower where
  payload := emmaPuisRien
  evenements := [.reponse 0, .saisir "Ulysse"]
  permis := ⟨by decide, trivial, trivial⟩
  answered := by decide

/-- In the first run the list is that of the first request; in the second the
filtered list is not that of the search text. -/
theorem croise_montre_premiere :
    ¬ croise.MontreDerniereEmise ∧ ¬ saisie.MontreDerniereEmise := by
  constructor
  · intro hmontre
    exact absurd hmontre.1 (by decide)
  · intro hmontre
    exact absurd hmontre.2 (by decide)

end Deroulement

end Bibliotheque.Front
