import Bibliotheque.Api.Listing
import Bibliotheque.Api.Router

/-!
# The book list and the author list of the front end

`LivresListComponent` and `AuteursListComponent` with their templates.  The
typed HTTP call of `ApiService` does not check what it receives, so the
components run on whatever the API sends: a property that is not there is
`undefined`, and the directives of the templates decide what is shown.
-/

namespace Bibliotheque.Front

/-! ## What the browser makes of a payload -/

/-- `json_encode` writes a JSON array for a PHP array with the keys 0, 1, 2 and
so on, and a JSON object for any other. -/
def isList (entries : List (Key × Value)) : Bool :=
  entries.map Prod.fst = (List.range entries.length).map fun index : ℕ => Key.int index

/-- The elements of a JSON array. -/
def array : Value → Option (List Value)
  | .arr entries => if isList entries then some (entries.map Prod.snd) else none
  | _ => none

/-- `payload.name` of a JSON object; `none` is `undefined`. -/
def get (payload : Value) (name : String) : Option Value :=
  match payload with
  | .arr entries => if isList entries then none else entries.lookup (.str name)
  | _ => none

/-- The truth value of a condition.  The text `0` is true here. -/
def truthy : Option Value → Bool
  | none | some .null => false
  | some (.bool value) => value
  | some (.int value) => value != 0
  | some (.float value) => !value.zero
  | some (.str value) => value != ""
  | some (.arr _) => true

/-- `value.length > 0`.  No object that the API sends has a key `length`. -/
def hasLength : Option Value → Bool
  | some (.str value) => value != ""
  | some (.arr entries) => isList entries && !entries.isEmpty
  | _ => false

mutual

/-- `String(value)`. -/
def stringify : Value → String
  | .null => "null"
  | .bool value => if value then "true" else "false"
  | .int value => toString value
  | .float value => value.text
  | .str value => value
  | .arr entries =>
      if isList entries then String.intercalate "," (stringifyItems entries)
      else "[object Object]"

def stringifyItems : List (Key × Value) → List String
  | [] => []
  | (_, .null) :: entries => "" :: stringifyItems entries
  | (_, value) :: entries => stringify value :: stringifyItems entries

end

/-- A value in a template, which shows null and undefined as nothing. -/
def interpolate : Option Value → String
  | none | some .null => ""
  | some value => stringify value

/-- A value in a template literal. -/
def literal (value : Option Value) : String :=
  (value.map stringify).getD "undefined"

/-- `left === right`.  Two arrays or objects of a payload are never one. -/
def strictEq : Option Value → Option Value → Bool
  | some (.arr _), _ => false
  | left, right => left = right

inductive RenderError where
  /-- `NgFor` got a value that is not iterable. -/
  | missingDiffer
  /-- A method that the value does not have. -/
  | notAFunction (name : String)
  deriving DecidableEq

/-- The items of `*ngFor="let item of value"`.  Without a true value there is
nothing to iterate over; a text is not an iterable object. -/
def ngFor (value : Option Value) : Except RenderError (List Value) :=
  if truthy value then
    match value.bind array with
    | some items => .ok items
    | none => .error .missingDiffer
  else .ok []

/-! ## The book list -/

/-- The line of one book: its link text and the names in its spans. -/
structure VueLivre where
  titre : String
  langue : String
  auteurs : List String
  deriving DecidableEq

structure LivresListComponent where
  livres : Value := .list []
  auteurs : Value := .list []
  filteredLivres : Value := .list []
  searchQuery : String := ""

namespace LivresListComponent

section Filter

/- `String.prototype.toLowerCase`. -/
variable (toLowerCase : String → String)

/-- `livre.titre.toLowerCase().includes(this.searchQuery.toLowerCase())`. -/
def titreIncludes (searchQuery : String) (livre : Value) : Except RenderError Bool :=
  match get livre "titre" with
  | some (.str titre) =>
      .ok (decide ((toLowerCase searchQuery).toList <:+: (toLowerCase titre).toList))
  | _ => .error (.notAFunction "toLowerCase")

def applyFilter (component : LivresListComponent) :
    Except RenderError LivresListComponent :=
  if component.searchQuery = "" then
    .ok { component with filteredLivres := component.livres }
  else
    match array component.livres with
    | none => .error (.notAFunction "filter")
    | some livres => do
        let kept ← livres.filterM (titreIncludes toLowerCase component.searchQuery)
        return { component with filteredLivres := .list kept }

/-- The callback of `getLivres` in `ngOnInit`. -/
def recevoirLivres (data : Value) (component : LivresListComponent) :
    Except RenderError LivresListComponent :=
  applyFilter toLowerCase { component with livres := data }

end Filter

/-- The callback of `getAuteurs` in `ngOnInit`. -/
def recevoirAuteurs (data : Value) (component : LivresListComponent) :
    LivresListComponent :=
  { component with auteurs := data }

def getAuteurName (component : LivresListComponent) (auteurId : Value) :
    Except RenderError String :=
  match array component.auteurs with
  | none => .error (.notAFunction "find")
  | some auteurs =>
      match auteurs.find? fun auteur => strictEq (get auteur "id") (some auteurId) with
      | some auteur =>
          .ok (literal (get auteur "nom") ++ " " ++ literal (get auteur "prenom"))
      | none => .ok ""

/-- The template of one line. -/
def vueLivre (component : LivresListComponent) (livre : Value) :
    Except RenderError VueLivre := do
  let auteurIds ← ngFor (get livre "auteurIds")
  return {
    titre := interpolate (get livre "titre")
    langue := interpolate (get livre "langue")
    auteurs := ← auteurIds.mapM component.getAuteurName }

def template (component : LivresListComponent) : Except RenderError (List VueLivre) := do
  let livres ← ngFor (some component.filteredLivres)
  livres.mapM component.vueLivre

end LivresListComponent

/-! ## The author list -/

/-- The line of one author: its text and the options for its books. -/
structure VueAuteur where
  texte : String
  options : List String
  deriving DecidableEq

structure AuteursListComponent where
  auteurs : Value := .list []

namespace AuteursListComponent

/-- The callback of `getAuteurs` in `ngOnInit`. -/
def recevoirAuteurs (data : Value) (component : AuteursListComponent) :
    AuteursListComponent :=
  { component with auteurs := data }

/-- The select of one author, without its placeholder option. -/
def options (auteur : Value) : Except RenderError (List String) :=
  if truthy (get auteur "livres") && hasLength (get auteur "livres") then do
    let livres ← ngFor (get auteur "livres")
    return livres.map fun livre => interpolate (some livre)
  else .ok []

/-- The template of one line. -/
def vueAuteur (auteur : Value) : Except RenderError VueAuteur := do
  return {
    texte := interpolate (get auteur "nom") ++ " " ++ interpolate (get auteur "prenom") ++
      " - " ++ interpolate (get auteur "nationalite") ++
      " (" ++ interpolate (get auteur "description") ++ ")"
    options := ← options auteur }

def template (component : AuteursListComponent) : Except RenderError (List VueAuteur) := do
  let auteurs ← ngFor (some component.auteurs)
  auteurs.mapM vueAuteur

end AuteursListComponent

/-! ## Once both listings have arrived -/

section Loaded

variable (normalize : Date → String) (toLowerCase : String → String) (base : Base)

/-- The book list after both of its requests, the books first. -/
def livresList : Except RenderError LivresListComponent := do
  let component ← LivresListComponent.recevoirLivres toLowerCase
    (LivreController.index normalize base.toTables).body {}
  return component.recevoirAuteurs (AuteurController.index normalize base.toTables).body

def auteursList : AuteursListComponent :=
  AuteursListComponent.recevoirAuteurs
    (AuteurController.index normalize base.toTables).body {}

/-- The book list shows each book with the names of its linked authors. -/
def ShowsLivres : Prop :=
  ∃ vues, (livresList normalize toLowerCase base >>= (·.template)) = .ok vues ∧
    List.Forall₂ (fun (row : ℕ × Livre) (vue : VueLivre) =>
      vue.titre = row.2.titre ∧ vue.auteurs.Perm
        ((base.auteursDe row.1).map fun auteur => auteur.nom ++ " " ++ auteur.prenom))
      base.livre.rows vues

/-- The author list offers each author's linked books by their titles. -/
def ShowsAuteurs : Prop :=
  ∃ vues, (auteursList normalize base).template = .ok vues ∧
    List.Forall₂ (fun (row : ℕ × Auteur) (vue : VueAuteur) =>
      vue.options.Perm ((base.livresDe row.1).map (·.titre))) base.auteur.rows vues

end Loaded

/-! ## Rendering a list of lines -/

theorem array_list (values : List Value) : array (.list values) = some values := by
  have hkeys : isList (values.zipIdx.map fun item => (Key.int item.2, item.1)) = true := by
    have hindices : values.zipIdx.map Prod.snd = List.range values.length := by
      rw [List.zipIdx_map_snd, List.range_eq_range']
    simp only [isList, List.map_map, List.length_map, List.length_zipIdx,
      decide_eq_true_eq, ← hindices]
    rfl
  have hvalues : (values.zipIdx.map fun item => (Key.int item.2, item.1)).map Prod.snd =
      values := by
    rw [List.map_map]
    exact List.zipIdx_map_fst 0 values
  simp only [array, Value.list, hkeys, if_true, hvalues]

/-- `NgFor` over a JSON array. -/
theorem ngFor_list (values : List Value) : ngFor (some (.list values)) = .ok values := by
  simp only [ngFor, Option.bind_some, array_list]
  rfl

/-- A list is rendered with the wanted lines iff each of them is. -/
theorem exists_mapM_iff {Row Vue : Type} {entry : Row → Value}
    {vue : Value → Except RenderError Vue} {wanted : Row → Vue → Prop}
    (rows : List Row) :
    (∃ vues, (rows.map entry).mapM vue = .ok vues ∧ List.Forall₂ wanted rows vues) ↔
      ∀ row ∈ rows, ∃ shown, vue (entry row) = .ok shown ∧ wanted row shown := by
  induction rows with
  | nil =>
      simp only [List.map_nil, List.mapM_nil, List.not_mem_nil, false_implies,
        implies_true, iff_true]
      exact ⟨[], rfl, .nil⟩
  | cons row rows ih =>
      rw [List.forall_mem_cons, ← ih, List.map_cons, List.mapM_cons]
      constructor
      · rintro ⟨vues, hvues, hwanted⟩
        cases hfirst : vue (entry row) with
        | error raised =>
            rw [hfirst] at hvues
            cases hvues
        | ok shown =>
            cases hrest : (rows.map entry).mapM vue with
            | error raised =>
                rw [hfirst, hrest] at hvues
                cases hvues
            | ok others =>
                rw [hfirst, hrest] at hvues
                cases hvues
                cases hwanted with
                | cons hhead htail =>
                    exact ⟨⟨shown, rfl, hhead⟩, others, rfl, htail⟩
      · rintro ⟨⟨shown, hshown, hhead⟩, others, hothers, htail⟩
        refine ⟨shown :: others, ?_, .cons hhead htail⟩
        rw [hshown, hothers]
        rfl

/-! ## What the lists show -/

section Shown

variable (normalize : Date → String) (toLowerCase : String → String) (base : Base)

/-- The entries of the book list have no key `auteurIds`, so a line shows no
author. -/
theorem vueLivre_entry (component : LivresListComponent) (id : ℕ) (livre : Livre) :
    component.vueLivre (LivreController.entry normalize base.toTables id livre) =
      .ok ⟨livre.titre, livre.langue, []⟩ := rfl

/-- A text is no list of options: the select of an author with books is not
rendered, or its loop fails. -/
theorem options_entry (id : ℕ) (auteur : Auteur) :
    AuteursListComponent.options
        (AuteurController.entry normalize base.toTables id auteur) =
      if implode ((base.livresDe id).map (·.titre)) = "" then .ok []
      else .error .missingDiffer := by
  have hget : get (AuteurController.entry normalize base.toTables id auteur) "livres" =
      some (.str (implode ((base.livresDe id).map (·.titre)))) := rfl
  rw [AuteursListComponent.options, hget]
  by_cases hempty : implode ((base.livresDe id).map (·.titre)) = ""
  · simp [truthy, hempty]
  · simp [truthy, hasLength, hempty, ngFor, array]

/-- The book list is right iff no book has an author. -/
theorem showsLivres_iff :
    ShowsLivres normalize toLowerCase base ↔ base.livreAuteur = [] := by
  have htemplate : (livresList normalize toLowerCase base >>= (·.template)) =
      (base.livre.rows.map fun row =>
        LivreController.entry normalize base.toTables row.1 row.2).mapM
        (LivresListComponent.vueLivre {
          livres := (LivreController.index normalize base.toTables).body
          auteurs := (AuteurController.index normalize base.toTables).body
          filteredLivres := (LivreController.index normalize base.toTables).body }) := by
    change (ngFor (some (.list _)) >>= _) = _
    rw [ngFor_list]
    rfl
  rw [ShowsLivres, htemplate, exists_mapM_iff, List.eq_nil_iff_forall_not_mem]
  simp only [vueLivre_entry, Except.ok.injEq, exists_eq_left', true_and,
    List.nil_perm, List.map_eq_nil_iff, base.valid.auteursDe_eq_nil_iff]
  constructor
  · intro hnone link hlink
    obtain ⟨livre, hlivre⟩ :=
      Table.exists_find_of_mem_ids (base.valid.livreAuteur_livre link hlink)
    exact hnone _ ((Table.find_eq_some_iff _ _ _).mp hlivre) link hlink rfl
  · intro hnone row _ link hlink
    exact absurd hlink (hnone link)

/-- The author list is right iff no author has a book. -/
theorem showsAuteurs_iff :
    ShowsAuteurs normalize base ↔ base.livreAuteur = [] := by
  have htemplate : (auteursList normalize base).template =
      (base.auteur.rows.map fun row =>
        AuteurController.entry normalize base.toTables row.1 row.2).mapM
        AuteursListComponent.vueAuteur := by
    change (ngFor (some (.list _)) >>= _) = _
    rw [ngFor_list]
    rfl
  rw [ShowsAuteurs, htemplate, exists_mapM_iff, List.eq_nil_iff_forall_not_mem]
  constructor
  · intro hall link hlink
    obtain ⟨auteur, hauteur⟩ :=
      Table.exists_find_of_mem_ids (base.valid.livreAuteur_auteur link hlink)
    obtain ⟨shown, hshown, hoptions⟩ :=
      hall _ ((Table.find_eq_some_iff _ _ _).mp hauteur)
    rw [AuteursListComponent.vueAuteur, options_entry] at hshown
    split at hshown
    · rw [← Except.ok.inj hshown, List.nil_perm, List.map_eq_nil_iff,
        base.valid.livresDe_eq_nil_iff] at hoptions
      exact hoptions link hlink rfl
    · cases hshown
  · intro hnone row _
    have hempty : base.livresDe row.1 = [] :=
      (base.valid.livresDe_eq_nil_iff row.1).mpr fun link hlink =>
        absurd hlink (hnone link)
    rw [AuteursListComponent.vueAuteur, options_entry, hempty]
    exact ⟨_, rfl, List.Perm.refl _⟩

/-- The two lists show what is linked iff nothing is. -/
theorem lists_show_links_iff :
    ShowsLivres normalize toLowerCase base ∧ ShowsAuteurs normalize base ↔
      base.livreAuteur = [] := by
  rw [showsLivres_iff, showsAuteurs_iff, and_self]

end Shown

/-- The dates of the sample library, on a server in UTC. -/
def sampleNormalize (_ : Date) : String := "2024-02-09T00:00:00+00:00"

/-- The sample book shows no author, and the options of its author are an
error. -/
theorem lists_miss_sample_link :
    ¬ ShowsLivres sampleNormalize String.toLower Base.sample ∧
      ¬ ShowsAuteurs sampleNormalize Base.sample ∧
      (livresList sampleNormalize String.toLower Base.sample >>= (·.template)) =
        .ok [⟨"Emma", "EN", []⟩] ∧
      (auteursList sampleNormalize Base.sample).template = .error .missingDiffer := by
  refine ⟨?_, ?_, by decide, by decide⟩
  · rw [showsLivres_iff]
    decide
  · rw [showsAuteurs_iff]
    decide

end Bibliotheque.Front
