import Bibliotheque.Api.Modifications
import Bibliotheque.Api.Serial

/-!
# Any number of clients at once

The clients create, update and delete rows of all resources, with their reads and
flushes in any order.  Each accepted flush still makes one entry in the library: a
creation files its row under the next number, a deletion removes what its walk marked
in the states that it met, and an update rewrites the columns in which its row differs
from the snapshot of what it read.
-/

namespace Bibliotheque

open Program Bibliotheque.Action

/-! ## What a request reads -/

/-- The state that a `find` meets, if it reads at all, and those of the reads after it. -/
def Tache.rencontre (connus : List ℕ) (id : Value) (number : ℕ) (lus : List Base) :
    Option Base × List Base :=
  if connu connus id number then (none, lus) else (lus.head?, lus.tail)

/-- The reservation of an update as the unit of work has it after these reads. -/
def ReservationsController.relue (runtime : Runtime) (id : ℕ) (data : Value) (lus : List Base)
    (row : Reservations) : Reservations :=
  let reservateurId := data.field "reservateurId"
  let livreId := data.field "livreId"
  match (received reservateurId runtime.rowId).join, (received livreId runtime.rowId).join with
  | some reservateur, some livre =>
      let first := Tache.rencontre [row.reservateur] (reservateurId.getD .null) reservateur
        lus.tail
      let second := Tache.rencontre (row.livre :: joints id reservateur first.1)
        (livreId.getD .null) livre first.2
      relire .livre id livre (relire .reservateur id reservateur row first.1) second.1
  | _, _ => row

namespace Ressource

/-- The row of an update as the unit of work has it after these reads. -/
def relue (runtime : Runtime) (id : ℕ) (data : Value) (lus : List Base) :
    (ressource : Ressource) → ressource.Contenu → ressource.Contenu
  | reservations => ReservationsController.relue runtime id data lus
  | livre | categorie | auteur | emprunt | adherent => fun row => row

/-- The row that the first read of an update finds, as it is at the flush. -/
def chargee (runtime : Runtime) (id : ℕ) (data : Value) (ressource : Ressource)
    (lus : List Base) : Option ressource.Contenu := do
  let lu ← lus.head?
  let row ← (ressource.table lu.toTables).find id
  return ressource.relue runtime id data lus row

end Ressource

/-! ## The entry of a request -/

namespace Client

/-- The entry of a request that has read these states. -/
def Inscrit (runtime : Runtime) (lus : List Base) (numero : ℕ) (entry : Inscription) :
    Client → Prop
  | ecrire (.delete ressource id) => ∃ marche,
      Marche.rejouee (ressource.ligne id) lus = some marche ∧ marche.pile = [] ∧
        entry = .remove fun other => {number | other.ligne number ∈ marche.vus}
  | ecrire commande => ∃ lu ∈ lus, commande.requete.inscription runtime lu.fonds numero = some entry
  | creerAuteur data => ∃ auteur, AuteurController.decrit data = some auteur ∧
      entry = .add .auteur numero auteur.store {link | link.2 = numero ∧
        link.1 ∈ AuteurController.livresTrouves runtime (AuteurController.livreIds data) lus []}
  | modifier ressource id data => ∃ row charge,
      ressource.chargee runtime id data lus = some row ∧ charge ∈ lus ∧
        entry = .change ressource id
          (ressource.store ∘ ressource.ecrit data row (ressource.reecrit runtime data row))
          {link | ressource = .livre ∧ link.1 = id ∧
            LivreController.Names runtime data link.2 ∧ link ∉ charge.livreAuteur}

/-- What is left of a request that has read the states `lus` ends without success, or
its flush makes the entry of the request, whatever the state it meets. -/
def Promet (runtime : Runtime) (client : Client) : List Base → Tache → Prop
  | _, .terminee outcome => ¬ outcome.Success
  | lus, .lecture suite => ∀ base, Promet runtime client (lus ++ [base]) (suite base)
  | lus, .ecriture session answer =>
      ∀ base final, flush { session with base := base } = .ok () final →
        (Outcome.response (answer final)).Success ∧
          ∃ entry, client.Inscrit runtime lus (Outcome.response (answer final)).numero entry ∧
            Archive.Step base.fonds entry final.base.fonds

/-- The same for all requests: a removal is on the walk that these states give. -/
def Tient (runtime : Runtime) (client : Client) (lus : List Base) : Processus → Prop
  | .tache tache => client.Promet runtime lus tache
  | .suppression ressource id => client = ecrire (.delete ressource id) ∧ lus = []
  | .marche ressource etat => ∃ id, client = ecrire (.delete ressource id) ∧
      Marche.rejouee (ressource.ligne id) lus = some etat

end Client

/-! ## The flush of an update -/

namespace Ressource

theorem store_eq_of_mem (base : Base) (ressource : Ressource) :
    ∀ row ∈ (ressource.table base.toTables).rows, ressource.store row.2 = row.2 := by
  intro row hrow
  cases ressource with
  | livre => exact (base.valid.livre_fits row hrow).store_eq
  | categorie => exact (base.valid.categorie_fits row hrow).store_eq
  | auteur => exact (base.valid.auteur_fits row hrow).store_eq
  | emprunt | reservations => rfl
  | adherent => exact (base.valid.utilisateur_fits row hrow).store_eq

/-- The columns of the other tables are kept as they are. -/
theorem store_set (base : Base) (ressource : Ressource) (table : Table ressource.Contenu)
    (liens : List (ℕ × ℕ)) :
    Tables.store { ressource.set base.toTables table with livreAuteur := liens } =
      { ressource.set base.toTables (table.map ressource.store) with livreAuteur := liens } := by
  have hrest := base.valid.store_eq
  apply tables_ext
  · intro other
    have hkept : other.table base.toTables.store = other.table base.toTables := by rw [hrest]
    have hstored : ∀ tables : Tables,
        other.table tables.store = (other.table tables).map other.store := by
      intro tables
      cases other with
      | emprunt | reservations => exact (Table.map_eq_self fun _ _ => rfl).symm
      | _ => rfl
    simp only [hstored, table_livreAuteur]
    by_cases hother : other = ressource
    · subst hother
      simp only [table_set_self]
    · simp only [table_set_of_ne _ hother]
      rw [← hstored, hkept]
  · rfl

theorem store_modify (base : Base) (ressource : Ressource) (id : ℕ)
    (rewrite : ressource.Contenu → ressource.Contenu) (liens : List (ℕ × ℕ)) :
    Tables.store { ressource.set base.toTables ((ressource.table base.toTables).modify id rewrite)
        with livreAuteur := liens } =
      { ressource.set base.toTables
          ((ressource.table base.toTables).modify id (ressource.store ∘ rewrite))
        with livreAuteur := liens } := by
  rw [store_set, Table.map_modify (ressource.store_eq_of_mem base)]

variable {read current : Base} {ressource : Ressource} {id : ℕ} {data : Value}
variable {old : ressource.Contenu} {relu rewrite : ressource.Contenu → ressource.Contenu}

theorem commit_modifiant (hold : (ressource.table read.toTables).find id = some old) :
    Session.commit { ressource.modifiant read id data relu rewrite with base := current } =
      .ok ({ ressource.set current.toTables ((ressource.table current.toTables).modify id
          (ressource.ecrit data (relu old) (rewrite old))) with
        livreAuteur := current.livreAuteur }, 0) := by
  have hliens : (ressource.modifiant read id data relu rewrite).liens =
      (ressource.modifiant read id data relu rewrite).loaded.liens := by
    cases ressource <;> rfl
  have hlinks : Session.newLinks
      { ressource.modifiant read id data relu rewrite with base := current } 0 = [] :=
    Session.newLinks_eq_nil hliens 0
  rw [Session.commit_update rfl rfl, Session.updated, hlinks]
  dsimp only
  rw [List.append_nil]
  exact congrArg (fun written : Tables => Except.ok
    ({ written with livreAuteur := current.livreAuteur }, 0))
    (write_set read.toTables current.toTables hold _ rewrite)

end Ressource

namespace LivreController

variable {read charge current : Base} {id : ℕ} {data : Value} {old : Livre}
variable {rewrite : Livre → Livre} {auteurs : List ℕ}

theorem adds_liant_iff (livre auteur : Ref) :
    Session.Adds { liant read charge id data rewrite auteurs with base := current }
        livre auteur ↔
      livre = .managed id ∧ ∃ number ∈ auteurs, auteur = .managed number ∧
        (id, number) ∉ charge.livreAuteur := by
  have hlinked : ∀ number, Ref.managed number ∈ charge.liens.auteurs (.managed id) ↔
      (id, number) ∈ charge.livreAuteur := fun number => by
    simp [Tables.mem_liens_auteurs]
  change auteur ∈ (addAuteurs (.managed id) auteurs charge.liens).auteurs livre ∧
    auteur ∉ charge.liens.auteurs livre ↔ _
  rw [mem_auteurs_addAuteurs, or_and_right, and_not_self_iff, false_or]
  constructor
  · rintro ⟨⟨rfl, number, hnumber, rfl⟩, hnew⟩
    exact ⟨rfl, number, hnumber, rfl, fun hold => hnew ((hlinked number).mpr hold)⟩
  · rintro ⟨rfl, number, hnumber, rfl, hnew⟩
    exact ⟨⟨rfl, number, hnumber, rfl⟩, fun hold => hnew ((hlinked number).mp hold)⟩

/-- The links that were asked for and are not in the collection as loaded. -/
theorem mem_newLinks_liant (hid : id ∈ read.livre.ids) (link : ℕ × ℕ) :
    link ∈ Session.newLinks
        { liant read charge id data rewrite auteurs with base := current } 0 ↔
      link.1 = id ∧ link.2 ∈ auteurs ∧ link ∉ charge.livreAuteur := by
  have hmanaged : id ∈ (read.livre.modify id rewrite).ids := by rwa [Table.ids_modify]
  simp only [Session.mem_newLinks_iff, adds_liant_iff]
  constructor
  · rintro ⟨livre, auteur, -, ⟨rfl, number, hnumber, rfl, hnew⟩, rfl⟩
    exact ⟨rfl, hnumber, hnew⟩
  · obtain ⟨livre, auteur⟩ := link
    rintro ⟨rfl, hauteur, hnew⟩
    exact ⟨.managed livre, .managed auteur, Or.inr ⟨livre, hmanaged, rfl⟩,
      ⟨rfl, auteur, hauteur, rfl, hnew⟩, rfl⟩

theorem commit_liant (hold : read.livre.find id = some old) :
    Session.commit { liant read charge id data rewrite auteurs with base := current } =
      .ok ({ Ressource.livre.set current.toTables (current.livre.modify id
          (Ressource.livre.ecrit data old (rewrite old))) with
        livreAuteur := current.livreAuteur ++
            Session.newLinks { liant read charge id data rewrite auteurs with base := current } 0 },
        0) := by
  rw [Session.commit_update rfl rfl, Session.updated]
  exact congrArg (fun written : Tables => Except.ok
    ({ written with livreAuteur := current.livreAuteur ++
        Session.newLinks { liant read charge id data rewrite auteurs with base := current } 0 },
      0))
    (@Ressource.write_set .livre id read.toTables current.toTables old hold _ rewrite)

end LivreController

/-! ## Promises -/

namespace Client

variable {runtime : Runtime} {client : Client} {lus : List Base}

/-! ### Reads -/

theorem promet_refus {status : ℕ} {body : Value} (hstatus : 300 ≤ status) :
    client.Promet runtime lus (.terminee (.response ⟨status, body⟩)) :=
  not_success_of_le hstatus body

theorem promet_php {Out : Type} {result : Except Throwable Out} {suite : Out → Tache}
    (hsuite : ∀ out, result = .ok out → client.Promet runtime lus (suite out)) :
    client.Promet runtime lus (.php result suite) := by
  cases result with
  | error throwable => exact not_success_thrown throwable
  | ok out => exact hsuite out rfl

theorem promet_siPresent {Out : Type} {value : Option Value}
    {read : Value → Except Throwable Out} {suite : Option Out → Tache}
    (hsuite : client.Promet runtime lus (suite (received value read))) :
    client.Promet runtime lus (.siPresent value read suite) := by
  cases value with
  | none => exact hsuite
  | some given =>
      refine promet_php fun out hread => ?_
      simpa [received, hread, Except.toOption] using hsuite

/-- What was read `more` is what tells whether and what this `find` has read. -/
theorem promet_rechercher {Row : Type} {table : Tables → Table Row} {connus : List ℕ}
    {id : Value} {suite : Option Base → Option ℕ → Tache}
    (hnone : ∀ more lu, client.Promet runtime (lus ++ more) (suite lu none))
    (hsome : ∀ number lu more, runtime.rowId id = .ok (some number) →
      (∀ rest, Tache.rencontre connus id number (more ++ rest) = (lu, rest)) →
        client.Promet runtime (lus ++ more) (suite lu (some number))) :
    client.Promet runtime lus (.rechercher runtime table connus id suite) := by
  refine promet_php fun number hnumber => ?_
  by_cases hconnu : number.any (Tache.connu connus id)
  · rw [if_pos hconnu]
    obtain ⟨found, rfl, hfound⟩ := (Option.any_eq_true _ _).mp hconnu
    have hpromet := hsome found none [] hnumber fun rest => by
      rw [Tache.rencontre, if_pos hfound, List.nil_append]
    rwa [List.append_nil] at hpromet
  · rw [if_neg hconnu]
    intro base
    dsimp only
    cases hfound : number.filter fun id => id ∈ (table base.toTables).ids with
    | none => exact hnone [base] (some base)
    | some found =>
        obtain ⟨rfl, -⟩ := Option.filter_eq_some_iff.mp hfound
        refine hsome found (some base) [base] hnumber fun rest => ?_
        rw [Tache.rencontre, if_neg fun hknown => hconnu (by simpa using hknown)]
        rfl

theorem promet_obtenir {Row : Type} {table : Tables → Table Row} {connus : List ℕ}
    {id : Value} {sinon : Outcome} {suite : Option Base → ℕ → Tache}
    (hsinon : ¬ sinon.Success)
    (hsuite : ∀ number lu more, runtime.rowId id = .ok (some number) →
      (∀ rest, Tache.rencontre connus id number (more ++ rest) = (lu, rest)) →
        client.Promet runtime (lus ++ more) (suite lu number)) :
    client.Promet runtime lus (.obtenir runtime table connus id sinon suite) :=
  promet_rechercher (fun _ _ => hsinon) hsuite

/-- `find` with the number in the path. -/
theorem promet_findPath {Row : Type} {table : Tables → Table Row} {id : ℕ}
    {missing : Response} {suite : Base → ℕ → Tache}
    (hmissing : ¬ (Outcome.response missing).Success)
    (hsuite : ∀ base row, (table base.toTables).find id = some row →
      client.Promet runtime (lus ++ [base]) (suite base id)) :
    client.Promet runtime lus (.trouver runtime table (.int id) missing suite) := by
  intro base
  rw [runtime.rowId_int]
  by_cases hid : id ∈ (table base.toTables).ids
  · have hfound : (some id).filter (fun id => id ∈ (table base.toTables).ids) = some id := by
      simpa using hid
    simp only [hfound]
    obtain ⟨row, hrow⟩ := Table.exists_find_of_mem_ids hid
    exact hsuite base row hrow
  · have hfound : (some id).filter (fun id => id ∈ (table base.toTables).ids) = none := by
      simpa using hid
    simp only [hfound]
    exact hmissing

/-! ### Updates -/

section Updates

variable {ressource : Ressource} {id : ℕ} {data : Value} {read : Base} {rest : List Base}
variable {old : ressource.Contenu} {answer : Session → Response}

/-- The flush of every update but that of a book. -/
theorem promet_modifiant {relu rewrite : ressource.Contenu → ressource.Contenu}
    (hressource : ressource ≠ .livre)
    (hold : (ressource.table read.toTables).find id = some old)
    (hrelu : ressource.relue runtime id data (read :: rest) old = relu old)
    (hrewrite : rewrite = ressource.reecrit runtime data)
    (hreecrit : ressource.reecrit runtime data (relu old) = ressource.reecrit runtime data old)
    (hsuccess : ∀ final, (Outcome.response (answer final)).Success) :
    (modifier ressource id data).Promet runtime (read :: rest)
      (.ecriture (ressource.modifiant read id data relu rewrite) answer) := by
  subst hrewrite
  intro base final hflush
  obtain ⟨tables, fresh, hvalid, hcommit, rfl⟩ := flush_eq_ok_iff.mp hflush
  cases (Ressource.commit_modifiant hold).symm.trans hcommit
  refine ⟨hsuccess _, _, ⟨relu old, read, ?_, List.mem_cons_self, rfl⟩, ?_⟩
  · rw [Ressource.chargee, List.head?_cons]
    simp only [Option.bind_eq_bind, Option.bind_some, hold, hrelu]
    rfl
  · rw [hreecrit]
    refine Base.step_change (ressource.store_modify base id _ _) fun link => ?_
    simp [hressource]

/-! The book is read first; its collection is loaded at some later read. -/

theorem promet_liant {charge : Base} {livre : Livre} {auteurs : List ℕ}
    (hcharge : charge ∈ read :: rest) (hold : read.livre.find id = some livre)
    (hauteurs : ∀ auteur, auteur ∈ auteurs ↔ LivreController.Names runtime data auteur)
    (hsuccess : ∀ final, (Outcome.response (answer final)).Success) :
    (modifier .livre id data).Promet runtime (read :: rest) (.ecriture
      (LivreController.liant read charge id data (Ressource.livre.reecrit runtime data) auteurs)
      answer) := by
  intro base final hflush
  obtain ⟨tables, fresh, hvalid, hcommit, rfl⟩ := flush_eq_ok_iff.mp hflush
  cases (LivreController.commit_liant hold).symm.trans hcommit
  have hfind : (Ressource.livre.table read.toTables).find id = some livre := hold
  refine ⟨hsuccess _, _, ⟨livre, charge, ?_, hcharge, rfl⟩, ?_⟩
  · rw [Ressource.chargee, List.head?_cons]
    simp only [Option.bind_eq_bind, Option.bind_some, hfind]
    rfl
  · refine Base.step_change (Ressource.store_modify base .livre id _ _) fun link => ?_
    rw [List.mem_append, LivreController.mem_newLinks_liant (Table.mem_ids_of_find hold),
      hauteurs]
    simp

theorem mem_iff_of_designe {items : List Value} {named : List ℕ}
    (hnamed : Commande.Designe runtime items named) (auteur : ℕ) :
    auteur ∈ named ↔ ∃ item ∈ items, runtime.rowId item = .ok (some auteur) := by
  induction hnamed with
  | nil => simp
  | @cons item found items named hfound _ ih =>
      simp [ih, hfound, eq_comm]

theorem promet_lierSteps {collection : List ℕ} {suite : List ℕ → Tache} :
    ∀ {items : List Value} {auteurs : List ℕ} {lus : List Base},
      (∀ named, Commande.Designe runtime items named → ∀ more,
        client.Promet runtime (lus ++ more) (suite (auteurs ++ named))) →
      client.Promet runtime lus
        (LivreController.lierSteps runtime collection suite items auteurs) := by
  intro items
  induction items with
  | nil =>
      intro auteurs lus hsuite
      have hend := hsuite [] .nil []
      rwa [List.append_nil, List.append_nil] at hend
  | cons item items ih =>
      intro auteurs lus hsuite
      refine promet_obtenir (not_success_thrown _) fun auteur lu more hauteur _ => ?_
      refine ih fun named hnamed others => ?_
      have hend := hsuite (auteur :: named) (.cons hauteur hnamed) (more ++ others)
      rwa [List.append_cons, ← List.append_assoc] at hend

theorem promet_collectionSteps {suite : Base → List ℕ → Tache} {items : List Value}
    (hsuite : ∀ named, Commande.Designe runtime items named → ∀ more charge,
      charge ∈ read :: (rest ++ more) →
        client.Promet runtime (read :: (rest ++ more)) (suite charge named)) :
    client.Promet runtime (read :: rest)
      (LivreController.collectionSteps runtime read id suite items) := by
  cases items with
  | nil =>
      have hend := hsuite [] .nil [] read List.mem_cons_self
      rwa [List.append_nil] at hend
  | cons item items =>
      refine promet_obtenir (not_success_thrown _) fun auteur lu more hauteur _ charge => ?_
      refine promet_lierSteps fun named hnamed others => ?_
      have hend := hsuite (auteur :: named) (.cons hauteur hnamed) (more ++ [charge] ++ others)
        charge (by simp)
      simpa only [List.cons_append, List.append_assoc, List.nil_append] using hend

theorem promet_auteurIdsSteps {suite : Base → List ℕ → Tache}
    (hsuite : ∀ more charge auteurs, charge ∈ read :: (rest ++ more) →
      (∀ auteur, auteur ∈ auteurs ↔ LivreController.Names runtime data auteur) →
        client.Promet runtime (read :: (rest ++ more)) (suite charge auteurs)) :
    client.Promet runtime (read :: rest)
      (LivreController.auteurIdsSteps runtime read id data suite) := by
  have hnobody : (∀ auteur, ¬ LivreController.Names runtime data auteur) →
      client.Promet runtime (read :: rest) (suite read []) := by
    intro hnames
    have hend := hsuite [] read [] List.mem_cons_self fun auteur => by simp [hnames]
    rwa [List.append_nil] at hend
  unfold LivreController.auteurIdsSteps
  cases hfield : data.field "auteurIds" with
  | none => exact hnobody fun auteur => by simp [LivreController.Names, hfield]
  | some auteurIds =>
      dsimp only
      cases helements : auteurIds.elements with
      | some items =>
          refine promet_collectionSteps fun named hnamed more charge hcharge =>
            hsuite more charge named hcharge fun auteur => ?_
          rw [mem_iff_of_designe hnamed]
          simp [LivreController.Names, hfield, helements]
      | none =>
          dsimp only
          split
          · exact not_success_thrown _
          · exact hnobody fun auteur => by simp [LivreController.Names, hfield, helements]

theorem promet_categorieSteps {suite : Option ℕ → Tache}
    (hsuite : ∀ more, client.Promet runtime (lus ++ more)
      (suite (received (data.field "categorieId") runtime.rowId).join)) :
    client.Promet runtime lus (LivreController.categorieSteps runtime read id data suite) := by
  unfold LivreController.categorieSteps
  cases hfield : data.field "categorieId" with
  | none =>
      have hend := hsuite []
      rw [hfield, List.append_nil] at hend
      exact hend
  | some categorieId =>
      refine promet_obtenir (not_success_thrown _) fun categorie lu more hcategorie _ => ?_
      simpa [received, hfield, hcategorie, Except.toOption] using hsuite more

/-! ### The update handlers -/

theorem promet_livreUpdate (id : ℕ) (data : Value) :
    (modifier .livre id data).Promet runtime []
      (LivreController.updateSteps runtime id data) := by
  refine promet_findPath (by decide) fun read livre hlivre => ?_
  refine promet_siPresent (promet_siPresent (promet_siPresent (promet_siPresent ?_)))
  refine promet_categorieSteps fun more => ?_
  refine @promet_auteurIdsSteps runtime _ id data read more _ fun others charge auteurs hcharge
    hauteurs => ?_
  exact promet_liant hcharge hlivre hauteurs fun _ => Outcome.success_of_status (by simp)

theorem promet_categorieUpdate (id : ℕ) (data : Value) :
    (modifier .categorie id data).Promet runtime []
      (CategorieController.updateSteps runtime id data) := by
  refine promet_findPath (by decide) fun read categorie hcategorie => ?_
  refine promet_siPresent (promet_siPresent ?_)
  exact @promet_modifiant runtime .categorie id data read [] _ _ _ _ (by decide) hcategorie rfl
    rfl rfl fun _ => Outcome.success_of_status (by simp)

theorem promet_auteurUpdate (id : ℕ) (data : Value) :
    (modifier .auteur id data).Promet runtime []
      (AuteurController.updateSteps runtime id data) := by
  refine promet_findPath (by decide) fun read auteur hauteur => promet_php fun _ _ => ?_
  refine promet_siPresent (promet_siPresent (promet_siPresent (promet_siPresent ?_)))
  refine promet_siPresent (promet_siPresent (promet_siPresent ?_))
  exact @promet_modifiant runtime .auteur id data read [] _ _ _ _ (by decide) hauteur rfl rfl rfl
    fun _ => Outcome.success_of_status (by simp)

theorem promet_adherentUpdate (id : ℕ) (data : Value) :
    (modifier .adherent id data).Promet runtime []
      (AdherentController.updateSteps runtime id data) := by
  refine promet_findPath (by decide) fun read adherent hadherent => ?_
  refine promet_siPresent (promet_siPresent (promet_siPresent (promet_siPresent ?_)))
  refine promet_siPresent (promet_siPresent (promet_siPresent (promet_siPresent ?_)))
  refine promet_siPresent (promet_siPresent ?_)
  exact @promet_modifiant runtime .adherent id data read [] _ _ _ _ (by decide) hadherent rfl rfl
    rfl fun _ => Outcome.success_of_status (by simp)

/-- A key past the test that it is not missing. -/
theorem received_of_present {Out : Type} {value : Option Value}
    {read : Value → Except Throwable Out} {out : Out}
    (hpresent : Value.missing value = false) (hread : read (value.getD .null) = .ok out) :
    received value read = some out := by
  obtain ⟨given, rfl, -⟩ := (Value.missing_eq_false_iff value).mp hpresent
  simpa [received, Except.toOption] using congrArg Except.toOption hread

theorem promet_empruntUpdate (id : ℕ) (data : Value) :
    (modifier .emprunt id data).Promet runtime []
      (EmpruntController.updateSteps runtime id data) := by
  refine promet_findPath (by decide) fun read emprunt hemprunt => ?_
  dsimp only
  split
  · exact promet_refus (by decide)
  · rename_i hpresent
    simp only [Bool.or_eq_true, not_or, Bool.not_eq_true] at hpresent
    obtain ⟨⟨⟨hdateEmprunt, hdateRetour⟩, hemprunteur⟩, hlivre⟩ := hpresent
    refine promet_php fun dateEmprunt hreadEmprunt => promet_php fun dateRetour hreadRetour => ?_
    cases dateEmprunt with
    | none => exact promet_refus (by decide)
    | some dateEmprunt =>
        cases dateRetour with
        | none => exact promet_refus (by decide)
        | some dateRetour =>
            refine promet_rechercher (fun more lu => ?_)
              fun emprunteur luEmprunteur first hreadEmprunteur _ => ?_
            · exact promet_rechercher (fun _ _ => promet_refus (by decide))
                fun _ _ _ _ _ => promet_refus (by decide)
            refine promet_rechercher (fun _ _ => promet_refus (by decide))
              fun livre luLivre second hreadLivre _ => ?_
            have hdecrit : EmpruntController.decrit runtime data =
                some ⟨dateEmprunt, some dateRetour, emprunteur, livre⟩ := by
              simp only [EmpruntController.decrit,
                received_of_present hdateEmprunt hreadEmprunt,
                received_of_present hdateRetour hreadRetour,
                received_of_present hemprunteur hreadEmprunteur,
                received_of_present hlivre hreadLivre]
              rfl
            have hreecrit : Ressource.emprunt.reecrit runtime data = fun _ =>
                ⟨dateEmprunt, some dateRetour, emprunteur, livre⟩ :=
              funext fun _ => congrArg (Option.getD · _) hdecrit
            exact @promet_modifiant runtime .emprunt id data read (first ++ second) _ _ _ _
              (by decide) hemprunt rfl hreecrit.symm rfl
              fun _ => Outcome.success_of_status (by simp)

theorem received_of_isSome {Out : Type} {value : Option Value}
    {read : Value → Except Throwable Out} {out : Out}
    (hpresent : value.isNone = false) (hread : read (value.getD .null) = .ok out) :
    received value read = some out := by
  cases value with
  | none => cases hpresent
  | some given => simpa [received, Except.toOption] using congrArg Except.toOption hread

theorem promet_reservationsUpdate (id : ℕ) (data : Value) :
    (modifier .reservations id data).Promet runtime []
      (ReservationsController.updateTache runtime id data) := by
  refine promet_findPath (by decide) fun read reservation hreservation => ?_
  dsimp only
  split
  · exact promet_refus (by decide)
  · rename_i hpresent
    simp only [Bool.or_eq_true, not_or, Bool.not_eq_true] at hpresent
    obtain ⟨⟨hdateResa, hreservateur⟩, hlivre⟩ := hpresent
    refine promet_php fun dateResa hdate => ?_
    cases dateResa with
    | none => exact promet_refus (by decide)
    | some dateResa =>
        rw [hreservation, Option.toList_some, List.map_singleton, List.map_singleton]
        refine promet_obtenir (by decide)
          fun reservateur luReservateur first hreadReservateur hfirst => ?_
        refine promet_obtenir (by decide) fun livre luLivre second hreadLivre hsecond => ?_
        have hsent := received_of_isSome hreservateur hreadReservateur
        have hbook := received_of_isSome hlivre hreadLivre
        have hdecrit : ReservationsController.decrit runtime data =
            some ⟨dateResa, livre, reservateur⟩ := by
          simp only [ReservationsController.decrit, received_of_isSome hdateResa hdate, hsent,
            hbook]
          rfl
        have hreecrit : Ressource.reservations.reecrit runtime data = fun _ =>
            ⟨dateResa, livre, reservateur⟩ :=
          funext fun _ => congrArg (Option.getD · _) hdecrit
        refine @promet_modifiant runtime .reservations id data read (first ++ second) reservation
          _ _ _ (by decide) hreservation ?_ hreecrit.symm ?_
          fun _ => Outcome.success_of_status (by simp)
        · -- the reads of the two rows, replayed
          have hend := hsecond []
          rw [List.append_nil] at hend
          simp only [Ressource.relue, ReservationsController.relue, hsent, hbook,
            Option.join_some, List.tail_cons, hfirst second]
          rw [List.singleton_append] at hend
          rw [hend]
        · rw [hreecrit]

end Updates

/-! ### Deletions -/

/-- The flush of a removal, once its walk has come to an end. -/
theorem promet_marche {ressource : Ressource} {id : ℕ} {read : Base} {etat : Marche}
    (hrejouee : Marche.rejouee (ressource.ligne id) lus = some etat) (hpile : etat.pile = []) :
    (ecrire (.delete ressource id)).Promet runtime lus
      (.ecriture { Session.start read with removed := etat.vus } fun _ => ressource.deleted) := by
  intro base final hflush
  obtain ⟨tables, fresh, hvalid, hcommit, rfl⟩ := flush_eq_ok_iff.mp hflush
  have hleft := Session.eq_of_commit_removed hcommit
  subst hleft
  refine ⟨ressource.success_deleted, _, ⟨etat, hrejouee, hpile, rfl⟩, ?_⟩
  exact Base.step_without
    (fun _ => (Marche.fondee_rejouee hrejouee).isEntity (ressource.isEntity_ligne id))
    (fun _ _ => Iff.rfl) (base.valid.store_without etat.vus)

/-! ### New authors -/

section Auteurs

variable {suite : List (ℕ × Livre) → Tache}

/-- What was read `more` tells which books the loop has found. -/
theorem promet_livresSteps : ∀ {items : List Value} {trouves : List (ℕ × Livre)}
    {lus : List Base},
    (∀ more found, (∀ rest, AuteurController.livresTrouves runtime items (more ++ rest)
        (trouves.map Prod.fst) = found.map Prod.fst) →
      client.Promet runtime (lus ++ more) (suite found)) →
    client.Promet runtime lus (AuteurController.livresSteps runtime suite items trouves) := by
  intro items
  induction items with
  | nil =>
      intro trouves lus hsuite
      have hend := hsuite [] trouves fun _ => rfl
      rwa [List.append_nil] at hend
  | cons item items ih =>
      intro trouves lus hsuite
      rw [AuteurController.livresSteps]
      refine promet_php fun number hnumber => ?_
      have hstep : ∀ {more : List Base} {added : List (ℕ × Livre)},
          (∀ rest, AuteurController.livresTrouves runtime (item :: items) (more ++ rest)
              (trouves.map Prod.fst) =
            AuteurController.livresTrouves runtime items rest
              ((trouves ++ added).map Prod.fst)) →
          client.Promet runtime (lus ++ more)
            (AuteurController.livresSteps runtime suite items (trouves ++ added)) := by
        intro more added hadded
        refine ih fun others found hfound => ?_
        have hend := hsuite (more ++ others) found fun rest => by
          rw [List.append_assoc, hadded, hfound]
        rwa [← List.append_assoc] at hend
      by_cases hconnu : number.any (Tache.connu (trouves.map Prod.fst) item)
      · rw [if_pos hconnu]
        obtain ⟨livre, rfl, hlivre⟩ := (Option.any_eq_true _ _).mp hconnu
        obtain ⟨row, -, hobjet⟩ :=
          AuteurController.exists_objet_connu (of_decide_eq_true hlivre).1
        have hend := @hstep [] [(livre, row)] fun rest => by
          rw [List.nil_append, AuteurController.livresTrouves_connu hnumber hlivre,
            List.map_append, List.map_singleton]
        rw [List.append_nil] at hend
        dsimp only
        rwa [Option.bind_some, hobjet, Option.toList_some]
      · rw [if_neg hconnu]
        intro base
        refine hstep fun rest => ?_
        rw [List.singleton_append, AuteurController.livresTrouves_lu hnumber hconnu,
          List.map_append, AuteurController.objet_lu]

/-- The flush of a new author with the books that were found. -/
theorem promet_creatingWith {data : Value} {read : Base} {trouves : List (ℕ × Livre)}
    {draft : AuteurDraft} {answer : Session → Response}
    (hdraft : ∀ auteur, draft.row = some auteur → AuteurController.decrit data = some auteur)
    (htrouves : AuteurController.livresTrouves runtime (AuteurController.livreIds data) lus [] =
      trouves.map Prod.fst)
    (hanswer : ∀ final, (Outcome.response (answer final)).Success ∧
      (Outcome.response (answer final)).numero = final.insertId) :
    (creerAuteur data).Promet runtime lus
      (.ecriture (AuteurController.creatingWith read (.auteur draft) trouves) answer) := by
  intro base final hflush
  obtain ⟨tables, fresh, hvalid, hcommit, rfl⟩ := flush_eq_ok_iff.mp hflush
  cases hrow : draft.row with
  | none =>
      have hinsert : (Entity.auteur draft).insert base.toTables = none := by
        simp [Entity.insert, hrow]
      rw [AuteurController.commit_creatingWith_none hinsert] at hcommit
      cases hcommit
  | some auteur =>
      have hinsert : (Entity.auteur draft).insert base.toTables =
          some ({ base.toTables with auteur := base.auteur.insert auteur },
            base.auteur.next) := by
        simp [Entity.insert, hrow]
      cases (AuteurController.commit_creatingWith hinsert).symm.trans hcommit
      rw [(hanswer _).2]
      refine ⟨(hanswer _).1, _, ⟨auteur, hdraft auteur hrow, rfl⟩, ?_⟩
      have hstored : (base.auteur.insert auteur).map Auteur.store =
          base.auteur.insert auteur.store :=
        Table.map_insert (Ressource.store_eq_of_mem base .auteur) auteur
      have hfinal := Ressource.store_set base .auteur (base.auteur.insert auteur)
        (base.livreAuteur ++ Session.newLinks { AuteurController.creatingWith read
          (.auteur draft) trouves with base := base } base.auteur.next)
      rw [show (base.auteur.insert auteur).map Ressource.auteur.store =
        base.auteur.insert auteur.store from hstored] at hfinal
      refine Base.step_add hfinal fun link => ?_
      rw [List.mem_append, AuteurController.mem_newLinks_creatingWith, htrouves]
      rfl

theorem promet_auteurCreate (data : Value) :
    (creerAuteur data).Promet runtime [] (AuteurController.createSteps runtime data) := by
  unfold AuteurController.createSteps
  split
  · refine promet_php fun nom hnom => promet_php fun prenom hprenom => ?_
    refine promet_siPresent (promet_siPresent ?_)
    refine promet_php fun nationalite hnationalite => promet_php fun photo hphoto => ?_
    refine promet_php fun description hdescription => ?_
    have hdecrit : ∀ auteur : Auteur, AuteurDraft.row {
        nom := some nom
        prenom := some prenom
        dateNaiss := received (data.field "dateNaiss") AuteurController.parseDate
        dateDeces := received (data.field "dateDeces") AuteurController.parseDate
        nationalite := some nationalite
        photo := photo
        description := some description } = some auteur →
          AuteurController.decrit data = some auteur := by
      intro auteur hrow
      simpa only [AuteurController.decrit, AuteurDraft.row, received_eq_of_toString hnom,
        received_eq_of_toString hprenom, received_eq_of_toString hnationalite,
        received_eq_of_toNullableString hphoto, received_eq_of_toString hdescription] using hrow
    have hanswer : ∀ final : Session, (Outcome.response ⟨201, .object
        [("message", .str "Auteur créé avec succès."), ("id", .int final.insertId),
          ("nom", .str nom), ("prenom", .str prenom)]⟩).Success ∧
        (Outcome.response ⟨201, .object
          [("message", .str "Auteur créé avec succès."), ("id", .int final.insertId),
            ("nom", .str nom), ("prenom", .str prenom)]⟩).numero = final.insertId :=
      fun final => ⟨Outcome.success_of_status (by simp), rfl⟩
    dsimp only
    cases helements : ((data.field "livres").getD (.arr [])).elements with
    | some items =>
        refine promet_livresSteps fun more trouves htrouves base => ?_
        refine promet_creatingWith hdecrit ?_ hanswer
        rw [AuteurController.livreIds, helements, Option.getD_some]
        exact htrouves [base]
    | none =>
        dsimp only
        split
        · exact not_success_thrown _
        · intro base
          refine promet_creatingWith hdecrit ?_ hanswer
          rw [AuteurController.livreIds, helements]
          rfl
  · exact promet_refus (by decide)

end Auteurs

/-! ### Creations

A creation does what the request alone would do at the moment of its flush. -/

/-- Between the reads of a creation anything may happen. -/
def Librement (_ _ : Base) : Prop := True

instance : IsPreorder Base Librement where
  refl := fun _ => trivial
  trans := fun _ _ _ _ _ => trivial

/-- The request reads the database before it writes. -/
def Lit : Tache → Prop
  | .ecriture _ _ => False
  | .terminee _ | .lecture _ => True

/-- A creation makes the entry of its body. -/
theorem inscrit_creation {commande : Commande}
    (hcree : ∀ ressource id, commande ≠ .delete ressource id) {numero : ℕ}
    {entry : Inscription} :
    (ecrire commande).Inscrit runtime lus numero entry ↔
      ∃ lu ∈ lus, commande.requete.inscription runtime lu.fonds numero = some entry := by
  cases commande with
  | delete ressource id => exact absurd rfl (hcree ressource id)
  | _ => exact Iff.rfl

/-- The entry of a creation only depends on its body and its number. -/
theorem inscription_congr {commande : Commande}
    (hcree : ∀ ressource id, commande ≠ .delete ressource id) (fonds other : Fonds)
    (numero : ℕ) : commande.requete.inscription runtime fonds numero =
      commande.requete.inscription runtime other numero := by
  cases commande with
  | delete ressource id => exact absurd rfl (hcree ressource id)
  | _ => rfl

theorem promet_of_serie {commande : Commande}
    (hcree : ∀ ressource id, commande ≠ .delete ressource id) :
    ∀ {tache : Tache} {lus : List Base} {avant : Base}, lus ≠ [] ∨ Lit tache →
      commande.Serie Librement runtime avant tache →
        (ecrire commande).Promet runtime lus tache := by
  intro tache
  induction tache with
  | terminee outcome => exact fun _ hserie => hserie
  | lecture suite ih =>
      intro lus avant _ hserie base
      exact ih base (Or.inl (by simp)) (hserie base trivial)
  | ecriture session answer =>
      intro lus avant hlus hserie base final hflush
      obtain ⟨lu, rest, rfl⟩ := List.exists_cons_of_ne_nil (hlus.resolve_right id)
      have haccord := hserie.2 base trivial final hflush
      have halone : (Outcome.response (answer final)) =
          (commande.requete.executer runtime base).1 := by
        refine haccord.answer.resolve_right ?_
        rintro ⟨ressource, id, rfl, -⟩
        exact hcree ressource id rfl
      obtain ⟨entry, hentry, hstep⟩ :=
        Requete.inscrit_of_success commande.requete (halone ▸ haccord.success)
      rw [haccord.state] at hstep
      refine ⟨haccord.success, entry,
        (inscrit_creation hcree).mpr ⟨lu, List.mem_cons_self, ?_⟩, hstep⟩
      rw [inscription_congr hcree lu.fonds base.fonds, halone, hentry]

theorem lit_php {Out : Type} {result : Except Throwable Out} {suite : Out → Tache}
    (hsuite : ∀ out, Lit (suite out)) : Lit (.php result suite) := by
  cases result with
  | error throwable => trivial
  | ok out => exact hsuite out

theorem lit_siPresent {Out : Type} {value : Option Value}
    {read : Value → Except Throwable Out} {suite : Option Out → Tache}
    (hsuite : ∀ out, Lit (suite out)) : Lit (.siPresent value read suite) := by
  cases value with
  | none => exact hsuite none
  | some given => exact lit_php fun out => hsuite (some out)

theorem tient_creation (commande : Commande)
    (hcree : ∀ ressource id, commande ≠ .delete ressource id) :
    (ecrire commande).Tient runtime [] (commande.steps runtime) := by
  cases commande with
  | delete ressource id => exact absurd rfl (hcree ressource id)
  | livreCreate data =>
      refine promet_of_serie hcree (Or.inr ?_) (@Commande.serie_livreCreate runtime Base.empty
        Librement _ data)
      rw [LivreController.createSteps]
      split
      · trivial
      · exact lit_php fun _ => lit_php fun _ => lit_php fun _ => lit_php fun _ => trivial
  | categorieCreate data =>
      exact promet_of_serie hcree (Or.inr (lit_php fun _ => lit_php fun _ => trivial))
        (@Commande.serie_categorieCreate runtime Base.empty Librement data)
  | empruntCreate data =>
      refine promet_of_serie hcree (Or.inr ?_) (@Commande.serie_empruntCreate runtime Base.empty
        Librement _ data)
      rw [EmpruntController.createSteps]
      split
      · trivial
      · refine lit_php fun dateEmprunt => lit_php fun dateRetour => ?_
        cases dateEmprunt <;> cases dateRetour <;> trivial
  | reservationsCreate data =>
      refine promet_of_serie hcree (Or.inr ?_) (@Commande.serie_reservationsCreate runtime
        Base.empty Librement _ data)
      rw [ReservationsController.createTache]
      split
      · trivial
      · refine lit_php fun dateResa => ?_
        cases dateResa <;> trivial
  | adherentCreate salt data =>
      refine promet_of_serie hcree (Or.inr ?_) (@Commande.serie_adherentCreate runtime Base.empty
        Librement salt data)
      rw [AdherentController.createSteps]
      refine lit_siPresent fun _ => lit_siPresent fun _ => lit_siPresent fun _ => ?_
      refine lit_siPresent fun _ => lit_siPresent fun _ => lit_siPresent fun _ => ?_
      refine lit_siPresent fun _ => lit_siPresent fun _ => lit_siPresent fun _ => ?_
      exact lit_siPresent fun _ => trivial

/-- Every request makes its entry. -/
theorem tient_steps (runtime : Runtime) (client : Client) :
    client.Tient runtime [] (client.steps runtime) := by
  cases client with
  | creerAuteur data => exact promet_auteurCreate data
  | ecrire commande =>
      cases commande with
      | delete ressource id => exact ⟨rfl, rfl⟩
      | _ => exact tient_creation _ (by simp)
  | modifier ressource id data =>
      cases ressource with
      | livre => exact promet_livreUpdate id data
      | categorie => exact promet_categorieUpdate id data
      | auteur => exact promet_auteurUpdate id data
      | emprunt => exact promet_empruntUpdate id data
      | reservations => exact promet_reservationsUpdate id data
      | adherent => exact promet_adherentUpdate id data

end Client

end Bibliotheque
