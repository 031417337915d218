import Bibliotheque.Api.ConcurrentRuns

/-!
# What overlapping requests leave behind

After any order of the reads and flushes of all clients: which rows there are, what
each of their columns holds, and which books and authors are linked.
-/

namespace Bibliotheque

/-! ## Columns -/

/-- A column of the table of a resource.  It keeps of a value what `garde` says, and is
written where it differs from the value that was loaded or if it is the date of a key
that was sent. -/
structure Colonne (ressource : Ressource) (Valeur : Type) [DecidableEq Valeur] where
  get : ressource.Contenu → Valeur
  garde : Valeur → Valeur
  date : Option String
  get_store : ∀ row, get (ressource.store row) = garde (get row)
  get_ecrit : ∀ data old new stored, get (ressource.ecrit data old new stored) =
    if date.any fun key => (data.field key).isSome then get new
    else column (get old) (get new) (get stored)
  garde_garde : ∀ value, garde (garde value) = garde value

namespace Livre

def colonneTitre : Colonne .livre String :=
  ⟨titre, Varchar.store 255, none, fun _ => rfl, fun _ _ _ _ => rfl, Varchar.store_store 255⟩

def colonneDateSortie : Colonne .livre Date :=
  ⟨dateSortie, id, "dateSortie", fun _ => rfl,
    fun _ _ _ _ => column_instantane Date.autre_ne _ _ _, fun _ => rfl⟩

def colonneLangue : Colonne .livre String :=
  ⟨langue, Varchar.store 255, none, fun _ => rfl, fun _ _ _ _ => rfl, Varchar.store_store 255⟩

def colonnePhotoCouverture : Colonne .livre (Option String) :=
  ⟨photoCouverture, Option.map (Varchar.store 255), none, fun _ => rfl, fun _ _ _ _ => rfl,
    Varchar.map_store_store 255⟩

def colonneCategorie : Colonne .livre ℕ :=
  ⟨categorie, id, none, fun _ => rfl, fun _ _ _ _ => rfl, fun _ => rfl⟩

end Livre

namespace Auteur

def colonneNom : Colonne .auteur String :=
  ⟨nom, Varchar.store 255, none, fun _ => rfl, fun _ _ _ _ => rfl, Varchar.store_store 255⟩

def colonnePrenom : Colonne .auteur String :=
  ⟨prenom, Varchar.store 255, none, fun _ => rfl, fun _ _ _ _ => rfl, Varchar.store_store 255⟩

def colonneDateNaiss : Colonne .auteur Date :=
  ⟨dateNaiss, id, "dateNaiss", fun _ => rfl,
    fun _ _ _ _ => column_instantane Date.autre_ne _ _ _, fun _ => rfl⟩

def colonneDateDeces : Colonne .auteur (Option Date) :=
  ⟨dateDeces, id, "dateDeces", fun _ => rfl,
    fun _ _ _ _ => column_instantane Date.autreOuNul_ne _ _ _, fun _ => rfl⟩

def colonneNationalite : Colonne .auteur String :=
  ⟨nationalite, Varchar.store 255, none, fun _ => rfl, fun _ _ _ _ => rfl, Varchar.store_store 255⟩

def colonnePhoto : Colonne .auteur (Option String) :=
  ⟨photo, Option.map (Varchar.store 255), none, fun _ => rfl, fun _ _ _ _ => rfl,
    Varchar.map_store_store 255⟩

def colonneDescription : Colonne .auteur String :=
  ⟨description, Varchar.store 255, none, fun _ => rfl, fun _ _ _ _ => rfl, Varchar.store_store 255⟩

end Auteur

namespace Categorie

def colonneNom : Colonne .categorie String :=
  ⟨nom, Varchar.store 255, none, fun _ => rfl, fun _ _ _ _ => rfl, Varchar.store_store 255⟩

def colonneDescription : Colonne .categorie String :=
  ⟨description, Varchar.store 255, none, fun _ => rfl, fun _ _ _ _ => rfl, Varchar.store_store 255⟩

end Categorie

namespace Emprunt

def colonneDateEmprunt : Colonne .emprunt Date :=
  ⟨dateEmprunt, id, "dateEmprunt", fun _ => rfl,
    fun _ _ _ _ => column_instantane Date.autre_ne _ _ _, fun _ => rfl⟩

def colonneDateRetour : Colonne .emprunt (Option Date) :=
  ⟨dateRetour, id, "dateRetour", fun _ => rfl,
    fun _ _ _ _ => column_instantane Date.autreOuNul_ne _ _ _, fun _ => rfl⟩

def colonneEmprunteur : Colonne .emprunt ℕ :=
  ⟨emprunteur, id, none, fun _ => rfl, fun _ _ _ _ => rfl, fun _ => rfl⟩

def colonneLivre : Colonne .emprunt ℕ :=
  ⟨livre, id, none, fun _ => rfl, fun _ _ _ _ => rfl, fun _ => rfl⟩

end Emprunt

namespace Reservations

def colonneDateResa : Colonne .reservations Date :=
  ⟨dateResa, id, "dateResa", fun _ => rfl,
    fun _ _ _ _ => column_instantane Date.autre_ne _ _ _, fun _ => rfl⟩

def colonneLivre : Colonne .reservations ℕ :=
  ⟨livre, id, none, fun _ => rfl, fun _ _ _ _ => rfl, fun _ => rfl⟩

def colonneReservateur : Colonne .reservations ℕ :=
  ⟨reservateur, id, none, fun _ => rfl, fun _ _ _ _ => rfl, fun _ => rfl⟩

end Reservations

namespace Utilisateur

def colonneEmail : Colonne .adherent String :=
  ⟨email, Varchar.store 180, none, fun _ => rfl, fun _ _ _ _ => rfl, Varchar.store_store 180⟩

def colonneRoles : Colonne .adherent (List (Key × Value)) :=
  ⟨roles, id, none, fun _ => rfl, fun _ _ _ _ => rfl, fun _ => rfl⟩

def colonnePassword : Colonne .adherent String :=
  ⟨password, Varchar.store 255, none, fun _ => rfl, fun _ _ _ _ => rfl, Varchar.store_store 255⟩

def colonneDateAdhesion : Colonne .adherent Date :=
  ⟨dateAdhesion, id, "dateAdhesion", fun _ => rfl,
    fun _ _ _ _ => column_instantane Date.autre_ne _ _ _, fun _ => rfl⟩

def colonneNom : Colonne .adherent String :=
  ⟨nom, Varchar.store 255, none, fun _ => rfl, fun _ _ _ _ => rfl, Varchar.store_store 255⟩

def colonnePrenom : Colonne .adherent String :=
  ⟨prenom, Varchar.store 255, none, fun _ => rfl, fun _ _ _ _ => rfl, Varchar.store_store 255⟩

def colonneDateNaiss : Colonne .adherent Date :=
  ⟨dateNaiss, id, "dateNaiss", fun _ => rfl,
    fun _ _ _ _ => column_instantane Date.autre_ne _ _ _, fun _ => rfl⟩

def colonneAdressePostale : Colonne .adherent String :=
  ⟨adressePostale, Varchar.store 255, none, fun _ => rfl, fun _ _ _ _ => rfl,
    Varchar.store_store 255⟩

def colonneNumTel : Colonne .adherent ℤ :=
  ⟨numTel, id, none, fun _ => rfl, fun _ _ _ _ => rfl, fun _ => rfl⟩

def colonnePhoto : Colonne .adherent (Option String) :=
  ⟨photo, Option.map (Varchar.store 255), none, fun _ => rfl, fun _ _ _ _ => rfl,
    Varchar.map_store_store 255⟩

end Utilisateur

variable {ressource : Ressource}

/-- A row is told from its columns. -/
theorem Ressource.ext_colonne {left right : ressource.Contenu}
    (hget : ∀ (Valeur : Type) [DecidableEq Valeur] (colonne : Colonne ressource Valeur),
      colonne.get left = colonne.get right) : left = right := by
  cases ressource with
  | livre =>
      cases left
      cases right
      cases hget _ Livre.colonneTitre
      cases hget _ Livre.colonneDateSortie
      cases hget _ Livre.colonneLangue
      cases hget _ Livre.colonnePhotoCouverture
      cases hget _ Livre.colonneCategorie
      rfl
  | categorie =>
      cases left
      cases right
      cases hget _ Categorie.colonneNom
      cases hget _ Categorie.colonneDescription
      rfl
  | auteur =>
      cases left
      cases right
      cases hget _ Auteur.colonneNom
      cases hget _ Auteur.colonnePrenom
      cases hget _ Auteur.colonneDateNaiss
      cases hget _ Auteur.colonneDateDeces
      cases hget _ Auteur.colonneNationalite
      cases hget _ Auteur.colonnePhoto
      cases hget _ Auteur.colonneDescription
      rfl
  | emprunt =>
      cases left
      cases right
      cases hget _ Emprunt.colonneDateEmprunt
      cases hget _ Emprunt.colonneDateRetour
      cases hget _ Emprunt.colonneEmprunteur
      cases hget _ Emprunt.colonneLivre
      rfl
  | reservations =>
      cases left
      cases right
      cases hget _ Reservations.colonneDateResa
      cases hget _ Reservations.colonneLivre
      cases hget _ Reservations.colonneReservateur
      rfl
  | adherent =>
      cases left
      cases right
      cases hget _ Utilisateur.colonneEmail
      cases hget _ Utilisateur.colonneRoles
      cases hget _ Utilisateur.colonnePassword
      cases hget _ Utilisateur.colonneDateAdhesion
      cases hget _ Utilisateur.colonneNom
      cases hget _ Utilisateur.colonnePrenom
      cases hget _ Utilisateur.colonneDateNaiss
      cases hget _ Utilisateur.colonneAdressePostale
      cases hget _ Utilisateur.colonneNumTel
      cases hget _ Utilisateur.colonnePhoto
      rfl

theorem Ressource.store_store (ressource : Ressource) (row : ressource.Contenu) :
    ressource.store (ressource.store row) = ressource.store row := by
  apply ext_colonne
  intro Valeur _ colonne
  rw [colonne.get_store, colonne.get_store, colonne.garde_garde]

/-! ## What a request does to a row -/

namespace Client

variable {runtime : Runtime} {client : Client} {lus : List Base} {numero id : ℕ}
variable {entry : Inscription}

/-- The walk of the deletion, through the states that it met, marks the row. -/
def Emporte (lus : List Base) (ressource : Ressource) (id : ℕ) : Client → Prop
  | ecrire (.delete source number) => ∃ etat,
      Marche.rejouee (source.ligne number) lus = some etat ∧ ressource.ligne id ∈ etat.vus
  | ecrire _ | creerAuteur _ | modifier _ _ _ => False

/-- The value that an update writes to a column of the row, if it writes one. -/
def envoi {Valeur : Type} [DecidableEq Valeur] (colonne : Colonne ressource Valeur)
    (runtime : Runtime) (id : ℕ) (lus : List Base) : Client → Option Valeur
  | ecrire _ | creerAuteur _ => none
  | modifier source number data =>
      if source = ressource ∧ number = id then do
        let row ← ressource.chargee runtime id data lus
        let sent := colonne.get (ressource.reecrit runtime data row)
        (if colonne.date.any fun key => (data.field key).isSome then some sent
          else changed (colonne.get row) sent).map colonne.garde
      else none

/-- The request that has read these states and was answered `numero` links the author to
the book. -/
def Demande (runtime : Runtime) (lus : List Base) (numero : ℕ) (link : ℕ × ℕ) : Client → Prop
  | ecrire (.livreCreate data) =>
      link.1 = numero ∧ LivreController.Names runtime data link.2
  | creerAuteur data => link.2 = numero ∧
      link.1 ∈ AuteurController.livresTrouves runtime (AuteurController.livreIds data) lus []
  | modifier .livre id data => link.1 = id ∧ LivreController.Names runtime data link.2
  | ecrire _ | modifier _ _ _ => False

/-- A creation files one row, as its columns keep it, and asks for the links of its
body. -/
theorem exists_add_of_inscrit {commande : Commande}
    (hcree : ∀ ressource id, commande ≠ .delete ressource id)
    (hentry : (ecrire commande).Inscrit runtime lus numero entry) :
    ∃ (ressource : Ressource) (row : ressource.Contenu) (links : Set (ℕ × ℕ)),
      entry = .add ressource numero (ressource.store row) links ∧
        ∀ link, link ∈ links ↔ (ecrire commande).Demande runtime lus numero link := by
  obtain ⟨lu, -, hinscription⟩ := (inscrit_creation hcree).mp hentry
  cases commande with
  | delete ressource id => exact absurd rfl (hcree ressource id)
  | livreCreate data =>
      obtain ⟨livre, -, hadd⟩ := Option.bind_eq_some_iff.mp hinscription
      cases hadd
      exact ⟨.livre, livre, _, rfl, fun _ => Iff.rfl⟩
  | categorieCreate data =>
      obtain ⟨categorie, -, hadd⟩ := Option.bind_eq_some_iff.mp hinscription
      cases hadd
      exact ⟨.categorie, categorie, _, rfl, fun _ => Iff.rfl⟩
  | empruntCreate data =>
      obtain ⟨emprunt, -, hadd⟩ := Option.bind_eq_some_iff.mp hinscription
      cases hadd
      exact ⟨.emprunt, emprunt, _, rfl, fun _ => Iff.rfl⟩
  | reservationsCreate data =>
      obtain ⟨reservation, -, hadd⟩ := Option.bind_eq_some_iff.mp hinscription
      cases hadd
      exact ⟨.reservations, reservation, _, rfl, fun _ => Iff.rfl⟩
  | adherentCreate salt data =>
      obtain ⟨utilisateur, -, hadd⟩ := Option.bind_eq_some_iff.mp hinscription
      cases hadd
      exact ⟨.adherent, utilisateur, _, rfl, fun _ => Iff.rfl⟩

/-- The three kinds of entries, by what the request is. -/
theorem inscrit_cases (hentry : client.Inscrit runtime lus numero entry) :
    (∃ (ressource : Ressource) (row : ressource.Contenu) (links : Set (ℕ × ℕ)),
      entry = .add ressource numero (ressource.store row) links ∧
        (∀ link, link ∈ links ↔ client.Demande runtime lus numero link) ∧
          (∀ other id, ¬ client.Emporte lus other id) ∧
            ∀ source number data, client ≠ modifier source number data) ∨
      (∃ source number etat, client = ecrire (.delete source number) ∧
        Marche.rejouee (source.ligne number) lus = some etat ∧
          entry = .remove fun other => {id | other.ligne id ∈ etat.vus}) ∨
        ∃ source number data, ∃ (row : source.Contenu) (charge : Base),
          client = modifier source number data ∧
            source.chargee runtime number data lus = some row ∧ charge ∈ lus ∧
              entry = .change source number
                (source.store ∘ source.ecrit data row (source.reecrit runtime data row))
                {link | source = .livre ∧ link.1 = number ∧
                  LivreController.Names runtime data link.2 ∧ link ∉ charge.livreAuteur} := by
  cases client with
  | creerAuteur data =>
      obtain ⟨auteur, -, rfl⟩ := hentry
      exact Or.inl ⟨.auteur, auteur, _, rfl, fun _ => Iff.rfl, fun _ _ => id,
        fun _ _ _ heq => nomatch heq⟩
  | modifier source number data =>
      obtain ⟨row, charge, hchargee, hcharge, rfl⟩ := hentry
      exact Or.inr (Or.inr ⟨source, number, data, row, charge, rfl, hchargee, hcharge, rfl⟩)
  | ecrire commande =>
      by_cases hdelete : ∃ source number, commande = .delete source number
      · obtain ⟨source, number, rfl⟩ := hdelete
        obtain ⟨etat, hrejouee, -, rfl⟩ := hentry
        exact Or.inr (Or.inl ⟨source, number, etat, rfl, hrejouee, rfl⟩)
      · have hcree : ∀ source number, commande ≠ .delete source number :=
          fun source number heq => hdelete ⟨source, number, heq⟩
        obtain ⟨ressource, row, links, rfl, hlinks⟩ := exists_add_of_inscrit hcree hentry
        refine Or.inl ⟨ressource, row, links, rfl, hlinks, fun other id hgone => ?_,
          fun _ _ _ heq => nomatch heq⟩
        cases commande with
        | delete source number => exact hcree source number rfl
        | _ => exact hgone

theorem removes_inscrit_iff (hentry : client.Inscrit runtime lus numero entry)
    (ressource : Ressource) (id : ℕ) :
    entry.Removes ressource id ↔ client.Emporte lus ressource id := by
  obtain ⟨added, row, links, rfl, -, hgone, -⟩ | ⟨source, number, etat, rfl, hrejouee, rfl⟩ |
    ⟨source, number, data, row, charge, rfl, -, -, rfl⟩ := inscrit_cases hentry
  · exact iff_of_false (fun hremoves => hremoves) (hgone ressource id)
  · constructor
    · exact fun hmarked => ⟨etat, hrejouee, hmarked⟩
    · rintro ⟨other, hother, hmarked⟩
      cases hrejouee.symm.trans hother
      exact hmarked
  · exact Iff.rfl

theorem get_rewriting_inscrit {Valeur : Type} [DecidableEq Valeur]
    (colonne : Colonne ressource Valeur) (hentry : client.Inscrit runtime lus numero entry)
    {found : ressource.Contenu} (hfound : colonne.garde (colonne.get found) = colonne.get found) :
    colonne.get (entry.rewriting ressource id found) =
      (client.envoi colonne runtime id lus).getD (colonne.get found) := by
  obtain ⟨added, row, links, rfl, -, -, hmodifier⟩ | ⟨source, number, etat, rfl, -, rfl⟩ |
    ⟨source, number, data, row, charge, rfl, hchargee, -, rfl⟩ := inscrit_cases hentry
  · cases client with
    | modifier source number data => exact absurd rfl (hmodifier source number data)
    | _ => rfl
  · rfl
  · by_cases hsame : source = ressource ∧ number = id
    · obtain ⟨rfl, rfl⟩ := hsame
      rw [envoi, if_pos ⟨rfl, rfl⟩, Archive.Entry.rewriting, Function.update_self,
        Function.update_self, Function.comp_apply, colonne.get_store, colonne.get_ecrit]
      simp only [hchargee, Option.bind_eq_bind, Option.bind_some]
      split
      · rfl
      · rw [column_eq_getD_changed]
        cases changed (colonne.get row) (colonne.get (source.reecrit runtime data row)) with
        | none => exact hfound
        | some written => rfl
    · have hchanges : ¬ (Archive.Entry.change source number
          (source.store ∘ source.ecrit data row (source.reecrit runtime data row))
          {link | source = .livre ∧ link.1 = number ∧
            LivreController.Names runtime data link.2 ∧ link ∉ charge.livreAuteur} :
            Inscription).Changes ressource id := hsame
      rw [Archive.Entry.rewriting_of_not_changes hchanges, envoi, if_neg hsame,
        Option.getD_none]

theorem garde_envoi {Valeur : Type} [DecidableEq Valeur] (colonne : Colonne ressource Valeur)
    {value : Valeur} (hvalue : colonne.garde value = value) :
    colonne.garde ((client.envoi colonne runtime id lus).getD value) =
      (client.envoi colonne runtime id lus).getD value := by
  cases henvoi : client.envoi colonne runtime id lus with
  | none => exact hvalue
  | some written =>
      cases client with
      | ecrire commande | creerAuteur data => cases henvoi
      | modifier source number data =>
          rw [envoi] at henvoi
          split at henvoi
          · obtain ⟨row, -, hrow⟩ := Option.bind_eq_some_iff.mp henvoi
            obtain ⟨sent, -, rfl⟩ := Option.map_eq_some_iff.mp hrow
            exact colonne.garde_garde sent
          · cases henvoi

/-- The links of an entry are those the request asks for, up to those it found when it
loaded the collection. -/
theorem demande_of_mem_links (hentry : client.Inscrit runtime lus numero entry)
    {link : ℕ × ℕ} (hlink : link ∈ entry.links) : client.Demande runtime lus numero link := by
  obtain ⟨added, row, links, rfl, hlinks, -⟩ | ⟨source, number, etat, rfl, -, rfl⟩ |
    ⟨source, number, data, row, charge, rfl, -, -, rfl⟩ := inscrit_cases hentry
  · exact (hlinks link).mp hlink
  · exact hlink.elim
  · obtain ⟨rfl, hlivre, hnames, -⟩ := hlink
    exact ⟨hlivre, hnames⟩

theorem mem_links_of_demande (hentry : client.Inscrit runtime lus numero entry)
    {link : ℕ × ℕ} (hlink : client.Demande runtime lus numero link) :
    link ∈ entry.links ∨ ∃ charge ∈ lus, link ∈ charge.livreAuteur := by
  obtain ⟨added, row, links, rfl, hlinks, -⟩ | ⟨source, number, etat, rfl, -, rfl⟩ |
    ⟨source, number, data, row, charge, rfl, -, hcharge, rfl⟩ := inscrit_cases hentry
  · exact Or.inl ((hlinks link).mpr hlink)
  · exact hlink.elim
  · by_cases hloaded : link ∈ charge.livreAuteur
    · exact Or.inr ⟨charge, hcharge, hloaded⟩
    · cases source with
      | livre => exact Or.inl ⟨rfl, hlink.1, hlink.2, hloaded⟩
      | _ => exact hlink.elim

end Client

/-! ## After any execution -/

namespace Execution

/-- A row is there at the end if it was there before or an accepted creation was
answered its number, and the walk of no accepted deletion marked it. -/
theorem mem_ids_fin_iff (execution : Execution) (ressource : Ressource) (id : ℕ) :
    id ∈ (ressource.table execution.fin.base.toTables).ids ↔
      (id ∈ (ressource.table execution.base.toTables).ids ∨
        ∃ who ∈ execution.ordre, (execution.clients who).requete.cree = some ressource ∧
          id = execution.numero who) ∧
        ¬ ∃ who ∈ execution.ordre,
          (execution.clients who).Emporte (execution.lus who) ressource id := by
  obtain ⟨journal, hregistre⟩ := execution.run_registre
  have hadds := Requete.exists_mem_iff_of_forall₂ hregistre.entries
    fun who entry hentry => Client.adds_inscrit_iff hentry ressource id
  have hremoves := Requete.exists_mem_iff_of_forall₂ hregistre.entries
    fun who entry hentry => Client.removes_inscrit_iff hentry ressource id
  rw [← Base.filed_iff, hregistre.path.filed_iff, hadds, hremoves, Base.filed_iff]

/-- Where a row began: in the database before the execution, or with its creation. -/
def Premiere (execution : Execution) (id : ℕ) (first : ressource.Contenu) : Prop :=
  (ressource.table execution.base.toTables).find id = some first ∨
    ∃ who ∈ execution.ordre, ∃ links, (execution.clients who).Inscrit execution.runtime
      (execution.lus who) (execution.numero who) (.add ressource id first links)

theorem Premiere.garde_get {execution : Execution} {id : ℕ} {first : ressource.Contenu}
    (hfirst : execution.Premiere id first) {Valeur : Type} [DecidableEq Valeur]
    (colonne : Colonne ressource Valeur) :
    colonne.garde (colonne.get first) = colonne.get first := by
  rcases hfirst with hold | ⟨who, -, links, hentry⟩
  · rw [← colonne.get_store, ressource.store_eq_of_mem execution.base (id, first)
      ((Table.find_eq_some_iff _ _ _).mp hold)]
  · obtain ⟨added, row, asked, heq, -⟩ | ⟨_, _, _, -, -, heq⟩ | ⟨_, _, _, _, _, -, -, -, heq⟩ :=
      Client.inscrit_cases hentry
    · cases heq
      rw [← colonne.get_store, Ressource.store_store]
    · cases heq
    · cases heq

/-- What the accepted updates wrote to a column is what the rewritings of the row leave
there. -/
theorem getLastD_envoi (execution : Execution) {journal : List Inscription}
    (hregistre : execution.Registre journal) {Valeur : Type} [DecidableEq Valeur]
    (colonne : Colonne ressource Valeur) (id : ℕ) {first : ressource.Contenu}
    (hfirst : colonne.garde (colonne.get first) = colonne.get first) :
    (execution.ordre.filterMap fun who =>
        (execution.clients who).envoi colonne execution.runtime id
          (execution.lus who)).getLastD (colonne.get first) =
      colonne.get (journal.foldl (fun row entry => entry.rewriting ressource id row)
        first) := by
  rw [← foldl_getD_eq_getLastD]
  -- the two folds go on in step, and what a column holds is what it keeps
  have hstep : ∀ value found, (value = colonne.get found ∧ colonne.garde value = value) →
      ∀ who entry, (execution.clients who).Inscrit execution.runtime (execution.lus who)
        (execution.numero who) entry →
          ((execution.clients who).envoi colonne execution.runtime id
            (execution.lus who)).getD value =
              colonne.get (entry.rewriting ressource id found) ∧
            colonne.garde (((execution.clients who).envoi colonne execution.runtime id
              (execution.lus who)).getD value) =
                ((execution.clients who).envoi colonne execution.runtime id
                  (execution.lus who)).getD value := by
    rintro _ found ⟨rfl, hkept⟩ who entry hentry
    exact ⟨(Client.get_rewriting_inscrit colonne hentry hkept).symm,
      Client.garde_envoi colonne hkept⟩
  exact (List.rel_foldl (P := fun value found => value = colonne.get found ∧
    colonne.garde value = value) (fun value found hsame who entry hentry =>
      hstep value found hsame who entry hentry) ⟨rfl, hfirst⟩ hregistre.entries).1

/-- A row began with what it held before the execution or when it was created.  Since
then each of its columns holds what the last of the accepted updates wrote: a date that
was sent, or a value that differs from the one that was read.  A row to which no
accepted update was sent is as it was. -/
theorem get_fin (execution : Execution) {id : ℕ} {row : ressource.Contenu}
    (hrow : (ressource.table execution.fin.base.toTables).find id = some row) :
    ∃ first, execution.Premiere id first ∧
      (∀ (Valeur : Type) [DecidableEq Valeur] (colonne : Colonne ressource Valeur),
        colonne.get row = (execution.ordre.filterMap fun who =>
          (execution.clients who).envoi colonne execution.runtime id
            (execution.lus who)).getLastD (colonne.get first)) ∧
      ((∀ who ∈ execution.ordre, ∀ data, execution.clients who ≠ .modifier ressource id data) →
        row = first) := by
  obtain ⟨journal, hregistre⟩ := execution.run_registre
  obtain ⟨first, hfirst, hfold⟩ := hregistre.path.exists_first hrow
  have hpremiere : execution.Premiere id first := by
    rcases hfirst with hold | ⟨links, hmember⟩
    · exact Or.inl hold
    · obtain ⟨who, hwho, hentry⟩ :=
        Requete.exists_mem_of_forall₂ hregistre.entries.flip hmember
      exact Or.inr ⟨who, hwho, links, hentry⟩
  have hget : ∀ (Valeur : Type) [DecidableEq Valeur] (colonne : Colonne ressource Valeur),
      colonne.get row = (execution.ordre.filterMap fun who =>
        (execution.clients who).envoi colonne execution.runtime id
          (execution.lus who)).getLastD (colonne.get first) := by
    intro Valeur _ colonne
    rw [hfold, execution.getLastD_envoi hregistre colonne id (hpremiere.garde_get colonne)]
  refine ⟨first, hpremiere, hget, fun hsilent => ?_⟩
  apply Ressource.ext_colonne
  intro Valeur _ colonne
  have hnone : (execution.ordre.filterMap fun who =>
      (execution.clients who).envoi colonne execution.runtime id
        (execution.lus who)) = [] := by
    apply List.filterMap_eq_nil_iff.mpr
    intro who hwho
    cases hclient : execution.clients who with
    | ecrire commande | creerAuteur data => rfl
    | modifier source number data =>
        refine if_neg ?_
        rintro ⟨rfl, rfl⟩
        exact hsilent who hwho data hclient
  rw [hget, hnone, List.getLastD_nil]

/-- Two updates of the sample book that read at the same time; the second one sends
the language that it has read. -/
def overlapped : Execution where
  runtime := .dev
  clients
    | 0 => .modifier .livre 1 (.object [("langue", .str "FR")])
    | _ => .modifier .livre 1
        (.object [("titre", .str "Persuasion"), ("langue", .str "EN")])
  base := Base.sample
  schedule := [0, 1, 0, 1]

theorem get_fin_overlapped :
    ∃ row, (Ressource.livre.table overlapped.fin.base.toTables).find 1 = some row ∧
      ∃ first, overlapped.Premiere 1 first ∧
        ∀ (Valeur : Type) [DecidableEq Valeur] (colonne : Colonne .livre Valeur),
          colonne.get row = (overlapped.ordre.filterMap fun who =>
            (overlapped.clients who).envoi colonne overlapped.runtime 1
              (overlapped.lus who)).getLastD (colonne.get first) :=
  have hrow : (Ressource.livre.table overlapped.fin.base.toTables).find 1 =
      some ⟨"Persuasion", Date.sample, "FR", none, 1⟩ := by decide +kernel
  have ⟨first, hfirst, hget, _⟩ := get_fin overlapped hrow
  ⟨_, hrow, first, hfirst, hget⟩

/-- A book and an author are linked at the end exactly if both are there and they
were linked before or an accepted request asked for the link. -/
theorem mem_livreAuteur_fin_iff (execution : Execution) (link : ℕ × ℕ) :
    link ∈ execution.fin.base.livreAuteur ↔
      (link ∈ execution.base.livreAuteur ∨ ∃ who ∈ execution.ordre,
          (execution.clients who).Demande execution.runtime (execution.lus who)
            (execution.numero who) link) ∧
        link.1 ∈ execution.fin.base.livre.ids ∧ link.2 ∈ execution.fin.base.auteur.ids := by
  obtain ⟨journal, hregistre⟩ := execution.run_registre
  have hlinks := hregistre.path.path.mem_links_iff link
  rw [Base.filed_iff, Base.filed_iff] at hlinks
  refine hlinks.trans (and_congr_left fun hends => or_congr_right' fun hold => ?_)
  constructor
  · rintro ⟨entry, hmember, hlink⟩
    obtain ⟨who, hwho, hentry⟩ := Requete.exists_mem_of_forall₂ hregistre.entries.flip hmember
    exact ⟨who, hwho, Client.demande_of_mem_links hentry hlink⟩
  · rintro ⟨who, hwho, hdemande⟩
    obtain ⟨entry, hmember, hentry⟩ := Requete.exists_mem_of_forall₂ hregistre.entries hwho
    rcases Client.mem_links_of_demande hentry hdemande with hlink | ⟨charge, hcharge, hloaded⟩
    · exact ⟨entry, hmember, hlink⟩
    · -- a link that was found when the collection was loaded is still there
      obtain ⟨later, hpath⟩ := execution.suite_of_mem_lus hcharge
      have hfinal : link ∈ execution.fin.base.fonds.links := by
        refine (hpath.mem_links_iff link).mpr ⟨Or.inl hloaded, ?_⟩
        rwa [Base.filed_iff, Base.filed_iff]
      exact (hlinks.mp hfinal).1.resolve_left hold

end Execution

end Bibliotheque
