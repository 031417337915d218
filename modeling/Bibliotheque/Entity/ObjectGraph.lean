import Bibliotheque.Entity.ManyToMany
import Bibliotheque.Entity.OneToMany
import Bibliotheque.Entity.OneToOne

/-!
# Objects built with `new`

Objects of the six classes are numbered in the order they are built.  A typed
property without a default value is uninitialised until the constructor, or a
setter, gives it one, and reading it before that is an error.  `Livre`,
`Auteur` and `Categorie` initialise their collections in their constructors;
`Utilisateur` has no constructor.  The association methods run on the
collections of the preceding modules and check every property they read.
-/

namespace Bibliotheque

/-- The entity classes. -/
inductive Classe
  | livre
  | auteur
  | categorie
  | utilisateur
  | emprunt
  | reservations
  deriving DecidableEq

/-- The association properties of the entity classes. -/
inductive Propriete
  | livreAuteurs
  | livreCategorie
  | livreEmprunts
  | livreReservations
  | auteurLivres
  | categorieLivres
  | utilisateurEmprunts
  | utilisateurReservations
  | empruntEmprunteur
  | empruntLivre
  | reservationsLivre
  | reservationsReservateur
  deriving DecidableEq

namespace Propriete

def nom : Propriete → String
  | livreAuteurs => "Livre::$auteurs"
  | livreCategorie => "Livre::$categorie"
  | livreEmprunts => "Livre::$emprunts"
  | livreReservations => "Livre::$reservations"
  | auteurLivres => "Auteur::$livres"
  | categorieLivres => "Categorie::$livres"
  | utilisateurEmprunts => "Utilisateur::$emprunts"
  | utilisateurReservations => "Utilisateur::$reservations"
  | empruntEmprunteur => "Emprunt::$emprunteur"
  | empruntLivre => "Emprunt::$livre"
  | reservationsLivre => "Reservations::$livre"
  | reservationsReservateur => "Reservations::$reservateur"

/-- What reading the property raises while it is uninitialised. -/
def nonInitialisee (propriete : Propriete) : Throwable :=
  .error (propriete.nom ++ " must not be accessed before initialization")

end Propriete

namespace Classe

/-- The properties declared with `= null`. -/
def nulles : Classe → List Propriete
  | livre => [.livreCategorie, .livreReservations]
  | auteur => []
  | categorie => []
  | utilisateur => [.utilisateurReservations]
  | emprunt => [.empruntEmprunteur, .empruntLivre]
  | reservations => [.reservationsLivre, .reservationsReservateur]

/-- The properties `__construct` assigns.  Three classes have no constructor. -/
def construites : Classe → List Propriete
  | livre => [.livreAuteurs, .livreEmprunts]
  | auteur => [.auteurLivres]
  | categorie => [.categorieLivres]
  | utilisateur => []
  | emprunt => []
  | reservations => []

/-- The properties that have a value after `new`. -/
def initiales (classe : Classe) : List Propriete :=
  classe.nulles ++ classe.construites

end Classe

/-- The one-to-many associations. -/
inductive Association
  | categorieLivres
  | livreEmprunts
  | utilisateurEmprunts
  deriving DecidableEq

namespace Association

def parent : Association → Classe
  | categorieLivres => .categorie
  | livreEmprunts => .livre
  | utilisateurEmprunts => .utilisateur

def enfant : Association → Classe
  | categorieLivres => .livre
  | livreEmprunts => .emprunt
  | utilisateurEmprunts => .emprunt

/-- The collection of the parent. -/
def collection : Association → Propriete
  | categorieLivres => .categorieLivres
  | livreEmprunts => .livreEmprunts
  | utilisateurEmprunts => .utilisateurEmprunts

/-- The owning field of the child. -/
def champ : Association → Propriete
  | categorieLivres => .livreCategorie
  | livreEmprunts => .empruntLivre
  | utilisateurEmprunts => .empruntEmprunteur

end Association

/-- The objects built so far: their classes, the properties that have a value,
and the values of the association properties. -/
structure Graphe where
  classes : List Classe
  initialised : ℕ → Propriete → Bool
  liens : Liens ℕ ℕ
  possessions : Association → Possession ℕ ℕ
  attributions : Attributions ℕ ℕ ℕ

namespace Graphe

/-- No object yet. -/
def vide : Graphe where
  classes := []
  initialised := fun _ _ => false
  liens := .vide
  possessions := fun _ => .vide
  attributions := .vide

/-- The object exists and is of this class. -/
def EstUn (graphe : Graphe) (objet : ℕ) (classe : Classe) : Prop :=
  graphe.classes[objet]? = some classe

/-- `new`: the defaults, then the constructor. -/
def nouveau (graphe : Graphe) (classe : Classe) : Graphe :=
  { graphe with
    classes := graphe.classes ++ [classe]
    initialised := Function.update graphe.initialised graphe.classes.length
      fun propriete => decide (propriete ∈ classe.initiales) }

def avecLiens (graphe : Graphe) (liens : Liens ℕ ℕ) : Graphe :=
  { graphe with liens := liens }

def avecPossession (graphe : Graphe) (association : Association)
    (possession : Possession ℕ ℕ) : Graphe :=
  { graphe with
    possessions := Function.update graphe.possessions association possession }

def avecAttributions (graphe : Graphe) (attributions : Attributions ℕ ℕ ℕ) :
    Graphe :=
  { graphe with attributions := attributions }

/-- Read a property and go on. -/
def lire (graphe : Graphe) (objet : ℕ) (propriete : Propriete)
    (suite : Except Throwable Graphe) : Except Throwable Graphe :=
  if graphe.initialised objet propriete then suite
  else .error propriete.nonInitialisee

/-- An assignment initialises the property. -/
def ecrire (graphe : Graphe) (objet : ℕ) (propriete : Propriete) : Graphe :=
  { graphe with
    initialised := Function.update graphe.initialised objet
      (Function.update (graphe.initialised objet) propriete true) }

/-! ## The methods -/

/-- A method that returns a collection. -/
def get (graphe : Graphe) (collection : Propriete) (objet : ℕ) :
    Except Throwable Graphe :=
  graphe.lire objet collection (.ok graphe)

/-- The `add` method of a one-to-many collection. -/
def add (graphe : Graphe) (association : Association) (parent enfant : ℕ) :
    Except Throwable Graphe :=
  let possession := graphe.possessions association
  let apres := graphe.avecPossession association (possession.add parent enfant)
  graphe.lire parent association.collection <|
    if enfant ∈ possession.collection parent then .ok apres
    else .ok (apres.ecrire enfant association.champ)

/-- The `remove` method of a one-to-many collection. -/
def remove (graphe : Graphe) (association : Association) (parent enfant : ℕ) :
    Except Throwable Graphe :=
  let possession := graphe.possessions association
  let apres := graphe.avecPossession association (possession.remove parent enfant)
  graphe.lire parent association.collection <|
    if enfant ∈ possession.collection parent then
      graphe.lire enfant association.champ <|
        -- set the owning side to null, unless already changed
        if possession.owner enfant = some parent then
          .ok (apres.ecrire enfant association.champ)
        else .ok apres
    else .ok apres

/-- A `setReservations` method: `champ` is the owning field of the reservation,
`owner` its value, `inverse` the field of the parent. -/
def setReservations (graphe : Graphe) (champ inverse : Propriete)
    (parent reservations : ℕ) (owner : Option ℕ)
    (attributions : Attributions ℕ ℕ ℕ) : Except Throwable Graphe :=
  let apres := graphe.avecAttributions attributions
  graphe.lire reservations champ <|
    -- set the owning side of the relation if necessary
    if owner ≠ some parent then
      .ok ((apres.ecrire reservations champ).ecrire parent inverse)
    else .ok (apres.ecrire parent inverse)

namespace Categorie

def getLivres (graphe : Graphe) (categorie : ℕ) : Except Throwable Graphe :=
  graphe.get .categorieLivres categorie

def addLivre (graphe : Graphe) (categorie livre : ℕ) : Except Throwable Graphe :=
  graphe.add .categorieLivres categorie livre

def removeLivre (graphe : Graphe) (categorie livre : ℕ) :
    Except Throwable Graphe :=
  graphe.remove .categorieLivres categorie livre

end Categorie

mutual

/-- `Livre::addAuteur` with at most `depth` nested calls. -/
def Livre.addAuteurWithin :
    ℕ → Graphe → ℕ → ℕ → Except Throwable Graphe
  | 0, _, _, _ => .error (.error "Maximum function nesting level reached")
  | depth + 1, graphe, livre, auteur =>
      graphe.lire livre .livreAuteurs <|
        if auteur ∈ graphe.liens.auteurs livre then .ok graphe
        else
          Auteur.addLivreWithin depth
            (graphe.avecLiens (graphe.liens.setAuteurs livre
              (graphe.liens.auteurs livre ++ [auteur]))) auteur livre

/-- `Auteur::addLivre` with at most `depth` nested calls. -/
def Auteur.addLivreWithin :
    ℕ → Graphe → ℕ → ℕ → Except Throwable Graphe
  | 0, _, _, _ => .error (.error "Maximum function nesting level reached")
  | depth + 1, graphe, auteur, livre =>
      graphe.lire auteur .auteurLivres <|
        if livre ∈ graphe.liens.livres auteur then .ok graphe
        else
          Livre.addAuteurWithin depth
            (graphe.avecLiens (graphe.liens.setLivres auteur
              (graphe.liens.livres auteur ++ [livre]))) livre auteur

end

namespace Livre

def getAuteurs (graphe : Graphe) (livre : ℕ) : Except Throwable Graphe :=
  graphe.get .livreAuteurs livre

/-- One call more than there are sides without the link. -/
def addAuteur (graphe : Graphe) (livre auteur : ℕ) : Except Throwable Graphe :=
  addAuteurWithin (graphe.liens.manquants livre auteur + 1) graphe livre auteur

def removeAuteur (graphe : Graphe) (livre auteur : ℕ) : Except Throwable Graphe :=
  graphe.lire livre .livreAuteurs <|
    .ok (graphe.avecLiens (graphe.liens.removeAuteur livre auteur))

def getEmprunts (graphe : Graphe) (livre : ℕ) : Except Throwable Graphe :=
  graphe.get .livreEmprunts livre

def addEmprunt (graphe : Graphe) (livre emprunt : ℕ) : Except Throwable Graphe :=
  graphe.add .livreEmprunts livre emprunt

def removeEmprunt (graphe : Graphe) (livre emprunt : ℕ) :
    Except Throwable Graphe :=
  graphe.remove .livreEmprunts livre emprunt

def setReservations (graphe : Graphe) (livre reservations : ℕ) :
    Except Throwable Graphe :=
  graphe.setReservations .reservationsLivre .livreReservations livre reservations
    (graphe.attributions.livre.owner reservations)
    (Attributions.Livre.setReservations graphe.attributions livre reservations)

end Livre

namespace Auteur

def getLivres (graphe : Graphe) (auteur : ℕ) : Except Throwable Graphe :=
  graphe.get .auteurLivres auteur

/-- One call more than there are sides without the link. -/
def addLivre (graphe : Graphe) (auteur livre : ℕ) : Except Throwable Graphe :=
  addLivreWithin (graphe.liens.manquants livre auteur + 1) graphe auteur livre

def removeLivre (graphe : Graphe) (auteur livre : ℕ) : Except Throwable Graphe :=
  graphe.lire auteur .auteurLivres <|
    if livre ∈ graphe.liens.livres auteur then
      Livre.removeAuteur
        (graphe.avecLiens (graphe.liens.setLivres auteur
          ((graphe.liens.livres auteur).erase livre))) livre auteur
    else .ok graphe

end Auteur

namespace Utilisateur

def getEmprunts (graphe : Graphe) (utilisateur : ℕ) : Except Throwable Graphe :=
  graphe.get .utilisateurEmprunts utilisateur

def addEmprunt (graphe : Graphe) (utilisateur emprunt : ℕ) :
    Except Throwable Graphe :=
  graphe.add .utilisateurEmprunts utilisateur emprunt

def removeEmprunt (graphe : Graphe) (utilisateur emprunt : ℕ) :
    Except Throwable Graphe :=
  graphe.remove .utilisateurEmprunts utilisateur emprunt

def setReservations (graphe : Graphe) (utilisateur reservations : ℕ) :
    Except Throwable Graphe :=
  graphe.setReservations .reservationsReservateur .utilisateurReservations
    utilisateur reservations (graphe.attributions.reservateur.owner reservations)
    (Attributions.Utilisateur.setReservations graphe.attributions utilisateur
      reservations)

end Utilisateur

/-! ## Sequences of operations -/

/-- `new`, or a call of an association method. -/
inductive Operation
  | nouveau (classe : Classe)
  | livreGetAuteurs (livre : ℕ)
  | livreAddAuteur (livre auteur : ℕ)
  | livreRemoveAuteur (livre auteur : ℕ)
  | livreGetEmprunts (livre : ℕ)
  | livreAddEmprunt (livre emprunt : ℕ)
  | livreRemoveEmprunt (livre emprunt : ℕ)
  | livreSetReservations (livre reservations : ℕ)
  | auteurGetLivres (auteur : ℕ)
  | auteurAddLivre (auteur livre : ℕ)
  | auteurRemoveLivre (auteur livre : ℕ)
  | categorieGetLivres (categorie : ℕ)
  | categorieAddLivre (categorie livre : ℕ)
  | categorieRemoveLivre (categorie livre : ℕ)
  | utilisateurGetEmprunts (utilisateur : ℕ)
  | utilisateurAddEmprunt (utilisateur emprunt : ℕ)
  | utilisateurRemoveEmprunt (utilisateur emprunt : ℕ)
  | utilisateurSetReservations (utilisateur reservations : ℕ)

def executer (graphe : Graphe) : Operation → Except Throwable Graphe
  | .nouveau classe => .ok (graphe.nouveau classe)
  | .livreGetAuteurs livre => Livre.getAuteurs graphe livre
  | .livreAddAuteur livre auteur => Livre.addAuteur graphe livre auteur
  | .livreRemoveAuteur livre auteur => Livre.removeAuteur graphe livre auteur
  | .livreGetEmprunts livre => Livre.getEmprunts graphe livre
  | .livreAddEmprunt livre emprunt => Livre.addEmprunt graphe livre emprunt
  | .livreRemoveEmprunt livre emprunt => Livre.removeEmprunt graphe livre emprunt
  | .livreSetReservations livre reservations =>
      Livre.setReservations graphe livre reservations
  | .auteurGetLivres auteur => Auteur.getLivres graphe auteur
  | .auteurAddLivre auteur livre => Auteur.addLivre graphe auteur livre
  | .auteurRemoveLivre auteur livre => Auteur.removeLivre graphe auteur livre
  | .categorieGetLivres categorie => Categorie.getLivres graphe categorie
  | .categorieAddLivre categorie livre => Categorie.addLivre graphe categorie livre
  | .categorieRemoveLivre categorie livre =>
      Categorie.removeLivre graphe categorie livre
  | .utilisateurGetEmprunts utilisateur =>
      Utilisateur.getEmprunts graphe utilisateur
  | .utilisateurAddEmprunt utilisateur emprunt =>
      Utilisateur.addEmprunt graphe utilisateur emprunt
  | .utilisateurRemoveEmprunt utilisateur emprunt =>
      Utilisateur.removeEmprunt graphe utilisateur emprunt
  | .utilisateurSetReservations utilisateur reservations =>
      Utilisateur.setReservations graphe utilisateur reservations

/-- The operations one after the other, up to the first error. -/
def executerTout (graphe : Graphe) (operations : List Operation) :
    Except Throwable Graphe :=
  operations.foldlM executer graphe

namespace Operation

/-- The objects the operation names exist, and are of the classes its signature
asks for. -/
def Typee (classes : List Classe) : Operation → Prop
  | nouveau _ => True
  | livreGetAuteurs livre => classes[livre]? = some .livre
  | livreAddAuteur livre auteur =>
      classes[livre]? = some .livre ∧ classes[auteur]? = some .auteur
  | livreRemoveAuteur livre auteur =>
      classes[livre]? = some .livre ∧ classes[auteur]? = some .auteur
  | livreGetEmprunts livre => classes[livre]? = some .livre
  | livreAddEmprunt livre emprunt =>
      classes[livre]? = some .livre ∧ classes[emprunt]? = some .emprunt
  | livreRemoveEmprunt livre emprunt =>
      classes[livre]? = some .livre ∧ classes[emprunt]? = some .emprunt
  | livreSetReservations livre reservations =>
      classes[livre]? = some .livre ∧ classes[reservations]? = some .reservations
  | auteurGetLivres auteur => classes[auteur]? = some .auteur
  | auteurAddLivre auteur livre =>
      classes[auteur]? = some .auteur ∧ classes[livre]? = some .livre
  | auteurRemoveLivre auteur livre =>
      classes[auteur]? = some .auteur ∧ classes[livre]? = some .livre
  | categorieGetLivres categorie => classes[categorie]? = some .categorie
  | categorieAddLivre categorie livre =>
      classes[categorie]? = some .categorie ∧ classes[livre]? = some .livre
  | categorieRemoveLivre categorie livre =>
      classes[categorie]? = some .categorie ∧ classes[livre]? = some .livre
  | utilisateurGetEmprunts utilisateur => classes[utilisateur]? = some .utilisateur
  | utilisateurAddEmprunt utilisateur emprunt =>
      classes[utilisateur]? = some .utilisateur ∧ classes[emprunt]? = some .emprunt
  | utilisateurRemoveEmprunt utilisateur emprunt =>
      classes[utilisateur]? = some .utilisateur ∧ classes[emprunt]? = some .emprunt
  | utilisateurSetReservations utilisateur reservations =>
      classes[utilisateur]? = some .utilisateur ∧
        classes[reservations]? = some .reservations

/-- The classes of the objects after the operation. -/
def classesApres (classes : List Classe) : Operation → List Classe
  | nouveau classe => classes ++ [classe]
  | _ => classes

/-- A call of one of the three methods of `Utilisateur::$emprunts`. -/
def EmpruntsDUtilisateur : Operation → Prop
  | utilisateurGetEmprunts _ => True
  | utilisateurAddEmprunt _ _ => True
  | utilisateurRemoveEmprunt _ _ => True
  | _ => False

end Operation

/-! ## What is initialised -/

/-- An object has values for the properties that `new` gives one, and no
others. -/
def Conforme (graphe : Graphe) : Prop :=
  ∀ objet classe, graphe.EstUn objet classe → ∀ propriete,
    graphe.initialised objet propriete = decide (propriete ∈ classe.initiales)

theorem conforme_vide : vide.Conforme := by
  intro objet classe hobjet
  simp [EstUn, vide] at hobjet

theorem Conforme.nouveau {graphe : Graphe} (hconforme : graphe.Conforme)
    (classe : Classe) : (graphe.nouveau classe).Conforme := by
  intro objet other hobjet propriete
  simp only [EstUn, Graphe.nouveau] at hobjet ⊢
  by_cases hnew : objet = graphe.classes.length
  · subst hnew
    rw [List.getElem?_concat_length, Option.some.injEq] at hobjet
    rw [Function.update_self, hobjet]
  · rw [Function.update_of_ne hnew]
    apply hconforme objet other
    -- an index of the longer list that is not its last
    rw [EstUn, ← hobjet]
    obtain ⟨hlength, -⟩ := List.getElem?_eq_some_iff.mp hobjet
    rw [List.length_append, List.length_singleton] at hlength
    exact (List.getElem?_append_left (by omega)).symm

/-- The call returns, and the same properties have a value. -/
def Rend (graphe : Graphe) (appel : Except Throwable Graphe) : Prop :=
  ∃ suite : Graphe, appel = .ok suite ∧ suite.classes = graphe.classes ∧
    suite.initialised = graphe.initialised

theorem rend_ok (graphe : Graphe) : graphe.Rend (.ok graphe) :=
  ⟨graphe, rfl, rfl, rfl⟩

theorem lire_of_initialised {graphe : Graphe} {objet : ℕ} {propriete : Propriete}
    (hvalue : graphe.initialised objet propriete = true)
    (suite : Except Throwable Graphe) :
    graphe.lire objet propriete suite = suite :=
  if_pos hvalue

theorem ecrire_of_initialised {graphe : Graphe} {objet : ℕ}
    {propriete : Propriete}
    (hvalue : graphe.initialised objet propriete = true) :
    (graphe.ecrire objet propriete).initialised = graphe.initialised := by
  simp only [ecrire]
  rw [← hvalue, Function.update_eq_self, Function.update_eq_self]

theorem rend_get {graphe : Graphe} {collection : Propriete} {objet : ℕ}
    (hvalue : graphe.initialised objet collection = true) :
    graphe.Rend (graphe.get collection objet) := by
  rw [get, lire_of_initialised hvalue]
  exact graphe.rend_ok

theorem rend_add {graphe : Graphe} {association : Association}
    {parent enfant : ℕ}
    (hparent : graphe.initialised parent association.collection = true)
    (henfant : graphe.initialised enfant association.champ = true) :
    graphe.Rend (graphe.add association parent enfant) := by
  simp only [add]
  rw [lire_of_initialised hparent]
  split
  · exact ⟨_, rfl, rfl, rfl⟩
  · exact ⟨_, rfl, rfl, ecrire_of_initialised henfant⟩

theorem rend_remove {graphe : Graphe} {association : Association}
    {parent enfant : ℕ}
    (hparent : graphe.initialised parent association.collection = true)
    (henfant : graphe.initialised enfant association.champ = true) :
    graphe.Rend (graphe.remove association parent enfant) := by
  simp only [remove]
  rw [lire_of_initialised hparent, lire_of_initialised henfant]
  split
  · split
    · exact ⟨_, rfl, rfl, ecrire_of_initialised henfant⟩
    · exact ⟨_, rfl, rfl, rfl⟩
  · exact ⟨_, rfl, rfl, rfl⟩

/-- The recursion of the two `add` methods ends before its depth is used up,
and reads two properties only. -/
theorem rend_within (livre auteur : ℕ) :
    ∀ (depth : ℕ) (graphe : Graphe),
      graphe.liens.manquants livre auteur < depth →
      graphe.initialised livre .livreAuteurs = true →
      graphe.initialised auteur .auteurLivres = true →
        graphe.Rend (Livre.addAuteurWithin depth graphe livre auteur) ∧
          graphe.Rend (Auteur.addLivreWithin depth graphe auteur livre) := by
  intro depth
  induction depth with
  | zero => exact fun graphe hdepth => absurd hdepth (Nat.not_lt_zero _)
  | succ depth ih =>
      intro graphe hdepth hlivre hauteur
      constructor
      · rw [Livre.addAuteurWithin, lire_of_initialised hlivre]
        split
        · exact graphe.rend_ok
        · rename_i habsent
          have hless := Liens.manquants_setAuteurs habsent
          exact (ih (graphe.avecLiens (graphe.liens.setAuteurs livre
            (graphe.liens.auteurs livre ++ [auteur])))
            (by simp only [avecLiens]; omega) hlivre hauteur).2
      · rw [Auteur.addLivreWithin, lire_of_initialised hauteur]
        split
        · exact graphe.rend_ok
        · rename_i habsent
          have hless := Liens.manquants_setLivres habsent
          exact (ih (graphe.avecLiens (graphe.liens.setLivres auteur
            (graphe.liens.livres auteur ++ [livre])))
            (by simp only [avecLiens]; omega) hlivre hauteur).1

theorem rend_removeAuteur (graphe : Graphe) {livre : ℕ} (auteur : ℕ)
    (hlivre : graphe.initialised livre .livreAuteurs = true) :
    graphe.Rend (Livre.removeAuteur graphe livre auteur) := by
  rw [Livre.removeAuteur, lire_of_initialised hlivre]
  exact ⟨_, rfl, rfl, rfl⟩

theorem rend_removeLivre {graphe : Graphe} {auteur livre : ℕ}
    (hauteur : graphe.initialised auteur .auteurLivres = true)
    (hlivre : graphe.initialised livre .livreAuteurs = true) :
    graphe.Rend (Auteur.removeLivre graphe auteur livre) := by
  rw [Auteur.removeLivre, lire_of_initialised hauteur]
  split
  · exact rend_removeAuteur (graphe.avecLiens _) auteur hlivre
  · exact graphe.rend_ok

theorem rend_setReservations {graphe : Graphe} {champ inverse : Propriete}
    {parent reservations : ℕ}
    (hreservations : graphe.initialised reservations champ = true)
    (hparent : graphe.initialised parent inverse = true) (owner : Option ℕ)
    (attributions : Attributions ℕ ℕ ℕ) :
    graphe.Rend (graphe.setReservations champ inverse parent reservations owner
      attributions) := by
  have howning : ((graphe.avecAttributions attributions).ecrire reservations
      champ).initialised = graphe.initialised := ecrire_of_initialised hreservations
  simp only [setReservations]
  rw [lire_of_initialised hreservations]
  split
  · refine ⟨_, rfl, rfl, ?_⟩
    rw [ecrire_of_initialised (by rw [howning, hparent]), howning]
  · exact ⟨_, rfl, rfl, ecrire_of_initialised hparent⟩

theorem Conforme.initialised {graphe : Graphe} (hconforme : graphe.Conforme)
    {objet : ℕ} {classe : Classe} {propriete : Propriete}
    (hobjet : graphe.EstUn objet classe) (hinitiale : propriete ∈ classe.initiales) :
    graphe.initialised objet propriete = true := by
  rw [hconforme objet classe hobjet propriete, decide_eq_true hinitiale]

theorem Conforme.rend {graphe : Graphe} (hconforme : graphe.Conforme)
    {appel : Except Throwable Graphe} (hrend : graphe.Rend appel) :
    ∃ suite : Graphe, appel = .ok suite ∧ suite.Conforme ∧
      suite.classes = graphe.classes := by
  obtain ⟨suite, hsuite, hclasses, hinitialised⟩ := hrend
  refine ⟨suite, hsuite, ?_, hclasses⟩
  intro objet classe hobjet propriete
  rw [EstUn, hclasses] at hobjet
  rw [hinitialised, hconforme objet classe hobjet propriete]

/-- One operation, unless it needs the loans of a user: it returns, and the
objects have the values `new` gave them. -/
theorem Conforme.executer {graphe : Graphe} (hconforme : graphe.Conforme)
    {operation : Operation} (htypee : operation.Typee graphe.classes)
    (hsans : ¬operation.EmpruntsDUtilisateur) :
    ∃ suite : Graphe, graphe.executer operation = .ok suite ∧ suite.Conforme ∧
      suite.classes = operation.classesApres graphe.classes := by
  cases operation with
  | nouveau classe => exact ⟨_, rfl, hconforme.nouveau classe, rfl⟩
  | livreGetAuteurs livre =>
      exact hconforme.rend (rend_get (hconforme.initialised htypee (by decide)))
  | livreAddAuteur livre auteur =>
      exact hconforme.rend (rend_within livre auteur _ graphe (Nat.lt_succ_self _)
        (hconforme.initialised htypee.1 (by decide))
        (hconforme.initialised htypee.2 (by decide))).1
  | livreRemoveAuteur livre auteur =>
      exact hconforme.rend (rend_removeAuteur graphe auteur
        (hconforme.initialised htypee.1 (by decide)))
  | livreGetEmprunts livre =>
      exact hconforme.rend (rend_get (hconforme.initialised htypee (by decide)))
  | livreAddEmprunt livre emprunt =>
      exact hconforme.rend (rend_add (hconforme.initialised htypee.1 (by decide))
        (hconforme.initialised htypee.2 (by decide)))
  | livreRemoveEmprunt livre emprunt =>
      exact hconforme.rend (rend_remove
        (hconforme.initialised htypee.1 (by decide))
        (hconforme.initialised htypee.2 (by decide)))
  | livreSetReservations livre reservations =>
      exact hconforme.rend (rend_setReservations
        (hconforme.initialised htypee.2 (by decide))
        (hconforme.initialised htypee.1 (by decide)) _ _)
  | auteurGetLivres auteur =>
      exact hconforme.rend (rend_get (hconforme.initialised htypee (by decide)))
  | auteurAddLivre auteur livre =>
      exact hconforme.rend (rend_within livre auteur _ graphe (Nat.lt_succ_self _)
        (hconforme.initialised htypee.2 (by decide))
        (hconforme.initialised htypee.1 (by decide))).2
  | auteurRemoveLivre auteur livre =>
      exact hconforme.rend (rend_removeLivre
        (hconforme.initialised htypee.1 (by decide))
        (hconforme.initialised htypee.2 (by decide)))
  | categorieGetLivres categorie =>
      exact hconforme.rend (rend_get (hconforme.initialised htypee (by decide)))
  | categorieAddLivre categorie livre =>
      exact hconforme.rend (rend_add (hconforme.initialised htypee.1 (by decide))
        (hconforme.initialised htypee.2 (by decide)))
  | categorieRemoveLivre categorie livre =>
      exact hconforme.rend (rend_remove
        (hconforme.initialised htypee.1 (by decide))
        (hconforme.initialised htypee.2 (by decide)))
  | utilisateurGetEmprunts utilisateur => exact absurd trivial hsans
  | utilisateurAddEmprunt utilisateur emprunt => exact absurd trivial hsans
  | utilisateurRemoveEmprunt utilisateur emprunt => exact absurd trivial hsans
  | utilisateurSetReservations utilisateur reservations =>
      exact hconforme.rend (rend_setReservations
        (hconforme.initialised htypee.2 (by decide))
        (hconforme.initialised htypee.1 (by decide)) _ _)

/-- No constructor and no setter gives `Utilisateur::$emprunts` a value, so its
three methods fail on every user. -/
theorem Conforme.executer_emprunts {graphe : Graphe}
    (hconforme : graphe.Conforme) {operation : Operation}
    (htypee : operation.Typee graphe.classes)
    (hemprunts : operation.EmpruntsDUtilisateur) :
    graphe.executer operation =
      .error Propriete.utilisateurEmprunts.nonInitialisee := by
  have hnone : ∀ objet suite, graphe.EstUn objet .utilisateur →
      graphe.lire objet .utilisateurEmprunts suite =
        .error Propriete.utilisateurEmprunts.nonInitialisee := by
    intro objet suite hobjet
    have hvalue : graphe.initialised objet .utilisateurEmprunts = false :=
      hconforme objet .utilisateur hobjet .utilisateurEmprunts
    rw [lire, hvalue]
    rfl
  cases operation with
  | utilisateurGetEmprunts utilisateur => exact hnone utilisateur _ htypee
  | utilisateurAddEmprunt utilisateur emprunt => exact hnone utilisateur _ htypee.1
  | utilisateurRemoveEmprunt utilisateur emprunt =>
      exact hnone utilisateur _ htypee.1
  | _ => exact hemprunts.elim

theorem Conforme.executerTout :
    ∀ (operations : List Operation) {graphe : Graphe}, graphe.Conforme →
      Run.Permitted Operation.classesApres Operation.Typee graphe.classes
        operations →
      ((∀ operation ∈ operations, ¬operation.EmpruntsDUtilisateur) →
        ∃ fin, graphe.executerTout operations = .ok fin) ∧
      ((∃ operation ∈ operations, operation.EmpruntsDUtilisateur) →
        graphe.executerTout operations =
          .error Propriete.utilisateurEmprunts.nonInitialisee) := by
  intro operations
  induction operations with
  | nil => exact fun _ _ => ⟨fun _ => ⟨_, rfl⟩, by simp⟩
  | cons operation operations ih =>
      intro graphe hconforme htypees
      rw [List.forall_mem_cons, List.exists_mem_cons_iff, Graphe.executerTout,
        List.foldlM_cons]
      by_cases hemprunts : operation.EmpruntsDUtilisateur
      · rw [hconforme.executer_emprunts htypees.1 hemprunts]
        exact ⟨fun hsans => absurd hemprunts hsans.1, fun _ => rfl⟩
      · obtain ⟨suite, hsuite, hconforme', hclasses⟩ :=
          hconforme.executer htypees.1 hemprunts
        obtain ⟨hok, herror⟩ := ih hconforme' (by rw [hclasses]; exact htypees.2)
        rw [hsuite]
        exact ⟨fun hsans => hok hsans.2, fun hsome =>
          herror (hsome.resolve_left hemprunts)⟩

/-- A sequence of operations on objects built with `new` runs to its end exactly
when it does not need the loans of a user; otherwise it stops at the read of
the uninitialised `Utilisateur::$emprunts`. -/
theorem executerTout_vide_iff (operations : List Operation)
    (htypees : Run.Permitted Operation.classesApres Operation.Typee []
      operations) :
    ((∃ fin, vide.executerTout operations = .ok fin) ↔
      ∀ operation ∈ operations, ¬operation.EmpruntsDUtilisateur) ∧
    ((¬∃ fin, vide.executerTout operations = .ok fin) →
      vide.executerTout operations =
        .error Propriete.utilisateurEmprunts.nonInitialisee) := by
  obtain ⟨hok, herror⟩ := conforme_vide.executerTout operations htypees
  by_cases hsans : ∀ operation ∈ operations, ¬operation.EmpruntsDUtilisateur
  · exact ⟨iff_of_true (hok hsans) hsans, fun hnot => absurd (hok hsans) hnot⟩
  · have hfails := herror (by push Not at hsans; exact hsans)
    refine ⟨iff_of_false ?_ hsans, fun _ => hfails⟩
    rintro ⟨fin, hfin⟩
    rw [hfin] at hfails
    cases hfails

/-- A book and its author. -/
theorem executerTout_vide_livre_auteur :
    ∃ fin, vide.executerTout
      [.nouveau .livre, .nouveau .auteur, .auteurAddLivre 1 0] = .ok fin :=
  (executerTout_vide_iff
    [.nouveau .livre, .nouveau .auteur, .auteurAddLivre 1 0]
    ⟨trivial, trivial, ⟨rfl, rfl⟩, trivial⟩).1.mpr
    (by simp [Operation.EmpruntsDUtilisateur])

/-- The first loan of a new user fails. -/
theorem utilisateur_addEmprunt_uninitialised :
    ¬ ∀ operations : List Operation,
      Run.Permitted Operation.classesApres Operation.Typee [] operations →
        ∃ fin, vide.executerTout operations = .ok fin := by
  intro hall
  have hfails : vide.executerTout
      [.nouveau .utilisateur, .nouveau .emprunt, .utilisateurAddEmprunt 0 1] =
        .error Propriete.utilisateurEmprunts.nonInitialisee := rfl
  obtain ⟨fin, hfin⟩ := hall
    [.nouveau .utilisateur, .nouveau .emprunt, .utilisateurAddEmprunt 0 1]
    ⟨trivial, trivial, ⟨rfl, rfl⟩, trivial⟩
  rw [hfin] at hfails
  cases hfails

end Graphe

end Bibliotheque
