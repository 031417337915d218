import Bibliotheque.Core.Run
import Bibliotheque.Php.Value
import Mathlib.Logic.Function.Basic

/-!
# Parents and children in memory

Each one-to-many association has two sides: the collection of the parent and
the owning field of the child, the one that is persisted.  `add` inserts into
the collection and sets the field; it does not take the child out of the
collection of an earlier parent.  `remove` clears the field, "unless already
changed".  The three pairs of methods are one definition at three types.
-/

namespace Bibliotheque

/-- Both sides of a one-to-many association. -/
structure Possession (P X : Type*) where
  collection : P → List X
  owner : X → Option P

namespace Possession

variable {P X : Type*} [DecidableEq P] [DecidableEq X]

def vide : Possession P X where
  collection := fun _ => []
  owner := fun _ => none

def add (possession : Possession P X) (parent : P) (child : X) :
    Possession P X :=
  if child ∈ possession.collection parent then possession
  else
    ⟨Function.update possession.collection parent
        (possession.collection parent ++ [child]),
      Function.update possession.owner child (some parent)⟩

def remove (possession : Possession P X) (parent : P) (child : X) :
    Possession P X :=
  if child ∈ possession.collection parent then
    ⟨Function.update possession.collection parent
        ((possession.collection parent).erase child),
      -- set the owning side to null, unless already changed
      if possession.owner child = some parent then
        Function.update possession.owner child none
      else possession.owner⟩
  else possession

/-- The owner of a child lists it, and no collection repeats a child. -/
structure Listed (possession : Possession P X) : Prop where
  mem_owner : ∀ parent child, possession.owner child = some parent →
    child ∈ possession.collection parent
  nodup : ∀ parent, (possession.collection parent).Nodup

/-- The two sides agree, so a child is in at most one collection and an `add`
always sets the owning field. -/
structure Synchrone (possession : Possession P X) : Prop where
  accord : ∀ parent child, child ∈ possession.collection parent ↔
    possession.owner child = some parent
  exclusive : ∀ first second child, child ∈ possession.collection first →
    child ∈ possession.collection second → first = second
  owner_add : ∀ parent child,
    (possession.add parent child).owner child = some parent

omit [DecidableEq P] [DecidableEq X] in
theorem listed_vide : (vide : Possession P X).Listed where
  mem_owner := by simp [vide]
  nodup := by simp [vide]

theorem mem_collection_add (possession : Possession P X) (parent other : P)
    (child member : X) :
    member ∈ (possession.add parent child).collection other ↔
      member ∈ possession.collection other ∨
        (other = parent ∧ member = child) := by
  unfold add
  split
  · rename_i hmember
    constructor
    · exact Or.inl
    · rintro (hother | ⟨rfl, rfl⟩)
      · exact hother
      · exact hmember
  · by_cases hother : other = parent
    · subst hother
      simp
    · simp [hother]

theorem owner_add_eq (possession : Possession P X) (parent : P)
    (child other : X) :
    (possession.add parent child).owner other =
      if other = child ∧ child ∉ possession.collection parent then some parent
      else possession.owner other := by
  unfold add
  split
  · rename_i hmember
    simp [hmember]
  · rename_i habsent
    by_cases hother : other = child
    · subst hother
      simp [habsent]
    · simp [hother]

theorem mem_collection_remove {possession : Possession P X}
    (hlisted : possession.Listed) (parent other : P) (child member : X) :
    member ∈ (possession.remove parent child).collection other ↔
      member ∈ possession.collection other ∧
        ¬(other = parent ∧ member = child) := by
  unfold remove
  split
  · by_cases hother : other = parent
    · subst hother
      simp [(hlisted.nodup other).mem_erase_iff, and_comm]
    · simp [hother]
  · rename_i habsent
    constructor
    · intro hmember
      refine ⟨hmember, ?_⟩
      rintro ⟨rfl, rfl⟩
      exact habsent hmember
    · exact fun hmember => hmember.1

theorem owner_remove_eq {possession : Possession P X}
    (hlisted : possession.Listed) (parent : P) (child other : X) :
    (possession.remove parent child).owner other =
      if other = child ∧ possession.owner child = some parent then none
      else possession.owner other := by
  by_cases howner : possession.owner child = some parent
  · have hmember := hlisted.mem_owner parent child howner
    by_cases hother : other = child
    · subst hother
      simp [remove, hmember, howner]
    · simp [remove, hmember, howner, hother]
  · unfold remove
    split <;> simp [howner]

theorem Listed.add {possession : Possession P X} (hlisted : possession.Listed)
    (parent : P) (child : X) : (possession.add parent child).Listed where
  mem_owner := by
    intro other member howner
    rw [mem_collection_add]
    rw [owner_add_eq] at howner
    split at howner
    · rename_i hset
      rw [Option.some.injEq] at howner
      exact Or.inr ⟨howner.symm, hset.1⟩
    · exact Or.inl (hlisted.mem_owner other member howner)
  nodup := by
    intro other
    unfold Possession.add
    split
    · exact hlisted.nodup other
    · rename_i habsent
      by_cases hother : other = parent
      · subst hother
        simp only [Function.update_self]
        refine List.nodup_append.mpr
          ⟨hlisted.nodup other, List.nodup_singleton _, ?_⟩
        intro member hmember added hadded heq
        rw [heq, List.mem_singleton.mp hadded] at hmember
        exact habsent hmember
      · simpa [hother] using hlisted.nodup other

theorem Listed.remove {possession : Possession P X}
    (hlisted : possession.Listed) (parent : P) (child : X) :
    (possession.remove parent child).Listed where
  mem_owner := by
    intro other member howner
    rw [mem_collection_remove hlisted]
    rw [owner_remove_eq hlisted] at howner
    split at howner
    · simp at howner
    · rename_i hkept
      refine ⟨hlisted.mem_owner other member howner, ?_⟩
      rintro ⟨rfl, rfl⟩
      exact hkept ⟨rfl, howner⟩
  nodup := by
    intro other
    unfold Possession.remove
    split
    · by_cases hother : other = parent
      · subst hother
        simpa using (hlisted.nodup other).erase child
      · simpa [hother] using hlisted.nodup other
    · exact hlisted.nodup other

/-- Agreement is listing in both directions. -/
structure Accorde (possession : Possession P X) : Prop extends Listed possession where
  owner_mem : ∀ parent child, child ∈ possession.collection parent →
    possession.owner child = some parent

omit [DecidableEq P] [DecidableEq X] in
theorem accorde_vide : (vide : Possession P X).Accorde where
  toListed := listed_vide
  owner_mem := by simp [vide]

/-- The child has no parent, or this one already. -/
def Disponible (possession : Possession P X) (parent : P) (child : X) : Prop :=
  possession.owner child = none ∨ possession.owner child = some parent

theorem Accorde.add {possession : Possession P X}
    (haccorde : possession.Accorde) {parent : P} {child : X}
    (hdisponible : possession.Disponible parent child) :
    (possession.add parent child).Accorde where
  toListed := haccorde.toListed.add parent child
  owner_mem := by
    intro other member hmember
    rw [mem_collection_add] at hmember
    rw [owner_add_eq]
    by_cases hchild : member = child
    · subst hchild
      rcases hmember with hmember | ⟨rfl, -⟩
      · -- a child that is listed somewhere has an owner, hence `parent`
        have howner := haccorde.owner_mem other member hmember
        rcases hdisponible with hnone | hsame
        · simp [hnone] at howner
        · rw [hsame, Option.some.injEq] at howner
          subst howner
          simp [hmember, hsame]
      · by_cases hlisted : member ∈ possession.collection other
        · simp [hlisted, haccorde.owner_mem other member hlisted]
        · simp [hlisted]
    · rcases hmember with hmember | ⟨-, hsame⟩
      · simpa [hchild] using haccorde.owner_mem other member hmember
      · exact absurd hsame hchild

theorem Accorde.remove {possession : Possession P X}
    (haccorde : possession.Accorde) (parent : P) (child : X) :
    (possession.remove parent child).Accorde where
  toListed := haccorde.toListed.remove parent child
  owner_mem := by
    intro other member hmember
    rw [mem_collection_remove haccorde.toListed] at hmember
    obtain ⟨hmember, hkept⟩ := hmember
    have howner := haccorde.owner_mem other member hmember
    rw [owner_remove_eq haccorde.toListed, if_neg]
    · exact howner
    · rintro ⟨rfl, hcleared⟩
      rw [hcleared, Option.some.injEq] at howner
      exact hkept ⟨howner.symm, rfl⟩

theorem Accorde.synchrone {possession : Possession P X}
    (haccorde : possession.Accorde) : possession.Synchrone where
  accord := fun parent child =>
    ⟨haccorde.owner_mem parent child, haccorde.mem_owner parent child⟩
  exclusive := by
    intro first second child hfirst hsecond
    have howner := haccorde.owner_mem first child hfirst
    rw [haccorde.owner_mem second child hsecond, Option.some.injEq] at howner
    exact howner.symm
  owner_add := by
    intro parent child
    rw [owner_add_eq]
    by_cases hmember : child ∈ possession.collection parent
    · simpa [hmember] using haccorde.owner_mem parent child hmember
    · simp [hmember]

end Possession

/-! ## The three associations -/

/-- The collections and owning fields of all objects.  `initialised` tells the
users whose typed property `$emprunts` has a value: `Utilisateur` has no
constructor that gives it one. -/
structure Objets (C L E U : Type*) where
  categorieLivres : Possession C L
  livreEmprunts : Possession L E
  utilisateurEmprunts : Possession U E
  initialised : U → Bool

namespace Objets

variable {C L E U : Type*} [DecidableEq C] [DecidableEq L] [DecidableEq E]
variable [DecidableEq U]

/-- Fresh objects: empty collections and null owners. -/
def neufs (initialised : U → Bool) : Objets C L E U where
  categorieLivres := .vide
  livreEmprunts := .vide
  utilisateurEmprunts := .vide
  initialised := initialised

def Categorie.addLivre (objets : Objets C L E U) (categorie : C) (livre : L) :
    Objets C L E U :=
  { objets with categorieLivres := objets.categorieLivres.add categorie livre }

def Categorie.removeLivre (objets : Objets C L E U) (categorie : C) (livre : L) :
    Objets C L E U :=
  { objets with categorieLivres := objets.categorieLivres.remove categorie livre }

def Livre.addEmprunt (objets : Objets C L E U) (livre : L) (emprunt : E) :
    Objets C L E U :=
  { objets with livreEmprunts := objets.livreEmprunts.add livre emprunt }

def Livre.removeEmprunt (objets : Objets C L E U) (livre : L) (emprunt : E) :
    Objets C L E U :=
  { objets with livreEmprunts := objets.livreEmprunts.remove livre emprunt }

/-- Reading an uninitialised typed property is an error. -/
def Utilisateur.addEmprunt (objets : Objets C L E U) (utilisateur : U)
    (emprunt : E) : Except Throwable (Objets C L E U) :=
  if objets.initialised utilisateur then
    .ok { objets with
      utilisateurEmprunts := objets.utilisateurEmprunts.add utilisateur emprunt }
  else .error (.error "Utilisateur::$emprunts must not be accessed before initialization")

def Utilisateur.removeEmprunt (objets : Objets C L E U) (utilisateur : U)
    (emprunt : E) : Except Throwable (Objets C L E U) :=
  if objets.initialised utilisateur then
    .ok { objets with
      utilisateurEmprunts := objets.utilisateurEmprunts.remove utilisateur emprunt }
  else .error (.error "Utilisateur::$emprunts must not be accessed before initialization")

/-- A call of one of the add and remove methods. -/
inductive Appel (C L E U : Type*) where
  | categorieAddLivre (categorie : C) (livre : L)
  | categorieRemoveLivre (categorie : C) (livre : L)
  | livreAddEmprunt (livre : L) (emprunt : E)
  | livreRemoveEmprunt (livre : L) (emprunt : E)
  | utilisateurAddEmprunt (utilisateur : U) (emprunt : E)
  | utilisateurRemoveEmprunt (utilisateur : U) (emprunt : E)

/-- The objects after a call.  A call that fails has changed nothing. -/
def appeler (objets : Objets C L E U) : Appel C L E U → Objets C L E U
  | .categorieAddLivre categorie livre => Categorie.addLivre objets categorie livre
  | .categorieRemoveLivre categorie livre =>
      Categorie.removeLivre objets categorie livre
  | .livreAddEmprunt livre emprunt => Livre.addEmprunt objets livre emprunt
  | .livreRemoveEmprunt livre emprunt => Livre.removeEmprunt objets livre emprunt
  | .utilisateurAddEmprunt utilisateur emprunt =>
      (Utilisateur.addEmprunt objets utilisateur emprunt).toOption.getD objets
  | .utilisateurRemoveEmprunt utilisateur emprunt =>
      (Utilisateur.removeEmprunt objets utilisateur emprunt).toOption.getD objets

/-- An `add` finds the child without a parent or with this one. -/
def SansDeplacement (objets : Objets C L E U) : Appel C L E U → Prop
  | .categorieAddLivre categorie livre =>
      objets.categorieLivres.Disponible categorie livre
  | .livreAddEmprunt livre emprunt => objets.livreEmprunts.Disponible livre emprunt
  | .utilisateurAddEmprunt utilisateur emprunt =>
      objets.utilisateurEmprunts.Disponible utilisateur emprunt
  | _ => True

def Listed (objets : Objets C L E U) : Prop :=
  objets.categorieLivres.Listed ∧ objets.livreEmprunts.Listed ∧
    objets.utilisateurEmprunts.Listed

def Accorde (objets : Objets C L E U) : Prop :=
  objets.categorieLivres.Accorde ∧ objets.livreEmprunts.Accorde ∧
    objets.utilisateurEmprunts.Accorde

def Synchrone (objets : Objets C L E U) : Prop :=
  objets.categorieLivres.Synchrone ∧ objets.livreEmprunts.Synchrone ∧
    objets.utilisateurEmprunts.Synchrone

theorem Listed.appeler {objets : Objets C L E U} (hlisted : objets.Listed)
    (appel : Appel C L E U) : (objets.appeler appel).Listed := by
  obtain ⟨hcategorie, hlivre, hutilisateur⟩ := hlisted
  cases appel with
  | categorieAddLivre categorie livre =>
      exact ⟨hcategorie.add categorie livre, hlivre, hutilisateur⟩
  | categorieRemoveLivre categorie livre =>
      exact ⟨hcategorie.remove categorie livre, hlivre, hutilisateur⟩
  | livreAddEmprunt livre emprunt =>
      exact ⟨hcategorie, hlivre.add livre emprunt, hutilisateur⟩
  | livreRemoveEmprunt livre emprunt =>
      exact ⟨hcategorie, hlivre.remove livre emprunt, hutilisateur⟩
  | utilisateurAddEmprunt utilisateur emprunt =>
      simp only [Objets.appeler, Utilisateur.addEmprunt]
      split
      · exact ⟨hcategorie, hlivre, hutilisateur.add utilisateur emprunt⟩
      · exact ⟨hcategorie, hlivre, hutilisateur⟩
  | utilisateurRemoveEmprunt utilisateur emprunt =>
      simp only [Objets.appeler, Utilisateur.removeEmprunt]
      split
      · exact ⟨hcategorie, hlivre, hutilisateur.remove utilisateur emprunt⟩
      · exact ⟨hcategorie, hlivre, hutilisateur⟩

theorem Accorde.appeler {objets : Objets C L E U} (haccorde : objets.Accorde)
    {appel : Appel C L E U} (hreste : objets.SansDeplacement appel) :
    (objets.appeler appel).Accorde := by
  obtain ⟨hcategorie, hlivre, hutilisateur⟩ := haccorde
  cases appel with
  | categorieAddLivre categorie livre =>
      exact ⟨hcategorie.add hreste, hlivre, hutilisateur⟩
  | categorieRemoveLivre categorie livre =>
      exact ⟨hcategorie.remove categorie livre, hlivre, hutilisateur⟩
  | livreAddEmprunt livre emprunt =>
      exact ⟨hcategorie, hlivre.add hreste, hutilisateur⟩
  | livreRemoveEmprunt livre emprunt =>
      exact ⟨hcategorie, hlivre.remove livre emprunt, hutilisateur⟩
  | utilisateurAddEmprunt utilisateur emprunt =>
      simp only [Objets.appeler, Utilisateur.addEmprunt]
      split
      · exact ⟨hcategorie, hlivre, hutilisateur.add hreste⟩
      · exact ⟨hcategorie, hlivre, hutilisateur⟩
  | utilisateurRemoveEmprunt utilisateur emprunt =>
      simp only [Objets.appeler, Utilisateur.removeEmprunt]
      split
      · exact ⟨hcategorie, hlivre, hutilisateur.remove utilisateur emprunt⟩
      · exact ⟨hcategorie, hlivre, hutilisateur⟩

/-- After any sequence of calls the owner of a child lists it, in all three
associations.  If moreover no call adds a child that another parent owns, the
two sides agree, a child is in at most one collection, and an `add` always sets
the owning field. -/
theorem run_synchrone (initialised : U → Bool) (appels : List (Appel C L E U)) :
    (Run.run appeler (neufs initialised) appels).Listed ∧
      (Run.Permitted appeler SansDeplacement (neufs initialised) appels →
        (Run.run appeler (neufs initialised) appels).Synchrone) := by
  constructor
  · have hlisted : (neufs initialised : Objets C L E U).Listed :=
      ⟨Possession.listed_vide, Possession.listed_vide, Possession.listed_vide⟩
    have hall : Run.Permitted appeler (fun _ _ => True)
        (neufs initialised : Objets C L E U) appels := Run.permitted_true _ _
    exact Run.invariant_run Listed
      (fun _ appel hstate _ => hstate.appeler appel) appels _ hlisted hall
  · intro hreste
    have haccorde : (neufs initialised : Objets C L E U).Accorde :=
      ⟨Possession.accorde_vide, Possession.accorde_vide, Possession.accorde_vide⟩
    have hfinal := Run.invariant_run Accorde
      (fun _ _ hstate hallowed => hstate.appeler hallowed) appels _ haccorde hreste
    exact ⟨hfinal.1.synchrone, hfinal.2.1.synchrone, hfinal.2.2.synchrone⟩

/-- Moving a book by way of `removeLivre` keeps the two sides together. -/
theorem run_synchrone_move :
    (Run.run appeler (neufs fun _ => true)
      [.categorieAddLivre 1 7, .categorieRemoveLivre 1 7, .categorieAddLivre 2 7] :
        Objets ℕ ℕ ℕ ℕ).Synchrone :=
  (run_synchrone (fun _ => true)
    [.categorieAddLivre 1 7, .categorieRemoveLivre 1 7, .categorieAddLivre 2 7]).2
    ⟨Or.inl rfl, trivial, Or.inl rfl, trivial⟩

/-- Adding a book to a second category leaves it in the collection of the
first, which then ignores an `add` that moves it back. -/
theorem categorie_add_leaves_previous_parent :
    ¬ ∀ appels : List (Appel ℕ ℕ ℕ ℕ),
      (Run.run appeler (neufs fun _ => true) appels).Synchrone := by
  intro hall
  have howner := (hall [.categorieAddLivre 1 7, .categorieAddLivre 2 7]).1.owner_add 1 7
  revert howner
  decide

end Objets

end Bibliotheque
