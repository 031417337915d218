import Bibliotheque.Core.Run
import Mathlib.Data.List.Nodup
import Mathlib.Logic.Function.Basic

/-!
# Books and authors in memory

`Livre::$auteurs` is the owning side of the many-to-many association and
`Auteur::$livres` the inverse side; each holds its own collection.  The two
`add` methods insert on their own side and then call each other.  The two
`remove` methods are not alike: `Auteur::removeLivre` clears both sides,
`Livre::removeAuteur` only its own.
-/

namespace Bibliotheque

variable {L A : Type*} [DecidableEq L] [DecidableEq A]

/-- The collections of all books and of all authors. -/
structure Liens (L A : Type*) where
  auteurs : L → List A
  livres : A → List L

namespace Liens

def vide : Liens L A where
  auteurs := fun _ => []
  livres := fun _ => []

def setAuteurs (liens : Liens L A) (livre : L) (auteurs : List A) : Liens L A :=
  ⟨Function.update liens.auteurs livre auteurs, liens.livres⟩

def setLivres (liens : Liens L A) (auteur : A) (livres : List L) : Liens L A :=
  ⟨liens.auteurs, Function.update liens.livres auteur livres⟩

mutual

/-- `Livre::addAuteur` with at most `depth` nested calls. -/
def addAuteurWithin : ℕ → Liens L A → L → A → Option (Liens L A)
  | 0, _, _, _ => none
  | depth + 1, liens, livre, auteur =>
      if auteur ∈ liens.auteurs livre then some liens
      else
        addLivreWithin depth
          (liens.setAuteurs livre (liens.auteurs livre ++ [auteur])) auteur livre

/-- `Auteur::addLivre` with at most `depth` nested calls. -/
def addLivreWithin : ℕ → Liens L A → A → L → Option (Liens L A)
  | 0, _, _, _ => none
  | depth + 1, liens, auteur, livre =>
      if livre ∈ liens.livres auteur then some liens
      else
        addAuteurWithin depth
          (liens.setLivres auteur (liens.livres auteur ++ [livre])) livre auteur

end

/-- The link on the owning side, if it was missing there. -/
def linkAuteurs (liens : Liens L A) (livre : L) (auteur : A) : L → List A :=
  if auteur ∈ liens.auteurs livre then liens.auteurs
  else Function.update liens.auteurs livre (liens.auteurs livre ++ [auteur])

/-- The link on the inverse side, if it was missing there. -/
def linkLivres (liens : Liens L A) (livre : L) (auteur : A) : A → List L :=
  if livre ∈ liens.livres auteur then liens.livres
  else Function.update liens.livres auteur (liens.livres auteur ++ [livre])

/-- Three nested calls are always enough: every call but the last inserts the
link on one more side. -/
theorem addAuteurWithin_eq (depth : ℕ) (liens : Liens L A) (livre : L)
    (auteur : A) :
    addAuteurWithin (depth + 3) liens livre auteur =
      some (if auteur ∈ liens.auteurs livre then liens
        else ⟨linkAuteurs liens livre auteur, linkLivres liens livre auteur⟩) := by
  by_cases howning : auteur ∈ liens.auteurs livre
  · simp [addAuteurWithin, howning]
  · by_cases hinverse : livre ∈ liens.livres auteur
    · simp [addAuteurWithin, addLivreWithin, setAuteurs, howning, hinverse,
        linkAuteurs, linkLivres]
    · simp [addAuteurWithin, addLivreWithin, setAuteurs, setLivres, howning,
        hinverse, linkAuteurs, linkLivres]

theorem addLivreWithin_eq (depth : ℕ) (liens : Liens L A) (auteur : A)
    (livre : L) :
    addLivreWithin (depth + 3) liens auteur livre =
      some (if livre ∈ liens.livres auteur then liens
        else ⟨linkAuteurs liens livre auteur, linkLivres liens livre auteur⟩) := by
  by_cases hinverse : livre ∈ liens.livres auteur
  · simp [addLivreWithin, hinverse]
  · by_cases howning : auteur ∈ liens.auteurs livre
    · simp [addAuteurWithin, addLivreWithin, setLivres, howning, hinverse,
        linkAuteurs, linkLivres]
    · simp [addAuteurWithin, addLivreWithin, setAuteurs, setLivres, howning,
        hinverse, linkAuteurs, linkLivres]

/-- `$livre->addAuteur($auteur)`. -/
def addAuteur (liens : Liens L A) (livre : L) (auteur : A) : Liens L A :=
  (addAuteurWithin 3 liens livre auteur).get
    (by rw [addAuteurWithin_eq 0]; rfl)

/-- `$auteur->addLivre($livre)`. -/
def addLivre (liens : Liens L A) (auteur : A) (livre : L) : Liens L A :=
  (addLivreWithin 3 liens auteur livre).get
    (by rw [addLivreWithin_eq 0]; rfl)

/-- `$livre->removeAuteur($auteur)`. -/
def removeAuteur (liens : Liens L A) (livre : L) (auteur : A) : Liens L A :=
  liens.setAuteurs livre ((liens.auteurs livre).erase auteur)

/-- `$auteur->removeLivre($livre)`. -/
def removeLivre (liens : Liens L A) (auteur : A) (livre : L) : Liens L A :=
  if livre ∈ liens.livres auteur then
    (liens.setLivres auteur ((liens.livres auteur).erase livre)).removeAuteur
      livre auteur
  else liens

theorem addAuteur_eq (liens : Liens L A) (livre : L) (auteur : A) :
    liens.addAuteur livre auteur =
      if auteur ∈ liens.auteurs livre then liens
      else ⟨linkAuteurs liens livre auteur, linkLivres liens livre auteur⟩ := by
  simp [addAuteur, addAuteurWithin_eq 0]

theorem addLivre_eq (liens : Liens L A) (auteur : A) (livre : L) :
    liens.addLivre auteur livre =
      if livre ∈ liens.livres auteur then liens
      else ⟨linkAuteurs liens livre auteur, linkLivres liens livre auteur⟩ := by
  simp [addLivre, addLivreWithin_eq 0]

omit [DecidableEq L] in
private theorem mem_update_append {Owner Item : Type*} [DecidableEq Owner]
    (collection : Owner → List Item) (owner other : Owner) (item member : Item) :
    member ∈ Function.update collection owner (collection owner ++ [item]) other ↔
      member ∈ collection other ∨ (other = owner ∧ member = item) := by
  by_cases hother : other = owner
  · subst hother
    simp
  · simp [hother]

/-- An `add` inserts exactly one link on the owning side. -/
theorem mem_linkAuteurs (liens : Liens L A) (livre other : L)
    (auteur member : A) :
    member ∈ linkAuteurs liens livre auteur other ↔
      member ∈ liens.auteurs other ∨ (other = livre ∧ member = auteur) := by
  unfold linkAuteurs
  split
  · rename_i hlinked
    constructor
    · exact Or.inl
    · rintro (hmember | ⟨rfl, rfl⟩)
      · exact hmember
      · exact hlinked
  · exact mem_update_append _ _ _ _ _

theorem mem_linkLivres (liens : Liens L A) (livre member : L)
    (auteur other : A) :
    member ∈ linkLivres liens livre auteur other ↔
      member ∈ liens.livres other ∨ (other = auteur ∧ member = livre) := by
  unfold linkLivres
  split
  · rename_i hlinked
    constructor
    · exact Or.inl
    · rintro (hmember | ⟨rfl, rfl⟩)
      · exact hmember
      · exact hlinked
  · exact mem_update_append _ _ _ _ _

theorem mem_auteurs_addAuteur (liens : Liens L A) (livre other : L)
    (auteur member : A) :
    member ∈ (liens.addAuteur livre auteur).auteurs other ↔
      member ∈ liens.auteurs other ∨ (other = livre ∧ member = auteur) := by
  rw [addAuteur_eq]
  split
  · rename_i hlinked
    constructor
    · exact Or.inl
    · rintro (hmember | ⟨rfl, rfl⟩)
      · exact hmember
      · exact hlinked
  · exact mem_linkAuteurs liens livre other auteur member

/-- `addLivre` loses no author of a book. -/
theorem mem_auteurs_addLivre {liens : Liens L A} {livre other : L}
    {auteur member : A} (hmember : member ∈ liens.auteurs other) :
    member ∈ (liens.addLivre auteur livre).auteurs other := by
  rw [addLivre_eq]
  split
  · exact hmember
  · exact (mem_linkAuteurs liens livre other auteur member).mpr (Or.inl hmember)

omit [DecidableEq L] in
private theorem nodup_update_append {Owner Item : Type*} [DecidableEq Owner]
    {collection : Owner → List Item} {owner other : Owner} {item : Item}
    (habsent : item ∉ collection owner) (hnodup : (collection other).Nodup) :
    (Function.update collection owner (collection owner ++ [item]) other).Nodup := by
  by_cases hother : other = owner
  · subst hother
    rw [Function.update_self, ← List.concat_eq_append]
    exact hnodup.concat habsent
  · simpa only [Function.update_of_ne hother] using hnodup

theorem nodup_linkAuteurs (liens : Liens L A) (livre : L) (auteur : A)
    {other : L} (hnodup : (liens.auteurs other).Nodup) :
    (linkAuteurs liens livre auteur other).Nodup := by
  unfold linkAuteurs
  split
  · exact hnodup
  · rename_i habsent
    exact nodup_update_append habsent hnodup

theorem nodup_linkLivres (liens : Liens L A) (livre : L) (auteur : A)
    {other : A} (hnodup : (liens.livres other).Nodup) :
    (linkLivres liens livre auteur other).Nodup := by
  unfold linkLivres
  split
  · exact hnodup
  · rename_i habsent
    exact nodup_update_append habsent hnodup

theorem nodup_auteurs_addAuteur {liens : Liens L A} {other : L}
    (hnodup : (liens.auteurs other).Nodup) (livre : L) (auteur : A) :
    ((liens.addAuteur livre auteur).auteurs other).Nodup := by
  rw [addAuteur_eq]
  split
  · exact hnodup
  · exact nodup_linkAuteurs liens livre auteur hnodup

theorem nodup_livres_addAuteur {liens : Liens L A} {other : A}
    (hnodup : (liens.livres other).Nodup) (livre : L) (auteur : A) :
    ((liens.addAuteur livre auteur).livres other).Nodup := by
  rw [addAuteur_eq]
  split
  · exact hnodup
  · exact nodup_linkLivres liens livre auteur hnodup

theorem nodup_auteurs_addLivre {liens : Liens L A} {other : L}
    (hnodup : (liens.auteurs other).Nodup) (auteur : A) (livre : L) :
    ((liens.addLivre auteur livre).auteurs other).Nodup := by
  rw [addLivre_eq]
  split
  · exact hnodup
  · exact nodup_linkAuteurs liens livre auteur hnodup

theorem nodup_livres_addLivre {liens : Liens L A} {other : A}
    (hnodup : (liens.livres other).Nodup) (auteur : A) (livre : L) :
    ((liens.addLivre auteur livre).livres other).Nodup := by
  rw [addLivre_eq]
  split
  · exact hnodup
  · exact nodup_linkLivres liens livre auteur hnodup

/-! ## The two mutually recursive calls from any state -/

/-- The number of sides that still lack the link. -/
def manquants (liens : Liens L A) (livre : L) (auteur : A) : ℕ :=
  (if auteur ∈ liens.auteurs livre then 0 else 1) +
    if livre ∈ liens.livres auteur then 0 else 1

theorem manquants_setAuteurs {liens : Liens L A} {livre : L} {auteur : A}
    (habsent : auteur ∉ liens.auteurs livre) :
    (liens.setAuteurs livre (liens.auteurs livre ++ [auteur])).manquants
      livre auteur + 1 = liens.manquants livre auteur := by
  by_cases hinverse : livre ∈ liens.livres auteur <;>
    simp [manquants, setAuteurs, habsent, hinverse]

theorem manquants_setLivres {liens : Liens L A} {livre : L} {auteur : A}
    (habsent : livre ∉ liens.livres auteur) :
    (liens.setLivres auteur (liens.livres auteur ++ [livre])).manquants
      livre auteur + 1 = liens.manquants livre auteur := by
  by_cases howning : auteur ∈ liens.auteurs livre <;>
    simp [manquants, setLivres, habsent, howning]

/-- Every nested call has one side less to fill in, so a depth above their
number is never used up. -/
theorem isSome_within (livre : L) (auteur : A) :
    ∀ (depth : ℕ) (liens : Liens L A), liens.manquants livre auteur < depth →
      (addAuteurWithin depth liens livre auteur).isSome ∧
        (addLivreWithin depth liens auteur livre).isSome := by
  intro depth
  induction depth with
  | zero => exact fun liens hdepth => absurd hdepth (Nat.not_lt_zero _)
  | succ depth ih =>
      intro liens hdepth
      constructor
      · by_cases howning : auteur ∈ liens.auteurs livre
        · simp [addAuteurWithin, howning]
        · have hless := manquants_setAuteurs howning
          simpa only [addAuteurWithin, if_neg howning] using
            (ih (liens.setAuteurs livre (liens.auteurs livre ++ [auteur]))
              (by omega)).2
      · by_cases hinverse : livre ∈ liens.livres auteur
        · simp [addLivreWithin, hinverse]
        · have hless := manquants_setLivres hinverse
          simpa only [addLivreWithin, if_neg hinverse] using
            (ih (liens.setLivres auteur (liens.livres auteur ++ [livre]))
              (by omega)).1

/-- More depth changes no result. -/
theorem within_mono (livre : L) (auteur : A) :
    ∀ (depth : ℕ) (liens result : Liens L A),
      (addAuteurWithin depth liens livre auteur = some result →
        addAuteurWithin (depth + 1) liens livre auteur = some result) ∧
      (addLivreWithin depth liens auteur livre = some result →
        addLivreWithin (depth + 1) liens auteur livre = some result) := by
  intro depth
  induction depth with
  | zero => simp [addAuteurWithin, addLivreWithin]
  | succ depth ih =>
      intro liens result
      constructor
      · intro hresult
        rw [addAuteurWithin] at hresult ⊢
        split
        · simpa only [if_pos ‹_›] using hresult
        · exact (ih _ result).2 (by simpa only [if_neg ‹_›] using hresult)
      · intro hresult
        rw [addLivreWithin] at hresult ⊢
        split
        · simpa only [if_pos ‹_›] using hresult
        · exact (ih _ result).1 (by simpa only [if_neg ‹_›] using hresult)

theorem addAuteurWithin_of_manquants_lt {liens : Liens L A} {livre : L}
    {auteur : A} {depth : ℕ} (hdepth : liens.manquants livre auteur < depth) :
    addAuteurWithin depth liens livre auteur =
      some (liens.addAuteur livre auteur) := by
  have hsome := (isSome_within livre auteur depth liens hdepth).1
  cases hresult : addAuteurWithin depth liens livre auteur with
  | none => exact absurd hsome (by simp [hresult])
  | some result =>
      have hmore : addAuteurWithin (depth + 3) liens livre auteur = some result :=
        (within_mono livre auteur _ liens result).1
          ((within_mono livre auteur _ liens result).1
            ((within_mono livre auteur _ liens result).1 hresult))
      rw [← hmore, addAuteurWithin_eq, addAuteur_eq]

theorem addLivreWithin_of_manquants_lt {liens : Liens L A} {livre : L}
    {auteur : A} {depth : ℕ} (hdepth : liens.manquants livre auteur < depth) :
    addLivreWithin depth liens auteur livre =
      some (liens.addLivre auteur livre) := by
  have hsome := (isSome_within livre auteur depth liens hdepth).2
  cases hresult : addLivreWithin depth liens auteur livre with
  | none => exact absurd hsome (by simp [hresult])
  | some result =>
      have hmore : addLivreWithin (depth + 3) liens auteur livre = some result :=
        (within_mono livre auteur _ liens result).2
          ((within_mono livre auteur _ liens result).2
            ((within_mono livre auteur _ liens result).2 hresult))
      rw [← hmore, addLivreWithin_eq, addLivre_eq]

/-- The book and the author tell the same about their link. -/
def Accordes (liens : Liens L A) (livre : L) (auteur : A) : Prop :=
  auteur ∈ liens.auteurs livre ↔ livre ∈ liens.livres auteur

theorem accordes_link (liens : Liens L A) (livre : L) (auteur : A) :
    Accordes ⟨linkAuteurs liens livre auteur, linkLivres liens livre auteur⟩
      livre auteur :=
  iff_of_true ((mem_linkAuteurs liens livre livre auteur auteur).mpr (.inr ⟨rfl, rfl⟩))
    ((mem_linkLivres liens livre livre auteur auteur).mpr (.inr ⟨rfl, rfl⟩))

/-- From any state, agreeing or not, the two calls return, and their result is
told by the sides that held the link before.  A link held on no side is
appended to both collections, by either call; a link held on the other side
only is appended on the called side; a link held on the called side is left as
it is.  No call brings a duplicate into a collection without one. -/
theorem addAuteur_addLivre_outcome (liens : Liens L A) (livre : L) (auteur : A) :
    (∀ depth, liens.manquants livre auteur < depth →
      addAuteurWithin depth liens livre auteur = some (liens.addAuteur livre auteur) ∧
        addLivreWithin depth liens auteur livre = some (liens.addLivre auteur livre)) ∧
    (auteur ∉ liens.auteurs livre → livre ∉ liens.livres auteur →
      liens.addAuteur livre auteur =
          ⟨Function.update liens.auteurs livre (liens.auteurs livre ++ [auteur]),
            Function.update liens.livres auteur (liens.livres auteur ++ [livre])⟩ ∧
        liens.addLivre auteur livre = liens.addAuteur livre auteur) ∧
    (auteur ∉ liens.auteurs livre → livre ∈ liens.livres auteur →
      liens.addAuteur livre auteur =
          liens.setAuteurs livre (liens.auteurs livre ++ [auteur]) ∧
        (liens.addAuteur livre auteur).Accordes livre auteur) ∧
    (auteur ∈ liens.auteurs livre → livre ∉ liens.livres auteur →
      liens.addLivre auteur livre =
          liens.setLivres auteur (liens.livres auteur ++ [livre]) ∧
        (liens.addLivre auteur livre).Accordes livre auteur) ∧
    (auteur ∈ liens.auteurs livre → liens.addAuteur livre auteur = liens) ∧
    (livre ∈ liens.livres auteur → liens.addLivre auteur livre = liens) ∧
    (∀ other, (liens.auteurs other).Nodup →
      ((liens.addAuteur livre auteur).auteurs other).Nodup ∧
        ((liens.addLivre auteur livre).auteurs other).Nodup) ∧
    ∀ other, (liens.livres other).Nodup →
      ((liens.addAuteur livre auteur).livres other).Nodup ∧
        ((liens.addLivre auteur livre).livres other).Nodup := by
  have hadd := addAuteur_eq liens livre auteur
  have hadd' := addLivre_eq liens auteur livre
  refine ⟨fun depth hdepth => ⟨addAuteurWithin_of_manquants_lt hdepth,
    addLivreWithin_of_manquants_lt hdepth⟩, ?_, ?_, ?_, ?_, ?_, ?_, ?_⟩
  · intro howning hinverse
    rw [hadd, hadd', if_neg howning, if_neg hinverse, linkAuteurs, linkLivres,
      if_neg howning, if_neg hinverse]
    exact ⟨rfl, rfl⟩
  · intro howning hinverse
    rw [if_neg howning] at hadd
    constructor
    · rw [hadd, linkAuteurs, linkLivres, if_neg howning, if_pos hinverse]
      rfl
    · rw [hadd]
      exact accordes_link liens livre auteur
  · intro howning hinverse
    rw [if_neg hinverse] at hadd'
    constructor
    · rw [hadd', linkAuteurs, linkLivres, if_pos howning, if_neg hinverse]
      rfl
    · rw [hadd']
      exact accordes_link liens livre auteur
  · intro howning
    rw [hadd, if_pos howning]
  · intro hinverse
    rw [hadd', if_pos hinverse]
  · exact fun other hnodup => ⟨nodup_auteurs_addAuteur hnodup livre auteur,
      nodup_auteurs_addLivre hnodup auteur livre⟩
  · exact fun other hnodup => ⟨nodup_livres_addAuteur hnodup livre auteur,
      nodup_livres_addLivre hnodup auteur livre⟩

/-- A first author of a first book: depth 3 is enough, from both sides. -/
theorem addAuteur_addLivre_outcome_vide :
    addAuteurWithin 3 vide 1 2 = some ((vide : Liens ℕ ℕ).addAuteur 1 2) ∧
      (vide : Liens ℕ ℕ).addLivre 2 1 = (vide : Liens ℕ ℕ).addAuteur 1 2 :=
  ⟨((addAuteur_addLivre_outcome (vide : Liens ℕ ℕ) 1 2).1 3 (by decide)).1,
    ((addAuteur_addLivre_outcome (vide : Liens ℕ ℕ) 1 2).2.1
      (by decide) (by decide)).2⟩

/-! ## Agreement of the two sides -/

/-- The two sides tell the same links, each once. -/
structure Coherent (liens : Liens L A) : Prop where
  accord : ∀ livre auteur,
    auteur ∈ liens.auteurs livre ↔ livre ∈ liens.livres auteur
  auteurs_nodup : ∀ livre, (liens.auteurs livre).Nodup
  livres_nodup : ∀ auteur, (liens.livres auteur).Nodup

/-- A call of one of the four association methods. -/
inductive Appel (L A : Type*) where
  | addAuteur (livre : L) (auteur : A)
  | removeAuteur (livre : L) (auteur : A)
  | addLivre (auteur : A) (livre : L)
  | removeLivre (auteur : A) (livre : L)

def appeler (liens : Liens L A) : Appel L A → Liens L A
  | .addAuteur livre auteur => liens.addAuteur livre auteur
  | .removeAuteur livre auteur => liens.removeAuteur livre auteur
  | .addLivre auteur livre => liens.addLivre auteur livre
  | .removeLivre auteur livre => liens.removeLivre auteur livre

/-- The call is not a `Livre::removeAuteur` of a linked author. -/
def Symetrique (liens : Liens L A) : Appel L A → Prop
  | .removeAuteur livre auteur => auteur ∉ liens.auteurs livre
  | _ => True

omit [DecidableEq L] [DecidableEq A] in
theorem coherent_vide : (vide : Liens L A).Coherent where
  accord := by simp [vide]
  auteurs_nodup := by simp [vide]
  livres_nodup := by simp [vide]

theorem Coherent.link {liens : Liens L A} (hcoherent : liens.Coherent)
    (livre : L) (auteur : A) :
    Coherent ⟨linkAuteurs liens livre auteur, linkLivres liens livre auteur⟩ where
  accord := by
    intro other member
    simp only [mem_linkAuteurs, mem_linkLivres, hcoherent.accord]
    tauto
  auteurs_nodup := fun other =>
    nodup_linkAuteurs liens livre auteur (hcoherent.auteurs_nodup other)
  livres_nodup := fun other =>
    nodup_linkLivres liens livre auteur (hcoherent.livres_nodup other)

theorem Coherent.addAuteur {liens : Liens L A} (hcoherent : liens.Coherent)
    (livre : L) (auteur : A) : (liens.addAuteur livre auteur).Coherent := by
  rw [addAuteur_eq]
  split
  · exact hcoherent
  · exact hcoherent.link livre auteur

theorem Coherent.addLivre {liens : Liens L A} (hcoherent : liens.Coherent)
    (auteur : A) (livre : L) : (liens.addLivre auteur livre).Coherent := by
  rw [addLivre_eq]
  split
  · exact hcoherent
  · exact hcoherent.link livre auteur

omit [DecidableEq L] in
private theorem mem_update_erase {Owner Item : Type*} [DecidableEq Owner]
    [DecidableEq Item] {collection : Owner → List Item}
    (hnodup : ∀ owner, (collection owner).Nodup) (owner other : Owner)
    (item member : Item) :
    member ∈ Function.update collection owner ((collection owner).erase item) other ↔
      member ∈ collection other ∧ ¬(other = owner ∧ member = item) := by
  by_cases hother : other = owner
  · subst hother
    simp [(hnodup other).mem_erase_iff, and_comm]
  · simp [hother]

omit [DecidableEq L] in
private theorem nodup_update_erase {Owner Item : Type*} [DecidableEq Owner]
    [DecidableEq Item] {collection : Owner → List Item}
    (hnodup : ∀ owner, (collection owner).Nodup) (owner other : Owner)
    (item : Item) :
    (Function.update collection owner
      ((collection owner).erase item) other).Nodup := by
  by_cases hother : other = owner
  · subst hother
    simpa using (hnodup other).erase item
  · simpa [Function.update_of_ne hother] using hnodup other

theorem Coherent.removeLivre {liens : Liens L A} (hcoherent : liens.Coherent)
    (auteur : A) (livre : L) : (liens.removeLivre auteur livre).Coherent := by
  unfold Liens.removeLivre
  split
  · constructor
    · intro other member
      simp only [removeAuteur, setAuteurs, setLivres,
        mem_update_erase hcoherent.auteurs_nodup,
        mem_update_erase hcoherent.livres_nodup, hcoherent.accord]
      tauto
    · exact fun other => nodup_update_erase hcoherent.auteurs_nodup _ _ _
    · exact fun other => nodup_update_erase hcoherent.livres_nodup _ _ _
  · exact hcoherent

/-- From an agreeing state, `Livre::removeAuteur` keeps the agreement only when
there was nothing to remove. -/
theorem Coherent.removeAuteur_iff {liens : Liens L A}
    (hcoherent : liens.Coherent) (livre : L) (auteur : A) :
    (liens.removeAuteur livre auteur).Coherent ↔
      auteur ∉ liens.auteurs livre := by
  constructor
  · intro hafter hlinked
    have hinverse := (hcoherent.accord livre auteur).mp hlinked
    have hstill := (hafter.accord livre auteur).mpr hinverse
    simp only [removeAuteur, setAuteurs,
      mem_update_erase hcoherent.auteurs_nodup] at hstill
    exact hstill.2 ⟨trivial, trivial⟩
  · intro habsent
    have hsame : liens.removeAuteur livre auteur = liens := by
      unfold removeAuteur setAuteurs
      rw [List.erase_of_not_mem habsent, Function.update_eq_self]
    rwa [hsame]

theorem coherent_appeler_iff {liens : Liens L A} (hcoherent : liens.Coherent)
    (appel : Appel L A) :
    (liens.appeler appel).Coherent ↔ liens.Symetrique appel := by
  cases appel with
  | addAuteur livre auteur =>
      exact iff_of_true (hcoherent.addAuteur livre auteur) trivial
  | removeAuteur livre auteur => exact hcoherent.removeAuteur_iff livre auteur
  | addLivre auteur livre =>
      exact iff_of_true (hcoherent.addLivre auteur livre) trivial
  | removeLivre auteur livre =>
      exact iff_of_true (hcoherent.removeLivre auteur livre) trivial

/-- In an agreeing state, adding from the inverse side inserts exactly one link
on the owning side. -/
theorem Coherent.mem_auteurs_addLivre_iff {liens : Liens L A}
    (hcoherent : liens.Coherent) (auteur member : A) (livre other : L) :
    member ∈ (liens.addLivre auteur livre).auteurs other ↔
      member ∈ liens.auteurs other ∨ (other = livre ∧ member = auteur) := by
  rw [addLivre_eq]
  split
  · rename_i hlinked
    constructor
    · exact Or.inl
    · rintro (hmember | ⟨rfl, rfl⟩)
      · exact hmember
      · exact (hcoherent.accord other member).mpr hlinked
  · exact mem_linkAuteurs liens livre other auteur member

/-- In an agreeing state, adding from the inverse side puts the link on the
owning side. -/
theorem Coherent.mem_auteurs_addLivre {liens : Liens L A}
    (hcoherent : liens.Coherent) (auteur : A) (livre : L) :
    auteur ∈ (liens.addLivre auteur livre).auteurs livre :=
  (hcoherent.mem_auteurs_addLivre_iff auteur auteur livre livre).mpr
    (Or.inr ⟨rfl, rfl⟩)

/-- In every run whose calls are all symmetric, the two sides of the
association agree in the state reached, no collection holds a duplicate, and a
later `addLivre` leaves the link on the owning side.  The next call keeps the
agreement exactly when it is symmetric. -/
theorem run_coherent (appels : List (Appel L A))
    (hsymetrique : Run.Permitted appeler Symetrique vide appels) :
    (Run.run appeler vide appels).Coherent ∧
      (∀ auteur livre, auteur ∈
        ((Run.run appeler vide appels).addLivre auteur livre).auteurs livre) ∧
      ∀ appel, ((Run.run appeler vide appels).appeler appel).Coherent ↔
        (Run.run appeler vide appels).Symetrique appel := by
  have hcoherent : (Run.run appeler vide appels).Coherent :=
    Run.invariant_run Coherent (fun _ appel hstate hallowed =>
      (coherent_appeler_iff hstate appel).mpr hallowed) appels vide
      coherent_vide hsymetrique
  exact ⟨hcoherent, hcoherent.mem_auteurs_addLivre,
    coherent_appeler_iff hcoherent⟩

/-- A run that links, unlinks from the author and links again. -/
theorem run_coherent_relink :
    (Run.run appeler vide [.addAuteur 1 2, .removeLivre 2 1, .addLivre 2 1] :
      Liens ℕ ℕ).Coherent :=
  (run_coherent [.addAuteur 1 2, .removeLivre 2 1, .addLivre 2 1]
    ⟨trivial, trivial, trivial, trivial⟩).1

/-- After `$l->addAuteur($a)` and `$l->removeAuteur($a)` the inverse side is
stale, and `$a->addLivre($l)` no longer restores the link. -/
theorem removeAuteur_leaves_stale_inverse :
    ¬ ∀ appels : List (Appel ℕ ℕ),
      (Run.run appeler vide appels).Coherent ∧
        ∀ auteur livre, auteur ∈
          ((Run.run appeler vide appels).addLivre auteur livre).auteurs livre := by
  intro hall
  have hlinked := (hall [.addAuteur 1 2, .removeAuteur 1 2]).2 2 1
  revert hlinked
  decide

end Liens

end Bibliotheque
