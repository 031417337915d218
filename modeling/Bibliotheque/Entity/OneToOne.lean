import Bibliotheque.Core.Run
import Mathlib.Logic.Function.Basic

/-!
# Reservations in memory

A reservation owns two one-to-one associations, to its book and to its user;
the inverse sides are `Livre::$reservations` and `Utilisateur::$reservations`.
Both `setReservations` methods set the owning side "if necessary" and then
their own.  They write two objects: a reservation that is replaced keeps naming
its book, and a book whose reservation goes to another book keeps it.
-/

namespace Bibliotheque

/-- Both sides of a one-to-one association. -/
structure Appariement (P R : Type*) where
  reservations : P → Option R
  owner : R → Option P

namespace Appariement

variable {P R : Type*} [DecidableEq P] [DecidableEq R]

def vide : Appariement P R where
  reservations := fun _ => none
  owner := fun _ => none

/-- `$parent->setReservations($reservation)`. -/
def setReservations (appariement : Appariement P R) (parent : P)
    (reservation : R) : Appariement P R where
  owner :=
    -- set the owning side of the relation if necessary
    if appariement.owner reservation ≠ some parent then
      Function.update appariement.owner reservation (some parent)
    else appariement.owner
  reservations :=
    Function.update appariement.reservations parent (some reservation)

/-- The two sides tell the same pairs. -/
def Accorde (appariement : Appariement P R) : Prop :=
  ∀ parent reservation, appariement.reservations parent = some reservation ↔
    appariement.owner reservation = some parent

/-- The call replaces no reservation of the parent and takes the reservation
from no other parent. -/
def Libre (appariement : Appariement P R) (parent : P) (reservation : R) : Prop :=
  (∀ other, appariement.reservations parent = some other → other = reservation) ∧
    ∀ other, appariement.owner reservation = some other → other = parent

omit [DecidableEq P] [DecidableEq R] in
theorem accorde_vide : (vide : Appariement P R).Accorde := by
  intro parent reservation
  simp [vide]

theorem reservations_setReservations (appariement : Appariement P R)
    (parent other : P) (reservation : R) :
    (appariement.setReservations parent reservation).reservations other =
      if other = parent then some reservation else appariement.reservations other :=
  Function.update_apply _ _ _ _

theorem owner_setReservations (appariement : Appariement P R) (parent : P)
    (reservation other : R) :
    (appariement.setReservations parent reservation).owner other =
      if other = reservation then some parent else appariement.owner other := by
  unfold setReservations
  dsimp only
  split
  · exact Function.update_apply _ _ _ _
  · rename_i hsame
    by_cases hother : other = reservation
    · rw [if_pos hother, hother]
      exact not_not.mp hsame
    · rw [if_neg hother]

theorem Accorde.setReservations {appariement : Appariement P R}
    (haccorde : appariement.Accorde) {parent : P} {reservation : R}
    (hlibre : appariement.Libre parent reservation) :
    (appariement.setReservations parent reservation).Accorde := by
  intro other member
  rw [reservations_setReservations, owner_setReservations]
  by_cases hother : other = parent
  · subst hother
    by_cases hmember : member = reservation
    · simp [hmember]
    · -- the parent had no other reservation, so `member` does not name it
      have hfree : ¬appariement.reservations other = some member :=
        fun hheld => hmember (hlibre.1 member hheld)
      simpa [hmember, Ne.symm hmember, ← haccorde other member] using hfree
  · by_cases hmember : member = reservation
    · subst hmember
      -- the reservation named no other parent, so `other` does not hold it
      have hfree : ¬appariement.owner member = some other :=
        fun howner => hother (hlibre.2 other howner)
      simpa [hother, Ne.symm hother, haccorde other member] using hfree
    · simpa [hother, hmember] using haccorde other member

theorem Accorde.libre {appariement : Appariement P R}
    (haccorde : appariement.Accorde) {parent : P} {reservation : R}
    (hafter : (appariement.setReservations parent reservation).Accorde) :
    appariement.Libre parent reservation := by
  constructor
  · intro other hheld
    by_contra hother
    -- the replaced reservation still names the parent
    have hstale := (hafter parent other).mpr (by
      rw [owner_setReservations, if_neg hother]
      exact (haccorde parent other).mp hheld)
    rw [reservations_setReservations, if_pos rfl, Option.some.injEq] at hstale
    exact hother hstale.symm
  · intro other howner
    by_contra hother
    -- the previous parent still holds the reservation
    have hstale := (hafter other reservation).mp (by
      rw [reservations_setReservations, if_neg hother]
      exact (haccorde other reservation).mpr howner)
    rw [owner_setReservations, if_pos rfl, Option.some.injEq] at hstale
    exact hother hstale.symm

/-- From agreeing sides, a call keeps the agreement exactly when it replaces
and transfers nothing. -/
theorem Accorde.setReservations_iff {appariement : Appariement P R}
    (haccorde : appariement.Accorde) (parent : P) (reservation : R) :
    (appariement.setReservations parent reservation).Accorde ↔
      appariement.Libre parent reservation :=
  ⟨haccorde.libre, haccorde.setReservations⟩

/-- No two reservations name one parent, as its unique index requires. -/
def Unique (appariement : Appariement P R) : Prop :=
  ∀ first second parent, appariement.owner first = some parent →
    appariement.owner second = some parent → first = second

omit [DecidableEq P] [DecidableEq R] in
theorem Accorde.unique {appariement : Appariement P R}
    (haccorde : appariement.Accorde) : appariement.Unique := by
  intro first second parent hfirst hsecond
  have hheld := (haccorde parent first).mpr hfirst
  rw [(haccorde parent second).mpr hsecond, Option.some.injEq] at hheld
  exact hheld.symm

end Appariement

/-! ## The two associations of a reservation -/

/-- `Reservations::$livre` and `Reservations::$reservateur` with their inverse
sides. -/
structure Attributions (L U R : Type*) where
  livre : Appariement L R
  reservateur : Appariement U R

namespace Attributions

variable {L U R : Type*} [DecidableEq L] [DecidableEq U] [DecidableEq R]

def vide : Attributions L U R where
  livre := .vide
  reservateur := .vide

def Livre.setReservations (attributions : Attributions L U R) (livre : L)
    (reservations : R) : Attributions L U R :=
  { attributions with
    livre := attributions.livre.setReservations livre reservations }

def Utilisateur.setReservations (attributions : Attributions L U R)
    (utilisateur : U) (reservations : R) : Attributions L U R :=
  { attributions with
    reservateur :=
      attributions.reservateur.setReservations utilisateur reservations }

/-- A call of one of the two methods. -/
inductive Appel (L U R : Type*) where
  | livreSetReservations (livre : L) (reservations : R)
  | utilisateurSetReservations (utilisateur : U) (reservations : R)

def appeler (attributions : Attributions L U R) :
    Appel L U R → Attributions L U R
  | .livreSetReservations livre reservations =>
      Livre.setReservations attributions livre reservations
  | .utilisateurSetReservations utilisateur reservations =>
      Utilisateur.setReservations attributions utilisateur reservations

def Accorde (attributions : Attributions L U R) : Prop :=
  attributions.livre.Accorde ∧ attributions.reservateur.Accorde

/-- The call replaces no reservation and transfers none. -/
def Libre (attributions : Attributions L U R) : Appel L U R → Prop
  | .livreSetReservations livre reservations =>
      attributions.livre.Libre livre reservations
  | .utilisateurSetReservations utilisateur reservations =>
      attributions.reservateur.Libre utilisateur reservations

theorem Accorde.appeler_iff {attributions : Attributions L U R}
    (haccorde : attributions.Accorde) (appel : Appel L U R) :
    (attributions.appeler appel).Accorde ↔ attributions.Libre appel := by
  cases appel with
  | livreSetReservations livre reservations =>
      calc (Livre.setReservations attributions livre reservations).Accorde
        _ ↔ (attributions.livre.setReservations livre reservations).Accorde :=
            and_iff_left haccorde.2
        _ ↔ attributions.livre.Libre livre reservations :=
            haccorde.1.setReservations_iff livre reservations
  | utilisateurSetReservations utilisateur reservations =>
      calc (Utilisateur.setReservations attributions utilisateur reservations).Accorde
        _ ↔ (attributions.reservateur.setReservations utilisateur
              reservations).Accorde := and_iff_right haccorde.1
        _ ↔ attributions.reservateur.Libre utilisateur reservations :=
            haccorde.2.setReservations_iff utilisateur reservations

omit [DecidableEq L] [DecidableEq U] [DecidableEq R] in
theorem accorde_vide : (vide : Attributions L U R).Accorde :=
  ⟨Appariement.accorde_vide, Appariement.accorde_vide⟩

/-- The two sides agree in every state on the way exactly when no call replaces
or transfers a reservation.  Then no two reservations of a state on the way
name the same book or the same user. -/
theorem accorde_throughout_iff (appels : List (Appel L U R)) :
    ((∀ avant, avant <+: appels → (Run.run appeler vide avant).Accorde) ↔
      Run.Permitted appeler Libre vide appels) ∧
    (Run.Permitted appeler Libre vide appels →
      ∀ avant, avant <+: appels →
        (Run.run appeler vide avant).livre.Unique ∧
          (Run.run appeler vide avant).reservateur.Unique) := by
  have hiff := Run.invariant_prefixes_iff Accorde
    (fun _ appel haccorde => haccorde.appeler_iff appel) appels
    (vide : Attributions L U R) accorde_vide
  exact ⟨hiff, fun hpermitted avant havant =>
    have haccorde := hiff.mpr hpermitted avant havant
    ⟨haccorde.1.unique, haccorde.2.unique⟩⟩

/-- Two books and two users, each with a reservation of its own. -/
theorem accorde_throughout_distinct :
    (Run.run appeler (vide : Attributions ℕ ℕ ℕ)
      [.livreSetReservations 1 5, .utilisateurSetReservations 3 5,
        .livreSetReservations 2 6]).livre.Unique :=
  ((accorde_throughout_iff
      [.livreSetReservations 1 5, .utilisateurSetReservations 3 5,
        .livreSetReservations 2 6]).2
    (by simp [Run.Permitted, Libre, Appariement.Libre, appeler, vide,
      Livre.setReservations, Utilisateur.setReservations,
      Appariement.setReservations, Appariement.vide]) _ List.prefix_rfl).1

/-- A book given a second reservation: both of them name it. -/
theorem setReservations_leaves_replaced_owner :
    ¬ ∀ appels : List (Appel ℕ ℕ ℕ),
      (Run.run appeler vide appels).Accorde ∧
        (Run.run appeler vide appels).livre.Unique := by
  intro hall
  have hboth := (hall [.livreSetReservations 1 5, .livreSetReservations 1 6]).2 5 6 1
  revert hboth
  decide

end Attributions

end Bibliotheque
