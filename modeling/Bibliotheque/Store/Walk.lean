import Bibliotheque.Store.Removal

/-!
# The walk of `remove` while others write

`remove` reads the database as it goes.  `find` and the load of a proxy join the
reservation of a book or a user, every collection is a `SELECT` of its own, and an
object that is already loaded is not read again.  Between two of these reads other
requests may write.  With nobody else there the walk schedules what `doRemove`
returns; otherwise every association that it follows was stored at one of its reads.
-/

namespace Bibliotheque

open Relation

/-! ## The two sides of a reservation -/

/-- Books and users are mapped alike: a collection of loans, and the inverse side of
a one-to-one association with the reservation. -/
inductive Bout where
  | livre
  | reservateur
  deriving DecidableEq

namespace Bout

def autre : Bout → Bout
  | livre => reservateur
  | reservateur => livre

def ligne : Bout → ℕ → Ligne
  | livre => .livre
  | reservateur => .utilisateur

/-- The book or the user of a reservation. -/
def de : Bout → Reservations → ℕ
  | livre => Reservations.livre
  | reservateur => Reservations.reservateur

def relie (id : ℕ) (row : Reservations) : Bout → Reservations
  | livre => { row with livre := id }
  | reservateur => { row with reservateur := id }

/-- The collection of loans. -/
def emprunts (tables : Tables) (id : ℕ) : Bout → List Ligne
  | livre => tables.related (.livre id) .livreEmprunts
  | reservateur => tables.related (.utilisateur id) .utilisateurEmprunts

/-- The reservation that the `SELECT` of a book or a user joins. -/
def jointe (tables : Tables) (bout : Bout) (id : ℕ) : Option (ℕ × Reservations) :=
  tables.reservations.rows.find? (bout.de ·.2 = id)

theorem ligne_injective {bout other : Bout} {id number : ℕ}
    (heq : bout.ligne id = other.ligne number) : bout = other ∧ id = number := by
  cases bout <;> cases other <;> cases heq <;> exact ⟨rfl, rfl⟩

theorem eq_or_eq_autre (bout other : Bout) : other = bout ∨ other = bout.autre := by
  cases bout <;> cases other <;> decide

theorem autre_ne (bout : Bout) : bout.autre ≠ bout := by cases bout <;> decide

@[simp]
theorem de_relie_self (bout : Bout) (id : ℕ) (row : Reservations) :
    bout.de (bout.relie id row) = id := by
  cases bout <;> rfl

@[simp]
theorem de_autre_relie (bout : Bout) (id : ℕ) (row : Reservations) :
    bout.autre.de (bout.relie id row) = bout.autre.de row := by
  cases bout <;> rfl

theorem relie_de (bout : Bout) (row : Reservations) :
    bout.relie (bout.de row) row = row := by
  cases bout <;> rfl

variable {tables : Tables} {id : ℕ}

/-- There is at most one reservation for a book and for a user. -/
theorem jointe_eq_some_iff (hvalid : tables.Valid) (bout : Bout) (row : ℕ × Reservations) :
    bout.jointe tables id = some row ↔
      row ∈ tables.reservations.rows ∧ bout.de row.2 = id := by
  cases bout with
  | livre => exact Tables.find?_eq_some_iff_of_nodup hvalid.livre_unique id row
  | reservateur => exact Tables.find?_eq_some_iff_of_nodup hvalid.reservateur_unique id row

theorem jointe_mem {bout : Bout} {row : ℕ × Reservations}
    (hjointe : bout.jointe tables id = some row) :
    row ∈ tables.reservations.rows ∧ bout.de row.2 = id :=
  ⟨List.mem_of_find?_eq_some hjointe, by simpa using List.find?_some hjointe⟩

theorem cascade_ligne (bout : Bout) :
    tables.cascade (bout.ligne id) = bout.emprunts tables id ++
      ((bout.jointe tables id).map Prod.fst).toList.map .reservations := by
  cases bout <;>
    simp [ligne, emprunts, jointe, de, Tables.cascade, Ligne.associations,
      Champ.isCascadeRemove, Champ.mapping, Tables.related, Option.toList_map,
      Function.comp_def] <;> rfl

theorem emprunt_of_mem_emprunts {bout : Bout} {ligne : Ligne}
    (hmember : ligne ∈ bout.emprunts tables id) : ∃ number, ligne = .emprunt number := by
  cases bout <;>
    obtain ⟨row, -, rfl⟩ := List.mem_map.mp hmember <;> exact ⟨row.1, rfl⟩

/-- The foreign keys of a reservation. -/
theorem de_mem_lignes (hvalid : tables.Valid) (bout : Bout) {number : ℕ} {row : Reservations}
    (hfind : tables.reservations.find number = some row) :
    bout.ligne (bout.de row) ∈ tables.lignes := by
  have hrow := (Table.find_eq_some_iff _ _ _).mp hfind
  cases bout with
  | livre => exact (Tables.mem_lignes_livre _ _).mpr (hvalid.reservations_livre _ hrow)
  | reservateur =>
      exact (Tables.mem_lignes_utilisateur _ _).mpr (hvalid.reservations_reservateur _ hrow)

theorem cascade_reservations {number : ℕ} {row : Reservations}
    (hfind : tables.reservations.find number = some row) :
    tables.cascade (.reservations number) =
      [Ligne.livre row.livre, .utilisateur row.reservateur] := by
  simp [Tables.cascade, Ligne.associations, Champ.isCascadeRemove, Champ.mapping,
    Tables.related, hfind]

end Bout

/-! ## Objects in memory -/

/-- What the unit of work knows: the property `$reservations` of the books and users
that are loaded, and the reservations. -/
structure Memoire where
  bouts : Bout → ℕ → Option (Option ℕ)
  reservations : ℕ → Option Reservations

namespace Memoire

def vide : Memoire := ⟨fun _ _ => none, fun _ => none⟩

/-- `$reservations` of one object is set. -/
def pose (memoire : Memoire) (bout : Bout) (id : ℕ) (value : Option (Option ℕ)) : Memoire :=
  { memoire with
    bouts := Function.update memoire.bouts bout
      (Function.update (memoire.bouts bout) id value) }

/-- A reservation that is new to the unit of work is set on its other side too, if
that is loaded. -/
def accueille (memoire : Memoire) (bout : Bout) (number : ℕ) (row : Reservations) : Memoire :=
  if (memoire.reservations number).isSome then memoire
  else memoire.pose bout.autre (bout.autre.de row)
    ((memoire.bouts bout.autre (bout.autre.de row)).map fun _ => some number)

/-- The `SELECT` of a book or a user.  A reservation that is already known keeps what
it was loaded with, but for the side that is read. -/
def charge (tables : Tables) (memoire : Memoire) (bout : Bout) (id : ℕ) : Memoire :=
  match bout.jointe tables id with
  | none => memoire.pose bout id (some none)
  | some (number, row) =>
      { (memoire.accueille bout number row).pose bout id (some (some number)) with
        reservations := Function.update memoire.reservations number
          (some (bout.relie id ((memoire.reservations number).getD row))) }

/-- `find` of the row to remove. -/
def trouve (tables : Tables) : Ligne → Memoire
  | .livre id => vide.charge tables .livre id
  | .utilisateur id => vide.charge tables .reservateur id
  | .reservations id =>
      { vide with reservations :=
        Function.update vide.reservations id (tables.reservations.find id) }
  | .auteur _ | .categorie _ | .emprunt _ | .livreAuteur _ _ => vide

/-- The property `$reservations`. -/
def reservation (memoire : Memoire) (bout : Bout) (id : ℕ) : List Ligne :=
  (memoire.bouts bout id).join.toList.map .reservations

end Memoire

/-! ## The walk -/

/-- What is left to do: a call of `doRemove`, the load of a proxy, or the load of a
collection with the loop over the associations after it. -/
inductive Pas where
  | visiter (ligne : Ligne)
  | charger (bout : Bout) (id : ℕ)
  | emprunts (bout : Bout) (id : ℕ)
  | livres (categorie : ℕ)

/-- The entity that a step is about. -/
def Pas.ligne : Pas → Ligne
  | visiter ligne => ligne
  | charger bout id | emprunts bout id => bout.ligne id
  | livres categorie => .categorie categorie

/-- A walk under way. -/
structure Marche where
  memoire : Memoire
  vus : List Ligne
  pile : List Pas

/-- `cascadeRemove` of a book or a user: a proxy is loaded first. -/
def Memoire.initialiser (memoire : Memoire) (bout : Bout) (id : ℕ) : List Pas :=
  if (memoire.bouts bout id).isSome then [.emprunts bout id]
  else [.charger bout id, .emprunts bout id]

def Memoire.etapes (memoire : Memoire) : Ligne → List Pas
  | .livre id => memoire.initialiser .livre id
  | .utilisateur id => memoire.initialiser .reservateur id
  | .categorie id => [.livres id]
  | .reservations id =>
      (memoire.reservations id).toList.flatMap fun row =>
        [.visiter (.livre row.livre), .visiter (.utilisateur row.reservateur)]
  | .auteur _ | .emprunt _ | .livreAuteur _ _ => []

namespace Marche

def debut (tables : Tables) (ligne : Ligne) : Marche :=
  ⟨Memoire.trouve tables ligne, [], [.visiter ligne]⟩

/-- The next step on the database as it is now.  A proxy whose row has left cannot be
loaded. -/
def avancer (tables : Tables) (marche : Marche) : Option Marche :=
  match marche.pile with
  | [] => some marche
  | .visiter ligne :: pile =>
      if ligne ∈ marche.vus then some { marche with pile := pile }
      else some { marche with
        vus := ligne :: marche.vus
        pile := marche.memoire.etapes ligne ++ pile }
  | .charger bout id :: pile =>
      if bout.ligne id ∈ tables.lignes then
        some { marche with
          memoire := marche.memoire.charge tables bout id
          pile := pile }
      else none
  | .emprunts bout id :: pile =>
      some { marche with pile :=
        (bout.emprunts tables id ++ marche.memoire.reservation bout id).map .visiter ++ pile }
  | .livres categorie :: pile =>
      let livres := (tables.livre.rows.filter (·.2.categorie = categorie)).map Prod.fst
      some { marche with
        memoire := livres.foldl (fun memoire livre => memoire.charge tables .livre livre)
          marche.memoire
        pile := livres.map (fun livre => .visiter (.livre livre)) ++ pile }

end Marche

/-! ## One `SELECT` -/

namespace Memoire

variable {tables : Tables} {memoire : Memoire} {bout other : Bout} {id number : ℕ}

theorem bouts_pose (memoire : Memoire) (bout : Bout) (id : ℕ) (value : Option (Option ℕ))
    (other : Bout) (number : ℕ) :
    (memoire.pose bout id value).bouts other number =
      if other = bout ∧ number = id then value else memoire.bouts other number := by
  unfold pose
  by_cases hother : other = bout
  · subst hother
    simp only [Function.update_self, true_and]
    exact Function.update_apply _ _ _ _
  · simp only [Function.update_of_ne hother, hother, false_and, if_false]

theorem bouts_charge_self :
    (memoire.charge tables bout id).bouts bout id =
      some ((bout.jointe tables id).map Prod.fst) := by
  unfold charge
  cases bout.jointe tables id with
  | none => simp [bouts_pose]
  | some row => simp [bouts_pose]

/-- What `$reservations` of a loaded object can be after a `SELECT`. -/
theorem bouts_charge_cases {found : Option ℕ}
    (hfound : (memoire.charge tables bout id).bouts other number = some found) :
    (other = bout ∧ number = id ∧ found = (bout.jointe tables id).map Prod.fst) ∨
      (∃ row, bout.jointe tables id = some row ∧ other = bout.autre ∧
        number = other.de row.2 ∧ found = some row.1) ∨
      memoire.bouts other number = some found := by
  unfold charge at hfound
  cases hjointe : bout.jointe tables id with
  | none =>
      simp only [hjointe, bouts_pose] at hfound
      split at hfound
      · rename_i hsame
        exact Or.inl ⟨hsame.1, hsame.2, (Option.some.inj hfound).symm⟩
      · exact Or.inr (Or.inr hfound)
  | some row =>
      obtain ⟨joint, row⟩ := row
      simp only [hjointe, bouts_pose] at hfound
      split at hfound
      · rename_i hsame
        exact Or.inl ⟨hsame.1, hsame.2, (Option.some.inj hfound).symm⟩
      · rw [accueille] at hfound
        split at hfound
        · exact Or.inr (Or.inr hfound)
        · rw [bouts_pose] at hfound
          split at hfound
          · rename_i hautre
            obtain ⟨-, -, rfl⟩ := Option.map_eq_some_iff.mp hfound
            exact Or.inr (Or.inl ⟨_, rfl, hautre.1, hautre.1 ▸ hautre.2, rfl⟩)
          · exact Or.inr (Or.inr hfound)

/-- What a known reservation can be after a `SELECT`. -/
theorem reservations_charge_cases {row : Reservations}
    (hrow : (memoire.charge tables bout id).reservations number = some row) :
    (∃ joint, bout.jointe tables id = some (number, joint) ∧
        row = bout.relie id ((memoire.reservations number).getD joint)) ∨
      memoire.reservations number = some row := by
  unfold charge at hrow
  cases hjointe : bout.jointe tables id with
  | none =>
      simp only [hjointe] at hrow
      exact Or.inr hrow
  | some joint =>
      obtain ⟨joint, stored⟩ := joint
      simp only [hjointe, Function.update_apply] at hrow
      split at hrow
      · rename_i hsame
        subst hsame
        exact Or.inl ⟨stored, rfl, (Option.some.inj hrow).symm⟩
      · exact Or.inr hrow

/-- A reservation that is known stays known. -/
theorem isSome_charge (hknown : (memoire.reservations number).isSome) :
    ((memoire.charge tables bout id).reservations number).isSome := by
  unfold charge
  cases bout.jointe tables id with
  | none => exact hknown
  | some row =>
      obtain ⟨joint, row⟩ := row
      simp only [Function.update_apply]
      split
      · rfl
      · exact hknown

theorem isSome_charge_jointe {row : ℕ × Reservations}
    (hjointe : bout.jointe tables id = some row) :
    ((memoire.charge tables bout id).reservations row.1).isSome := by
  obtain ⟨joint, row⟩ := row
  simp [charge, hjointe]

/-! ### Objects that agree with the database -/

/-- Everything that is known is as the database has it. -/
structure Conforme (tables : Tables) (memoire : Memoire) : Prop where
  bouts : ∀ bout id found, memoire.bouts bout id = some found →
    found = (bout.jointe tables id).map Prod.fst
  reservations : ∀ number row, memoire.reservations number = some row →
    tables.reservations.find number = some row
  connue : ∀ bout id number, memoire.bouts bout id = some (some number) →
    (memoire.reservations number).isSome

theorem conforme_vide (tables : Tables) : vide.Conforme tables where
  bouts := fun _ _ _ hfound => nomatch hfound
  reservations := fun _ _ hrow => nomatch hrow
  connue := fun _ _ _ hfound => nomatch hfound

theorem Conforme.charge (hvalid : tables.Valid) (hconforme : memoire.Conforme tables)
    (bout : Bout) (id : ℕ) : (memoire.charge tables bout id).Conforme tables where
  bouts := by
    intro other number found hfound
    rcases bouts_charge_cases hfound with ⟨rfl, rfl, rfl⟩ | ⟨row, hjointe, rfl, rfl, rfl⟩ | hold
    · rfl
    · have hother := (bout.autre.jointe_eq_some_iff hvalid row).mpr
        ⟨(Bout.jointe_mem hjointe).1, rfl⟩
      rw [hother, Option.map_some]
    · exact hconforme.bouts other number found hold
  reservations := by
    intro number row hrow
    rcases reservations_charge_cases hrow with ⟨joint, hjointe, rfl⟩ | hold
    · obtain ⟨hmember, hid⟩ := Bout.jointe_mem hjointe
      have hfind := (Table.find_eq_some_iff _ _ _).mpr hmember
      have hknown : (memoire.reservations number).getD joint = joint := by
        cases hrow : memoire.reservations number with
        | none => rfl
        | some row => exact Option.some.inj ((hconforme.reservations _ _ hrow).symm.trans hfind)
      rw [hknown, ← hid, Bout.relie_de]
      exact hfind
    · exact hconforme.reservations number row hold
  connue := by
    intro other number joint hfound
    rcases bouts_charge_cases hfound with ⟨rfl, rfl, hjoint⟩ | ⟨row, hjointe, -, -, hjoint⟩ | hold
    · obtain ⟨row, hjointe, rfl⟩ := Option.map_eq_some_iff.mp hjoint.symm
      exact isSome_charge_jointe hjointe
    · cases hjoint
      exact isSome_charge_jointe hjointe
    · exact isSome_charge (hconforme.connue other number joint hold)

theorem conforme_trouve (hvalid : tables.Valid) (ligne : Ligne) :
    (trouve tables ligne).Conforme tables := by
  have hvide := conforme_vide tables
  cases ligne with
  | livre id => exact hvide.charge hvalid .livre id
  | utilisateur id => exact hvide.charge hvalid .reservateur id
  | reservations id =>
      refine ⟨hvide.bouts, fun number row hrow => ?_, fun _ _ _ hfound => nomatch hfound⟩
      simp only [trouve, Function.update_apply] at hrow
      split at hrow
      · rename_i hsame
        rw [hsame, hrow]
      · exact nomatch hrow
  | auteur _ | categorie _ | emprunt _ | livreAuteur _ _ => exact hvide

end Memoire

/-! ## Alone -/

namespace Marche

/-- One step, on a database that nobody else changes. -/
def Suit (tables : Tables) (marche suivante : Marche) : Prop :=
  marche.pile ≠ [] ∧ marche.avancer tables = some suivante

/-- Before `remove` reaches a reservation, its object is known. -/
def Prete (memoire : Memoire) (ligne : Ligne) : Prop :=
  ∀ number, ligne = .reservations number → (memoire.reservations number).isSome

/-- The memory only grows. -/
def Grandit (memoire apres : Memoire) : Prop :=
  ∀ number, (memoire.reservations number).isSome → (apres.reservations number).isSome

theorem Prete.grandit {memoire apres : Memoire} {ligne : Ligne}
    (hprete : Prete memoire ligne) (hgrandit : Grandit memoire apres) :
    Prete apres ligne :=
  fun number hligne => hgrandit number (hprete number hligne)

section Alone

variable {tables : Tables} {memoire : Memoire} {vus : List Ligne} {pile : List Pas}

/-- What comes of one entity: its associations are visited next. -/
structure Parcourt (tables : Tables) (memoire : Memoire) (vus : List Ligne) (ligne : Ligne)
    (pile : List Pas) (apres : Memoire) : Prop where
  conforme : apres.Conforme tables
  grandit : Grandit memoire apres
  prete : ∀ target ∈ tables.cascade ligne, Prete apres target
  steps : ReflTransGen (Suit tables) ⟨memoire, vus, memoire.etapes ligne ++ pile⟩
    ⟨apres, vus, (tables.cascade ligne).map .visiter ++ pile⟩

/-- The loans and the reservation of a loaded book or user. -/
theorem parcourt_emprunts (hconforme : memoire.Conforme tables) {bout : Bout} {id : ℕ}
    (hloaded : memoire.bouts bout id = some ((bout.jointe tables id).map Prod.fst)) :
    (∀ target ∈ tables.cascade (bout.ligne id), Prete memoire target) ∧
      Suit tables ⟨memoire, vus, .emprunts bout id :: pile⟩
        ⟨memoire, vus, (tables.cascade (bout.ligne id)).map .visiter ++ pile⟩ := by
  have hreservation : memoire.reservation bout id =
      ((bout.jointe tables id).map Prod.fst).toList.map .reservations := by
    rw [Memoire.reservation, hloaded]
    rfl
  constructor
  · rintro target htarget number rfl
    rw [Bout.cascade_ligne, List.mem_append] at htarget
    rcases htarget with hemprunt | hjointe
    · obtain ⟨other, heq⟩ := Bout.emprunt_of_mem_emprunts hemprunt
      cases heq
    · obtain ⟨joint, hjoint, heq⟩ := List.mem_map.mp hjointe
      cases heq
      refine hconforme.connue bout id number ?_
      rw [hloaded, Option.mem_toList.mp hjoint]
  · refine ⟨List.cons_ne_nil _ _, ?_⟩
    rw [Bout.cascade_ligne, ← hreservation]
    rfl

theorem exists_parcourt_bout (hvalid : tables.Valid) (hconforme : memoire.Conforme tables)
    (bout : Bout) {id : ℕ} (hligne : bout.ligne id ∈ tables.lignes)
    (hetapes : memoire.etapes (bout.ligne id) = memoire.initialiser bout id) :
    ∃ apres, Parcourt tables memoire vus (bout.ligne id) pile apres := by
  by_cases hloaded : (memoire.bouts bout id).isSome
  · obtain ⟨found, hfound⟩ := Option.isSome_iff_exists.mp hloaded
    have hjointe : memoire.bouts bout id = some ((bout.jointe tables id).map Prod.fst) := by
      rw [hfound, hconforme.bouts bout id found hfound]
    obtain ⟨hprete, hstep⟩ := @parcourt_emprunts tables memoire vus pile hconforme bout id hjointe
    refine ⟨memoire, hconforme, fun _ hknown => hknown, hprete, ?_⟩
    rw [hetapes, Memoire.initialiser, if_pos hloaded]
    exact .single hstep
  · obtain ⟨hprete, hstep⟩ := @parcourt_emprunts tables (memoire.charge tables bout id) vus pile
      (hconforme.charge hvalid bout id) bout id Memoire.bouts_charge_self
    refine ⟨_, hconforme.charge hvalid bout id, fun _ => Memoire.isSome_charge, hprete, ?_⟩
    rw [hetapes, Memoire.initialiser, if_neg hloaded]
    refine .head ⟨List.cons_ne_nil _ _, ?_⟩ (.single hstep)
    exact if_pos hligne

/-- The books of a category are loaded together. -/
theorem grandit_foldl (livres : List ℕ) : ∀ memoire : Memoire, Grandit memoire
    (livres.foldl (fun memoire livre => memoire.charge tables .livre livre) memoire) := by
  induction livres with
  | nil => exact fun _ _ hknown => hknown
  | cons livre livres ih =>
      exact fun memoire number hknown => ih _ number (Memoire.isSome_charge hknown)

theorem conforme_foldl (hvalid : tables.Valid) (livres : List ℕ) :
    ∀ {memoire : Memoire}, memoire.Conforme tables →
      (livres.foldl (fun memoire livre => memoire.charge tables .livre livre)
        memoire).Conforme tables := by
  induction livres with
  | nil => exact fun hconforme => hconforme
  | cons livre livres ih => exact fun hconforme => ih (hconforme.charge hvalid .livre livre)

theorem exists_parcourt (hvalid : tables.Valid) (hconforme : memoire.Conforme tables)
    {ligne : Ligne} (hligne : ligne ∈ tables.lignes) (hprete : Prete memoire ligne) :
    ∃ apres, Parcourt tables memoire vus ligne pile apres := by
  have hsame : Grandit memoire memoire := fun _ hknown => hknown
  cases ligne with
  | livre id => exact exists_parcourt_bout hvalid hconforme .livre hligne rfl
  | utilisateur id => exact exists_parcourt_bout hvalid hconforme .reservateur hligne rfl
  | reservations id =>
      obtain ⟨row, hrow⟩ := Option.isSome_iff_exists.mp (hprete id rfl)
      have hcascade := Bout.cascade_reservations (hconforme.reservations id row hrow)
      refine ⟨memoire, hconforme, hsame, fun target htarget => ?_, ?_⟩
      · rw [hcascade] at htarget
        rintro number rfl
        simp at htarget
      · rw [hcascade, Memoire.etapes, hrow]
        exact .refl
  | categorie id =>
      let livres := (tables.livre.rows.filter (·.2.categorie = id)).map Prod.fst
      have hcascade : tables.cascade (.categorie id) = livres.map .livre := by
        simp [livres, Tables.cascade, Ligne.associations, Champ.isCascadeRemove,
          Champ.mapping, Tables.related, Function.comp_def]
      refine ⟨_, conforme_foldl hvalid livres hconforme, grandit_foldl livres memoire,
        fun target htarget => ?_, ?_⟩
      · rw [hcascade] at htarget
        obtain ⟨livre, -, rfl⟩ := List.mem_map.mp htarget
        intro number heq
        cases heq
      · refine .single ⟨List.cons_ne_nil _ _, ?_⟩
        rw [hcascade, List.map_map]
        rfl
  | auteur _ | emprunt _ | livreAuteur _ _ =>
      exact ⟨memoire, hconforme, hsame, fun _ htarget => (List.not_mem_nil htarget).elim, .refl⟩

/-- The walk goes from a memory to a later one and marks `apres` on the way. -/
structure Mene (tables : Tables) (memoire : Memoire) (vus : List Ligne) (pas : List Pas)
    (pile : List Pas) (apres : Memoire) (marques : List Ligne) : Prop where
  conforme : apres.Conforme tables
  grandit : Grandit memoire apres
  steps : ReflTransGen (Suit tables) ⟨memoire, vus, pas ++ pile⟩ ⟨apres, marques, pile⟩

/-- The loop over the associations. -/
theorem mene_foldlM {visit : List Ligne → Ligne → Option (List Ligne)}
    (hvisit : ∀ {memoire vus ligne marques}, visit vus ligne = some marques →
      memoire.Conforme tables → Prete memoire ligne → ligne ∈ tables.lignes →
        ∀ pile, ∃ apres, Mene tables memoire vus [.visiter ligne] pile apres marques) :
    ∀ {lignes : List Ligne} {memoire : Memoire} {vus marques : List Ligne},
      lignes.foldlM visit vus = some marques → memoire.Conforme tables →
        (∀ ligne ∈ lignes, Prete memoire ligne ∧ ligne ∈ tables.lignes) →
          ∀ pile, ∃ apres, Mene tables memoire vus (lignes.map .visiter) pile apres marques := by
  intro lignes
  induction lignes with
  | nil =>
      intro memoire vus marques hfold hconforme _ pile
      cases hfold
      exact ⟨memoire, hconforme, fun _ hknown => hknown, .refl⟩
  | cons ligne lignes ih =>
      intro memoire vus marques hfold hconforme hlignes pile
      rw [List.foldlM_cons] at hfold
      obtain ⟨milieu, hfirst, hrest⟩ := Option.bind_eq_some_iff.mp hfold
      obtain ⟨hprete, hligne⟩ := hlignes ligne List.mem_cons_self
      obtain ⟨apres, hmene⟩ := hvisit hfirst hconforme hprete hligne
        (lignes.map .visiter ++ pile)
      obtain ⟨fin, hend⟩ := ih hrest hmene.conforme (fun other hother =>
        (hlignes other (List.mem_cons_of_mem _ hother)).imp_left fun hprete =>
          hprete.grandit hmene.grandit) pile
      exact ⟨fin, hend.conforme, fun number hknown =>
        hend.grandit number (hmene.grandit number hknown), hmene.steps.trans hend.steps⟩

/-- The steps of the walk mark what the recursive calls mark. -/
theorem mene_visit (hvalid : tables.Valid) (depth : ℕ) :
    ∀ {memoire : Memoire} {vus : List Ligne} {ligne : Ligne} {marques : List Ligne},
      Traversal.visit tables.cascade depth vus ligne = some marques →
        memoire.Conforme tables → Prete memoire ligne → ligne ∈ tables.lignes →
          ∀ pile, ∃ apres, Mene tables memoire vus [.visiter ligne] pile apres marques := by
  have hmarked : ∀ {memoire : Memoire} {vus : List Ligne} {ligne : Ligne},
      memoire.Conforme tables → ligne ∈ vus → ∀ pile,
        Mene tables memoire vus [.visiter ligne] pile memoire vus := by
    intro memoire vus ligne hconforme hmember pile
    exact ⟨hconforme, fun _ hknown => hknown,
      .single ⟨List.cons_ne_nil _ _, if_pos hmember⟩⟩
  induction depth with
  | zero =>
      intro memoire vus ligne marques hvisit hconforme _ _ pile
      rw [Traversal.visit] at hvisit
      split at hvisit
      · rename_i hmember
        cases hvisit
        exact ⟨memoire, hmarked hconforme hmember pile⟩
      · cases hvisit
  | succ depth ih =>
      intro memoire vus ligne marques hvisit hconforme hprete hligne pile
      rw [Traversal.visit] at hvisit
      split at hvisit
      · rename_i hmember
        cases hvisit
        exact ⟨memoire, hmarked hconforme hmember pile⟩
      · rename_i hnew
        obtain ⟨milieu, hfirst⟩ := @exists_parcourt tables memoire (ligne :: vus) pile hvalid
          hconforme ligne hligne hprete
        obtain ⟨apres, hrest⟩ := mene_foldlM ih hvisit hfirst.conforme (fun target htarget =>
          ⟨hfirst.prete target htarget,
            Tables.mem_lignes_of_mem_cascade hvalid hligne htarget⟩) pile
        have hmark : Suit tables ⟨memoire, vus, [.visiter ligne] ++ pile⟩
            ⟨memoire, ligne :: vus, memoire.etapes ligne ++ pile⟩ :=
          ⟨List.cons_ne_nil _ _, if_neg hnew⟩
        exact ⟨apres, hrest.conforme, fun number hknown =>
          hrest.grandit number (hfirst.grandit number hknown),
          .head hmark (hfirst.steps.trans hrest.steps)⟩

theorem prete_trouve {ligne : Ligne} (hligne : ligne ∈ tables.lignes) :
    Prete (Memoire.trouve tables ligne) ligne := by
  rintro number rfl
  obtain ⟨row, hrow⟩ := Table.exists_find_of_mem_ids ((Tables.mem_lignes_reservations _ _).mp
    hligne)
  simp [Memoire.trouve, hrow]

/-- With nobody else there, the walk ends with what `doRemove` returns. -/
theorem debut_doRemove (hvalid : tables.Valid) {ligne : Ligne} {removed : List Ligne}
    (hligne : ligne ∈ tables.lignes) (hremoved : tables.doRemove ligne = some removed) :
    ∃ memoire, ReflTransGen (Suit tables) (debut tables ligne) ⟨memoire, removed, []⟩ := by
  obtain ⟨apres, hmene⟩ := mene_visit hvalid _ hremoved (Memoire.conforme_trouve hvalid ligne)
    (prete_trouve hligne) hligne []
  exact ⟨apres, hmene.steps⟩

end Alone

/-! ## Among others -/

section Stale

variable {lus : List Base} {depart ligne : Ligne} {bout : Bout} {id number : ℕ}

/-- The association was followed in one of the states that were read. -/
def Lien (lus : List Base) (source target : Ligne) : Prop :=
  ∃ lu ∈ lus, target ∈ lu.cascade source

/-- One of the states that were read had the reservation with this side. -/
def Lue (lus : List Base) (bout : Bout) (number id : ℕ) : Prop :=
  ∃ lu ∈ lus, ∃ row, lu.reservations.find number = some row ∧ bout.de row = id

theorem Lien.append {source target : Ligne} (hlien : Lien lus source target)
    (more : List Base) : Lien (lus ++ more) source target := by
  obtain ⟨lu, hlu, hcascade⟩ := hlien
  exact ⟨lu, List.mem_append_left more hlu, hcascade⟩

theorem reach_append (hpath : ReflTransGen (Lien lus) depart ligne) (more : List Base) :
    ReflTransGen (Lien (lus ++ more)) depart ligne :=
  ReflTransGen.mono (fun _ _ (hlien : Lien lus _ _) => hlien.append more) _ _ hpath

theorem Lue.append (hlue : Lue lus bout number id) (more : List Base) :
    Lue (lus ++ more) bout number id := by
  obtain ⟨lu, hlu, hrow⟩ := hlue
  exact ⟨lu, List.mem_append_left more hlu, hrow⟩

theorem Lue.of_jointe {base : Base} (hbase : base ∈ lus) {row : ℕ × Reservations}
    (hmember : row ∈ base.reservations.rows) (bout : Bout) :
    Lue lus bout row.1 (bout.de row.2) :=
  ⟨base, hbase, row.2, (Table.find_eq_some_iff _ _ _).mpr hmember, rfl⟩

/-- From a book or a user to its reservation, and back. -/
theorem Lue.lien_reservation (hlue : Lue lus bout number id) :
    Lien lus (bout.ligne id) (.reservations number) := by
  obtain ⟨lu, hlu, row, hfind, rfl⟩ := hlue
  have hjointe := (bout.jointe_eq_some_iff lu.valid (number, row)).mpr
    ⟨(Table.find_eq_some_iff _ _ _).mp hfind, rfl⟩
  refine ⟨lu, hlu, ?_⟩
  rw [Bout.cascade_ligne, hjointe]
  simp

theorem Lue.lien_bout (hlue : Lue lus bout number id) :
    Lien lus (.reservations number) (bout.ligne id) := by
  obtain ⟨lu, hlu, row, hfind, rfl⟩ := hlue
  refine ⟨lu, hlu, ?_⟩
  rw [Bout.cascade_reservations hfind]
  cases bout <;> simp [Bout.ligne, Bout.de]

/-- The walk has marked the entity or is about to visit it. -/
def Atteint (marche : Marche) (ligne : Ligne) : Prop :=
  ligne ∈ marche.vus ∨ .visiter ligne ∈ marche.pile

/-- What a walk has in memory was read, and so was every association by which it got
where it is. -/
structure Fondee (lus : List Base) (depart : Ligne) (marche : Marche) : Prop where
  bouts : ∀ bout id number, marche.memoire.bouts bout id = some (some number) →
    Lue lus bout number id ∧ (marche.memoire.reservations number).isSome
  reservations : ∀ number row, marche.memoire.reservations number = some row →
    ∀ bout : Bout, Lue lus bout number (bout.de row)
  vus : ∀ ligne ∈ marche.vus, ReflTransGen (Lien lus) depart ligne
  pile : ∀ pas ∈ marche.pile, ReflTransGen (Lien lus) depart pas.ligne
  prete : ∀ ligne, .visiter ligne ∈ marche.pile → Prete marche.memoire ligne
  depart : marche.Atteint depart
  suivies : ∀ number, .reservations number ∈ marche.vus → ∀ bout : Bout,
    ∃ id, Lue lus bout number id ∧ marche.Atteint (bout.ligne id)

/-! ### What a `SELECT` adds to the memory -/

/-- The two fields about the memory. -/
def Lues (lus : List Base) (memoire : Memoire) : Prop :=
  (∀ bout id number, memoire.bouts bout id = some (some number) →
      Lue lus bout number id ∧ (memoire.reservations number).isSome) ∧
    ∀ number row, memoire.reservations number = some row →
      ∀ bout : Bout, Lue lus bout number (bout.de row)

theorem Lues.append {memoire : Memoire} (hlues : Lues lus memoire) (more : List Base) :
    Lues (lus ++ more) memoire :=
  ⟨fun bout id number hfound => (hlues.1 bout id number hfound).imp_left fun hlue =>
    hlue.append more, fun number row hrow bout => (hlues.2 number row hrow bout).append more⟩

theorem Lues.charge {memoire : Memoire} (hlues : Lues lus memoire) {base : Base}
    (hbase : base ∈ lus) (bout : Bout) (id : ℕ) :
    Lues lus (memoire.charge base.toTables bout id) := by
  constructor
  · intro other number joint hfound
    rcases Memoire.bouts_charge_cases hfound with
      ⟨rfl, rfl, hjoint⟩ | ⟨row, hjointe, rfl, rfl, hjoint⟩ | hold
    · obtain ⟨row, hjointe, rfl⟩ := Option.map_eq_some_iff.mp hjoint.symm
      obtain ⟨hmember, rfl⟩ := Bout.jointe_mem hjointe
      exact ⟨.of_jointe hbase hmember other, Memoire.isSome_charge_jointe hjointe⟩
    · cases hjoint
      exact ⟨.of_jointe hbase (Bout.jointe_mem hjointe).1 _,
        Memoire.isSome_charge_jointe hjointe⟩
    · exact (hlues.1 other number joint hold).imp_right Memoire.isSome_charge
  · intro number row hrow other
    rcases Memoire.reservations_charge_cases hrow with ⟨joint, hjointe, rfl⟩ | hold
    · obtain ⟨hmember, hid⟩ := Bout.jointe_mem hjointe
      rcases bout.eq_or_eq_autre other with rfl | rfl
      · rw [Bout.de_relie_self, ← hid]
        exact .of_jointe hbase hmember other
      · rw [Bout.de_autre_relie]
        cases hknown : memoire.reservations number with
        | none => exact .of_jointe hbase hmember bout.autre
        | some known => exact hlues.2 number known hknown bout.autre
    · exact hlues.2 number row hold other

theorem lues_vide (lus : List Base) : Lues lus Memoire.vide :=
  ⟨fun _ _ _ hfound => (nomatch hfound), fun _ _ hrow => nomatch hrow⟩

theorem lues_trouve (base : Base) (ligne : Ligne) :
    Lues [base] (Memoire.trouve base.toTables ligne) := by
  have hbase := List.mem_singleton_self base
  cases ligne with
  | livre id => exact (lues_vide [base]).charge hbase .livre id
  | utilisateur id => exact (lues_vide [base]).charge hbase .reservateur id
  | reservations id =>
      refine ⟨fun _ _ _ hfound => (nomatch hfound), fun number row hrow bout => ?_⟩
      simp only [Memoire.trouve, Function.update_apply] at hrow
      split at hrow
      · rename_i hsame
        exact ⟨base, hbase, row, hsame ▸ hrow, rfl⟩
      · exact nomatch hrow
  | auteur _ | categorie _ | emprunt _ | livreAuteur _ _ => exact lues_vide [base]

theorem lues_foldl {base : Base} (hbase : base ∈ lus) (livres : List ℕ) :
    ∀ {memoire : Memoire}, Lues lus memoire →
      Lues lus (livres.foldl
        (fun memoire livre => memoire.charge base.toTables .livre livre) memoire) := by
  induction livres with
  | nil => exact fun hlues => hlues
  | cons livre livres ih => exact fun hlues => ih (hlues.charge hbase .livre livre)

theorem Memoire.of_mem_initialiser {memoire : Memoire} {pas : Pas}
    (hpas : pas ∈ memoire.initialiser bout id) :
    pas.ligne = bout.ligne id ∧ ∀ other, pas ≠ .visiter other := by
  unfold Memoire.initialiser at hpas
  split at hpas <;> simp only [List.mem_cons, List.not_mem_nil, or_false] at hpas
  · subst hpas
    exact ⟨rfl, fun _ heq => nomatch heq⟩
  · rcases hpas with rfl | rfl
    · exact ⟨rfl, fun _ heq => nomatch heq⟩
    · exact ⟨rfl, fun _ heq => nomatch heq⟩

/-- What is to be done for an entity leads along what was read, and no reservation is
visited before it is known. -/
theorem Lues.etapes {memoire : Memoire} (hlues : Lues lus memoire)
    (hreached : ReflTransGen (Lien lus) depart ligne) :
    ∀ pas ∈ memoire.etapes ligne, ReflTransGen (Lien lus) depart pas.ligne ∧
      ∀ other, pas = .visiter other → Prete memoire other := by
  have hinitialiser : ∀ {pas : Pas} {bout : Bout} {id : ℕ},
      pas ∈ memoire.initialiser bout id → ligne = bout.ligne id →
        ReflTransGen (Lien lus) depart pas.ligne ∧
          ∀ other, pas = .visiter other → Prete memoire other := by
    rintro pas bout id hpas rfl
    obtain ⟨hligne, hnever⟩ := Memoire.of_mem_initialiser hpas
    exact ⟨hligne ▸ hreached, fun other heq => absurd heq (hnever other)⟩
  intro pas hpas
  cases ligne with
  | livre id => exact @hinitialiser pas .livre id hpas rfl
  | utilisateur id => exact @hinitialiser pas .reservateur id hpas rfl
  | categorie id =>
      cases List.mem_singleton.mp hpas
      exact ⟨hreached, fun _ heq => nomatch heq⟩
  | reservations id =>
      obtain ⟨row, hrow, hmember⟩ := List.mem_flatMap.mp hpas
      have hlue := hlues.2 id row (Option.mem_toList.mp hrow)
      simp only [List.mem_cons, List.not_mem_nil, or_false] at hmember
      rcases hmember with rfl | rfl
      · refine ⟨hreached.tail (hlue .livre).lien_bout, fun other heq => ?_⟩
        cases heq
        exact fun _ heq => nomatch heq
      · refine ⟨hreached.tail (hlue .reservateur).lien_bout, fun other heq => ?_⟩
        cases heq
        exact fun _ heq => nomatch heq
  | auteur _ | emprunt _ | livreAuteur _ _ => exact (List.not_mem_nil hpas).elim

/-- The loans are found in the database, the reservation in the memory. -/
theorem Lues.associee {memoire : Memoire} (hlues : Lues lus memoire) {base : Base}
    (hbase : base ∈ lus)
    (hligne : ligne ∈ bout.emprunts base.toTables id ++ memoire.reservation bout id) :
    Lien lus (bout.ligne id) ligne ∧ Prete memoire ligne := by
  rcases List.mem_append.mp hligne with hemprunt | hreservation
  · constructor
    · refine ⟨base, hbase, ?_⟩
      rw [Bout.cascade_ligne]
      exact List.mem_append_left _ hemprunt
    · rintro number rfl
      obtain ⟨emprunt, heq⟩ := Bout.emprunt_of_mem_emprunts hemprunt
      cases heq
  · obtain ⟨number, hnumber, rfl⟩ := List.mem_map.mp hreservation
    obtain ⟨hlue, hknown⟩ := hlues.1 bout id number (Option.join_eq_some_iff.mp
      (Option.mem_toList.mp hnumber))
    refine ⟨hlue.lien_reservation, fun other heq => ?_⟩
    cases heq
    exact hknown

theorem lien_livre {base : Base} (hbase : base ∈ lus) {categorie : ℕ} {row : ℕ × Livre}
    (hrow : row ∈ base.livre.rows.filter (·.2.categorie = categorie)) :
    Lien lus (.categorie categorie) (.livre row.1) := by
  obtain ⟨hstored, hcategorie⟩ := List.mem_filter.mp hrow
  exact ⟨base, hbase, (Tables.mem_cascade_categorie _ _ _).mpr
    ⟨row, hstored, by simpa using hcategorie, rfl⟩⟩

theorem Fondee.lues {marche : Marche} (hfondee : marche.Fondee lus depart) :
    Lues lus marche.memoire :=
  ⟨hfondee.bouts, hfondee.reservations⟩

theorem fondee_debut {base : Base} (hligne : ligne ∈ base.lignes) :
    (debut base.toTables ligne).Fondee [base] ligne where
  bouts := (lues_trouve base ligne).1
  reservations := (lues_trouve base ligne).2
  vus := fun _ hmember => absurd hmember List.not_mem_nil
  pile := fun pas hpas => by
    rw [List.mem_singleton.mp hpas]
    exact .refl
  prete := fun other hother => by
    cases List.mem_singleton.mp hother
    exact prete_trouve hligne
  depart := Or.inr (List.mem_singleton_self _)
  suivies := fun _ hmember => absurd hmember List.not_mem_nil

/-! ### One step -/

variable {marche : Marche} {base : Base} {pile added : List Pas} {memoire : Memoire}

/-- A step that marks nothing: something is learned, and what is on top of the stack
makes place for other steps. -/
theorem Fondee.remplace (hfondee : marche.Fondee lus depart)
    (hlues : Lues (lus ++ [base]) memoire) (hgrandit : Grandit marche.memoire memoire)
    (hpile : ∀ pas ∈ pile, pas ∈ marche.pile)
    (hkept : ∀ ligne, .visiter ligne ∈ marche.pile → .visiter ligne ∈ pile ∨
      ligne ∈ marche.vus)
    (hadded : ∀ pas ∈ added, ReflTransGen (Lien (lus ++ [base])) depart pas.ligne)
    (hprete : ∀ ligne, .visiter ligne ∈ added → Prete memoire ligne) :
    Marche.Fondee (lus ++ [base]) depart ⟨memoire, marche.vus, added ++ pile⟩ := by
  have hatteint : ∀ {ligne}, marche.Atteint ligne →
      Marche.Atteint ⟨memoire, marche.vus, added ++ pile⟩ ligne := by
    rintro ligne (hmember | hpending)
    · exact Or.inl hmember
    · exact (hkept ligne hpending).symm.imp id fun hmember => List.mem_append_right added hmember
  constructor
  · exact hlues.1
  · exact hlues.2
  · exact fun ligne hmember => reach_append (hfondee.vus ligne hmember) [base]
  · intro pas hpas
    rcases List.mem_append.mp hpas with hnew | hold
    · exact hadded pas hnew
    · exact reach_append (hfondee.pile pas (hpile pas hold)) [base]
  · intro ligne hpending
    rcases List.mem_append.mp hpending with hnew | hold
    · exact hprete ligne hnew
    · exact (hfondee.prete ligne (hpile _ hold)).grandit hgrandit
  · exact hatteint hfondee.depart
  · intro number hmember bout
    obtain ⟨id, hlue, hreached⟩ := hfondee.suivies number hmember bout
    exact ⟨id, hlue.append [base], hatteint hreached⟩

/-- A visit that finds its entity unmarked. -/
theorem Fondee.marque (hfondee : marche.Fondee lus depart)
    (hpile : marche.pile = .visiter ligne :: pile) :
    Marche.Fondee lus depart
      ⟨marche.memoire, ligne :: marche.vus, marche.memoire.etapes ligne ++ pile⟩ := by
  have htop : Pas.visiter ligne ∈ marche.pile := hpile ▸ List.mem_cons_self
  have hreached := hfondee.pile _ htop
  have hrest : ∀ {pas}, pas ∈ pile → pas ∈ marche.pile :=
    fun hpas => hpile ▸ List.mem_cons_of_mem _ hpas
  have hatteint : ∀ {other}, marche.Atteint other → Marche.Atteint
      ⟨marche.memoire, ligne :: marche.vus, marche.memoire.etapes ligne ++ pile⟩ other := by
    rintro other (hmember | hpending)
    · exact Or.inl (List.mem_cons_of_mem _ hmember)
    · rw [hpile] at hpending
      rcases List.mem_cons.mp hpending with heq | hlater
      · cases heq
        exact Or.inl List.mem_cons_self
      · exact Or.inr (List.mem_append_right _ hlater)
  have hetapes := hfondee.lues.etapes hreached
  constructor
  · exact hfondee.bouts
  · exact hfondee.reservations
  · intro other hmember
    rcases List.mem_cons.mp hmember with rfl | hold
    · exact hreached
    · exact hfondee.vus other hold
  · intro pas hpas
    rcases List.mem_append.mp hpas with hnew | hold
    · exact (hetapes pas hnew).1
    · exact hfondee.pile pas (hrest hold)
  · intro other hpending
    rcases List.mem_append.mp hpending with hnew | hold
    · exact (hetapes _ hnew).2 other rfl
    · exact hfondee.prete other (hrest hold)
  · exact hatteint hfondee.depart
  · intro number hmember bout
    rcases List.mem_cons.mp hmember with rfl | hold
    · obtain ⟨row, hrow⟩ := Option.isSome_iff_exists.mp (hfondee.prete _ htop number rfl)
      refine ⟨bout.de row, hfondee.reservations number row hrow bout, Or.inr ?_⟩
      apply List.mem_append_left
      rw [Memoire.etapes, hrow]
      cases bout <;> simp [Bout.ligne, Bout.de]
    · obtain ⟨id, hlue, hbefore⟩ := hfondee.suivies number hold bout
      exact ⟨id, hlue, hatteint hbefore⟩

theorem Fondee.append (hfondee : marche.Fondee lus depart) (base : Base) :
    marche.Fondee (lus ++ [base]) depart :=
  @Fondee.remplace lus depart marche base marche.pile [] marche.memoire hfondee
    (hfondee.lues.append [base]) (fun _ hknown => hknown) (fun _ hpas => hpas)
    (fun _ hpending => Or.inl hpending) (fun _ hpas => absurd hpas List.not_mem_nil)
    fun _ hpas => absurd hpas List.not_mem_nil

/-- The step lemma, whatever the database has become. -/
theorem Fondee.avancer (hfondee : marche.Fondee lus depart) {suivante : Marche}
    (havancer : marche.avancer base.toTables = some suivante) :
    suivante.Fondee (lus ++ [base]) depart := by
  have hbase : base ∈ lus ++ [base] := List.mem_append_right _ (List.mem_singleton_self _)
  have hlues := hfondee.lues.append [base]
  have hsame : Grandit marche.memoire marche.memoire := fun _ hknown => hknown
  have hpath : ∀ {pas}, pas ∈ marche.pile →
      ReflTransGen (Lien (lus ++ [base])) depart pas.ligne :=
    fun hpas => reach_append (hfondee.pile _ hpas) [base]
  rw [Marche.avancer] at havancer
  cases hpile : marche.pile with
  | nil =>
      simp only [hpile] at havancer
      cases havancer
      exact hfondee.append base
  | cons pas pile =>
      have htop : pas ∈ marche.pile := hpile ▸ List.mem_cons_self
      have hrest : ∀ other ∈ pile, other ∈ marche.pile :=
        fun other hother => hpile ▸ List.mem_cons_of_mem _ hother
      have hkept : (∀ other, pas ≠ .visiter other) → ∀ other,
          .visiter other ∈ marche.pile → .visiter other ∈ pile ∨ other ∈ marche.vus := by
        intro hnot other hpending
        rw [hpile] at hpending
        exact Or.inl ((List.mem_cons.mp hpending).resolve_left fun heq => hnot other heq.symm)
      cases pas with
      | visiter ligne =>
          simp only [hpile] at havancer
          split at havancer
          · rename_i hmember
            cases havancer
            refine @Fondee.remplace lus depart marche base pile [] marche.memoire hfondee hlues
              hsame hrest (fun other hpending => ?_)
              (fun _ hpas => absurd hpas List.not_mem_nil)
              fun _ hpas => absurd hpas List.not_mem_nil
            rw [hpile] at hpending
            rcases List.mem_cons.mp hpending with heq | hlater
            · cases heq
              exact Or.inr hmember
            · exact Or.inl hlater
          · cases havancer
            exact (hfondee.marque hpile).append base
      | charger bout id =>
          simp only [hpile] at havancer
          split at havancer
          · cases havancer
            exact @Fondee.remplace lus depart marche base pile [] _ hfondee
              (hlues.charge hbase bout id) (fun _ => Memoire.isSome_charge) hrest
              (hkept fun _ heq => nomatch heq) (fun _ hpas => absurd hpas List.not_mem_nil)
              fun _ hpas => absurd hpas List.not_mem_nil
          · cases havancer
      | emprunts bout id =>
          simp only [hpile] at havancer
          cases havancer
          refine hfondee.remplace hlues hsame hrest (hkept fun _ heq => nomatch heq) ?_ ?_
          · intro pas hpas
            obtain ⟨ligne, hligne, rfl⟩ := List.mem_map.mp hpas
            exact (hpath htop).tail (hlues.associee hbase hligne).1
          · intro ligne hpending
            obtain ⟨other, hother, heq⟩ := List.mem_map.mp hpending
            cases heq
            exact (hlues.associee hbase hother).2
      | livres categorie =>
          simp only [hpile] at havancer
          cases havancer
          refine hfondee.remplace (lues_foldl hbase _ hlues) (grandit_foldl _ _) hrest
            (hkept fun _ heq => nomatch heq) ?_ ?_
          · intro pas hpas
            obtain ⟨livre, hlivre, rfl⟩ := List.mem_map.mp hpas
            obtain ⟨row, hrow, rfl⟩ := List.mem_map.mp hlivre
            exact (hpath htop).tail (lien_livre hbase hrow)
          · intro ligne hpending number heq
            obtain ⟨livre, -, heq'⟩ := List.mem_map.mp hpending
            cases heq'
            cases heq

/-! ### What a walk is told from -/

/-- The walk of a removal whose steps met these states, the first one at its `find`. -/
def rejouee (ligne : Ligne) : List Base → Option Marche
  | [] => none
  | base :: lus =>
      if ligne ∈ base.lignes then
        lus.foldlM (fun marche lu => marche.avancer lu.toTables) (debut base.toTables ligne)
      else none

theorem rejouee_singleton {base : Base} (hligne : ligne ∈ base.lignes) :
    rejouee ligne [base] = some (debut base.toTables ligne) := if_pos hligne

theorem rejouee_append {marche : Marche} (hrejouee : rejouee ligne lus = some marche)
    (base : Base) : rejouee ligne (lus ++ [base]) = marche.avancer base.toTables := by
  cases lus with
  | nil => cases hrejouee
  | cons first rest =>
      rw [rejouee] at hrejouee
      split at hrejouee
      · rename_i hligne
        rw [List.cons_append, rejouee, if_pos hligne, List.foldlM_append, hrejouee]
        simp
      · cases hrejouee

theorem mem_lignes_of_rejouee {marche : Marche} (hrejouee : rejouee ligne lus = some marche) :
    ∃ lu ∈ lus, ligne ∈ lu.lignes := by
  cases lus with
  | nil => cases hrejouee
  | cons first rest =>
      rw [rejouee] at hrejouee
      split at hrejouee
      · rename_i hligne
        exact ⟨first, List.mem_cons_self, hligne⟩
      · cases hrejouee

/-- The run lemma. -/
theorem fondee_rejouee : ∀ {lus : List Base} {marche : Marche},
    rejouee ligne lus = some marche → marche.Fondee lus ligne := by
  intro lus
  induction lus using List.reverseRecOn with
  | nil => exact fun hrejouee => nomatch hrejouee
  | append_singleton lus base ih =>
      intro marche hrejouee
      cases hbefore : rejouee ligne lus with
      | some earlier =>
          rw [rejouee_append hbefore] at hrejouee
          exact (ih hbefore).avancer hrejouee
      | none =>
          cases lus with
          | nil =>
              rw [List.nil_append, rejouee] at hrejouee
              split at hrejouee
              · rename_i hligne
                cases hrejouee
                exact fondee_debut hligne
              · cases hrejouee
          | cons first rest =>
              rw [rejouee] at hbefore
              rw [List.cons_append, rejouee] at hrejouee
              split at hrejouee
              · rename_i hligne
                rw [if_pos hligne] at hbefore
                rw [List.foldlM_append, hbefore] at hrejouee
                cases hrejouee
              · cases hrejouee

/-! ### What was scheduled was stored -/

theorem mem_lignes_of_mem_cascade {tables : Tables} (hvalid : tables.Valid)
    {source target : Ligne} (htarget : target ∈ tables.cascade source) :
    target ∈ tables.lignes := by
  by_cases hreservation : ∃ number, source = .reservations number
  · obtain ⟨number, rfl⟩ := hreservation
    have hreference := (Tables.mem_cascade_reservations tables number target).mp htarget
    obtain ⟨row, hrow, -⟩ := List.mem_flatMap.mp hreference
    have hstored := Table.mem_ids_of_find (Option.mem_toList.mp hrow)
    exact hvalid.target_mem ⟨(Tables.mem_lignes_reservations _ _).mpr hstored, hreference⟩
  · exact (Tables.references_of_mem_cascade hvalid
      (fun number heq => hreservation ⟨number, heq⟩) htarget).1

theorem Fondee.exists_lu (hfondee : marche.Fondee lus depart)
    (hdepart : ∃ lu ∈ lus, depart ∈ lu.lignes) (hmember : ligne ∈ marche.vus) :
    ∃ lu ∈ lus, ligne ∈ lu.lignes := by
  rcases ReflTransGen.cases_tail (hfondee.vus ligne hmember) with heq | ⟨source, -, hlien⟩
  · rwa [heq]
  · obtain ⟨lu, hlu, hcascade⟩ := hlien
    exact ⟨lu, hlu, mem_lignes_of_mem_cascade lu.valid hcascade⟩

theorem Fondee.isEntity (hfondee : marche.Fondee lus depart) (hdepart : depart.isEntity = true)
    (hmember : ligne ∈ marche.vus) : ligne.isEntity = true := by
  rcases ReflTransGen.cases_tail (hfondee.vus ligne hmember) with heq | ⟨source, -, hlien⟩
  · rwa [heq]
  · obtain ⟨lu, -, hcascade⟩ := hlien
    obtain ⟨champ, -, hrelated⟩ := List.mem_flatMap.mp hcascade
    exact Tables.isEntity_of_mem_related hrelated

end Stale

end Marche

end Bibliotheque
