import Bibliotheque.Api.Refinement
import Bibliotheque.Store.Walk

/-!
# What creations and deletions leave of a read

Between the reads of a request and its flush other requests create and delete
rows.  Numbers are never given out twice, so a row that is still there is the row
that was read, and a reservation only leaves together with its book and its user.
A removal whose walk met older states therefore removes, if the server accepts it at
all, exactly the rows that the same removal reaches now.
-/

namespace Bibliotheque

open Relation

namespace Base

/-- Both ends of a cascade are stored. -/
theorem filed_of_suit {base : Base} {source target : Ressource × ℕ}
    (hsuit : base.fonds.Suit source target) :
    (base.fonds.file source.1 source.2).isSome ∧
      (base.fonds.file target.1 target.2).isSome := by
  have hvalid := base.valid
  have hrow : ∀ {Row : Type} {table : Table Row} {id : ℕ} {row : Row},
      table.find id = some row → (id, row) ∈ table.rows :=
    fun hfind => (Table.find_eq_some_iff _ _ _).mp hfind
  cases hsuit with
  | emprunt_livre hfind =>
      exact ⟨(base.filed_iff .livre _).mpr (hvalid.emprunt_livre _ (hrow hfind)),
        Option.isSome_of_eq_some hfind⟩
  | emprunt_emprunteur hfind =>
      exact ⟨(base.filed_iff .adherent _).mpr (hvalid.emprunt_emprunteur _ (hrow hfind)),
        Option.isSome_of_eq_some hfind⟩
  | reservation_livre hfind =>
      exact ⟨(base.filed_iff .livre _).mpr (hvalid.reservations_livre _ (hrow hfind)),
        Option.isSome_of_eq_some hfind⟩
  | reservation_reservateur hfind =>
      exact ⟨(base.filed_iff .adherent _).mpr
        (hvalid.reservations_reservateur _ (hrow hfind)), Option.isSome_of_eq_some hfind⟩
  | livre_categorie hfind =>
      exact ⟨(base.filed_iff .categorie _).mpr (hvalid.livre_categorie _ (hrow hfind)),
        Option.isSome_of_eq_some hfind⟩
  | livre_reserve hfind =>
      exact ⟨Option.isSome_of_eq_some hfind,
        (base.filed_iff .livre _).mpr (hvalid.reservations_livre _ (hrow hfind))⟩
  | reservateur hfind =>
      exact ⟨Option.isSome_of_eq_some hfind,
        (base.filed_iff .adherent _).mpr (hvalid.reservations_reservateur _ (hrow hfind))⟩

/-- `apres` came about from `avant` by creations and deletions. -/
structure Devient (avant apres : Base) : Prop where
  issued : ∀ {ressource id}, id ∈ avant.fonds.issued ressource →
    id ∈ apres.fonds.issued ressource
  file : ∀ {ressource id contenu}, id ∈ avant.fonds.issued ressource →
    apres.fonds.file ressource id = some contenu →
      avant.fonds.file ressource id = some contenu
  reservation : ∀ {id reservation}, avant.fonds.file .reservations id = some reservation →
    apres.fonds.file .reservations id = none →
      apres.fonds.file .livre reservation.livre = none ∧
        apres.fonds.file .adherent reservation.reservateur = none

namespace Devient

variable {avant milieu apres : Base} {ressource other : Ressource} {id number : ℕ}

theorem refl (base : Base) : base.Devient base where
  issued := fun hissued => hissued
  file := fun _ hfile => hfile
  reservation := fun hbefore hafter => by
    rw [hbefore] at hafter
    cases hafter

theorem file_eq_none (hdevient : avant.Devient apres)
    (hissued : id ∈ avant.fonds.issued ressource)
    (hnone : avant.fonds.file ressource id = none) :
    apres.fonds.file ressource id = none := by
  cases hfile : apres.fonds.file ressource id with
  | none => rfl
  | some contenu =>
      rw [hdevient.file hissued hfile] at hnone
      cases hnone

theorem trans (hfirst : avant.Devient milieu) (hsecond : milieu.Devient apres) :
    avant.Devient apres where
  issued := fun hissued => hsecond.issued (hfirst.issued hissued)
  file := fun hissued hfile =>
    hfirst.file hissued (hsecond.file (hfirst.issued hissued) hfile)
  reservation := by
    intro id reservation hbefore hafter
    have hissued := avant.fonds.issued_of_filed .reservations id
      (Option.isSome_of_eq_some hbefore)
    cases hmiddle : milieu.fonds.file .reservations id with
    | none =>
        -- the book and the user left together with the reservation
        obtain ⟨hlivre, hreservateur⟩ := hfirst.reservation hbefore hmiddle
        have hstored : ∀ {target : Ressource × ℕ},
            avant.fonds.Suit (.reservations, id) target →
              target.2 ∈ milieu.fonds.issued target.1 := fun hsuit =>
          hfirst.issued (avant.fonds.issued_of_filed _ _ (filed_of_suit hsuit).2)
        exact ⟨hsecond.file_eq_none (hstored (.livre_reserve hbefore)) hlivre,
          hsecond.file_eq_none (hstored (.reservateur hbefore)) hreservateur⟩
    | some found =>
        cases hbefore.symm.trans (hfirst.file hissued hmiddle)
        exact hsecond.reservation hmiddle hafter

instance : IsPreorder Base Devient where
  refl := refl
  trans := fun _ _ _ => trans

/-- A row that is still there has kept what it was. -/
theorem file_eq (hdevient : avant.Devient apres)
    (hissued : id ∈ avant.fonds.issued ressource)
    (hfiled : (apres.fonds.file ressource id).isSome) :
    apres.fonds.file ressource id = avant.fonds.file ressource id := by
  obtain ⟨contenu, hcontenu⟩ := Option.isSome_iff_exists.mp hfiled
  rw [hcontenu, hdevient.file hissued hcontenu]

/-- A cascade to a row that is still there is still there itself. -/
theorem suit (hdevient : avant.Devient apres) {source target : Ressource × ℕ}
    (hsuit : avant.fonds.Suit source target)
    (hfiled : (apres.fonds.file target.1 target.2).isSome) :
    apres.fonds.Suit source target := by
  have hissued := avant.fonds.issued_of_filed _ _ (filed_of_suit hsuit).2
  have hkept : ∀ {number reservation},
      avant.fonds.file .reservations number = some reservation →
        (apres.fonds.file .livre reservation.livre).isSome ∨
          (apres.fonds.file .adherent reservation.reservateur).isSome →
            apres.fonds.file .reservations number = some reservation := by
    intro number reservation hbefore hend
    cases hafter : apres.fonds.file .reservations number with
    | none =>
        obtain ⟨hlivre, hreservateur⟩ := hdevient.reservation hbefore hafter
        simp [hlivre, hreservateur] at hend
    | some found =>
        have hnumber := avant.fonds.issued_of_filed .reservations number
          (Option.isSome_of_eq_some hbefore)
        rw [← hbefore, hdevient.file hnumber hafter]
  cases hsuit with
  | emprunt_livre hfind => exact .emprunt_livre ((hdevient.file_eq hissued hfiled).trans hfind)
  | emprunt_emprunteur hfind =>
      exact .emprunt_emprunteur ((hdevient.file_eq hissued hfiled).trans hfind)
  | reservation_livre hfind =>
      exact .reservation_livre ((hdevient.file_eq hissued hfiled).trans hfind)
  | reservation_reservateur hfind =>
      exact .reservation_reservateur ((hdevient.file_eq hissued hfiled).trans hfind)
  | livre_categorie hfind =>
      exact .livre_categorie ((hdevient.file_eq hissued hfiled).trans hfind)
  | livre_reserve hfind => exact .livre_reserve (hkept hfind (Or.inl hfiled))
  | reservateur hfind => exact .reservateur (hkept hfind (Or.inr hfiled))

end Devient

/-! ## A removal whose walk met older states -/

section Removal

variable {lus : List Base} {apres : Base} {marche : Marche} {ressource : Ressource} {id : ℕ}
variable (hfondee : marche.Fondee lus (ressource.ligne id))
variable (hlus : ∀ lu ∈ lus, lu.Devient apres)

include hfondee hlus in
/-- What an old walk marked and is still there is reached by the removal of today,
and so the removed row is there too. -/
theorem mem_emporte_of_fondee {other : Ressource} {number : ℕ}
    (hmember : other.ligne number ∈ marche.vus)
    (hfiled : (apres.fonds.file other number).isSome) :
    (apres.fonds.file ressource id).isSome ∧
      number ∈ apres.fonds.emporte ressource id other := by
  have hpath : ∀ {ligne}, ReflTransGen (Marche.Lien lus) (ressource.ligne id) ligne →
      ∃ (other : Ressource) (number : ℕ), ligne = other.ligne number ∧
        ((apres.fonds.file other number).isSome → (apres.fonds.file ressource id).isSome ∧
          ReflTransGen apres.fonds.Suit (ressource, id) (other, number)) := by
    intro ligne hpath
    induction hpath with
    | refl => exact ⟨ressource, id, rfl, fun hfiled => ⟨hfiled, .refl⟩⟩
    | tail _ hlien ih =>
        obtain ⟨middle, key, rfl, hbefore⟩ := ih
        obtain ⟨lu, hlu, hedge⟩ := hlien
        obtain ⟨next, number, rfl, hsuit⟩ := suit_of_mem_cascade hedge
        refine ⟨next, number, rfl, fun hfiled => ?_⟩
        have hnow := (hlus lu hlu).suit hsuit hfiled
        obtain ⟨hstored, hreached⟩ := hbefore (filed_of_suit hnow).1
        exact ⟨hstored, hreached.tail hnow⟩
  obtain ⟨next, key, heq, hreached⟩ := hpath (hfondee.vus _ hmember)
  obtain ⟨rfl, rfl⟩ := Ressource.ligne_injective heq
  exact hreached hfiled

variable (hpile : marche.pile = [])

include hpile in
theorem mem_vus_of_atteint {ligne : Ligne} (hatteint : marche.Atteint ligne) :
    ligne ∈ marche.vus :=
  hatteint.resolve_right fun hpending => by
    rw [hpile] at hpending
    exact List.not_mem_nil hpending

include hfondee hlus hpile in
/-- The server accepts an old walk only if it marked whatever now references the
marked rows. -/
theorem mem_vus_of_suit (hvalid : (apres.without marche.vus).Valid)
    {source target : Ressource × ℕ} (hsuit : apres.fonds.Suit source target)
    (hsource : source.1.ligne source.2 ∈ marche.vus) :
    target.1.ligne target.2 ∈ marche.vus := by
  have hedge := mem_cascade_of_suit hsuit
  by_cases hreservation : ∃ number, source = (.reservations, number)
  · -- the reservation was read with the same book and the same user
    obtain ⟨number, rfl⟩ := hreservation
    obtain ⟨row, hrow⟩ := Option.isSome_iff_exists.mp (filed_of_suit hsuit).1
    have hside : ∀ bout : Bout, bout.ligne (bout.de row) ∈ marche.vus := by
      intro bout
      obtain ⟨side, ⟨lu, hlu, stored, hstored, rfl⟩, hatteint⟩ :=
        hfondee.suivies number hsource bout
      have hissued := lu.fonds.issued_of_filed .reservations number
        (Option.isSome_of_eq_some hstored)
      have hsame : some stored = some row :=
        hstored.symm.trans ((hlus lu hlu).file hissued hrow)
      cases hsame
      exact mem_vus_of_atteint hpile hatteint
    have htarget := hedge
    rw [show Ressource.ligne .reservations number = .reservations number from rfl,
      Bout.cascade_reservations hrow] at htarget
    simp only [List.mem_cons, List.not_mem_nil, or_false] at htarget
    rcases htarget with heq | heq
    · exact heq ▸ hside .livre
    · exact heq ▸ hside .reservateur
  · have hother : ∀ number, source.1.ligne source.2 ≠ .reservations number := by
      rintro number heq
      obtain ⟨hressource, hnumber⟩ :=
        @Ressource.ligne_injective source.1 .reservations _ _ heq
      exact hreservation ⟨number, Prod.ext hressource hnumber⟩
    -- a foreign key that would be left dangling
    obtain ⟨hmember, htargets⟩ := Tables.references_of_mem_cascade apres.valid hother hedge
    by_contra habsent
    have hleft : (apres.without marche.vus).References (target.1.ligne target.2)
        (source.1.ligne source.2) := by
      refine ⟨(Tables.mem_lignes_without _ _ _).mpr ⟨hmember, habsent, fun hlink => ?_⟩, ?_⟩
      · rw [target.1.isEntity_ligne] at hlink
        cases hlink
      · rwa [Tables.targets_without _ _ habsent]
    exact ((Tables.mem_lignes_without _ _ _).mp (hvalid.target_mem hleft)).2.1 hsource

include hfondee in
theorem isEntity_of_mem_vus : ∀ ligne ∈ marche.vus, ligne.isEntity = true :=
  fun _ => hfondee.isEntity (ressource.isEntity_ligne id)

include hfondee hlus hpile in
/-- An accepted old walk removes what the same removal removes today. -/
theorem without_vus_eq (hvalid : (apres.without marche.vus).Valid) {now : List Ligne}
    (hnow : apres.doRemove (ressource.ligne id) = some now) :
    apres.without marche.vus = apres.without now := by
  have hentities : ∀ ligne ∈ now, ligne.isEntity = true := fun _ hligne =>
    Tables.isEntity_of_mem_removed hnow (ressource.isEntity_ligne id) hligne
  refine Tables.without_congr apres.valid (isEntity_of_mem_vus hfondee) hentities ?_
  intro ligne hligne
  constructor
  · intro hmember
    obtain ⟨other, number, rfl⟩ :=
      Ressource.exists_ligne_of_isEntity (isEntity_of_mem_vus hfondee _ hmember)
    have hfiled := (apres.filed_iff other number).mpr
      ((Ressource.mem_lignes_ligne _ _ _).mp hligne)
    exact (mem_removed_iff hnow other number).mpr
      (mem_emporte_of_fondee hfondee hlus hmember hfiled).2
  · intro hmember
    obtain ⟨other, number, rfl⟩ :=
      Ressource.exists_ligne_of_isEntity (hentities _ hmember)
    have hpath : ∀ {target : Ressource × ℕ},
        ReflTransGen apres.fonds.Suit (ressource, id) target →
          target.1.ligne target.2 ∈ marche.vus := by
      intro target hpath
      induction hpath with
      | refl => exact mem_vus_of_atteint hpile hfondee.depart
      | tail _ hsuit ih => exact mem_vus_of_suit hfondee hlus hpile hvalid hsuit ih
    exact hpath ((mem_removed_iff hnow other number).mp hmember)

include hfondee hlus in
/-- If the row has left meanwhile, nothing that was marked is still there. -/
theorem without_vus_eq_self (hgone : ressource.ligne id ∉ apres.lignes) :
    apres.without marche.vus = apres.toTables := by
  calc
    apres.without marche.vus = apres.without [] := by
      refine Tables.without_congr apres.valid (isEntity_of_mem_vus hfondee) (by simp)
        fun ligne hligne => ?_
      simp only [List.not_mem_nil, iff_false]
      intro hmember
      obtain ⟨other, number, rfl⟩ :=
        Ressource.exists_ligne_of_isEntity (isEntity_of_mem_vus hfondee _ hmember)
      have hfiled := (apres.filed_iff other number).mpr
        ((Ressource.mem_lignes_ligne _ _ _).mp hligne)
      have hself := (mem_emporte_of_fondee hfondee hlus hmember hfiled).1
      exact hgone ((Ressource.mem_lignes_ligne _ _ _).mpr ((apres.filed_iff _ _).mp hself))
    _ = apres.toTables := Tables.without_nil apres.toTables

end Removal

end Base

/-! ## Requests that only create or delete -/

/-- A new file leaves the others alone. -/
theorem Base.devient_add {base final : Base} {ressource : Ressource} {id : ℕ}
    {contenu : ressource.Contenu} {links : Set (ℕ × ℕ)}
    (hstep : Archive.Step base.fonds (.add ressource id contenu links) final.fonds) :
    base.Devient final := by
  have hfile : ∀ {other number}, number ∈ base.fonds.issued other →
      final.fonds.file other number = base.fonds.file other number := by
    intro other number hissued
    rw [hstep.file_of_issued hissued]
    simp [Archive.Entry.Removes, Archive.Entry.rewriting]
  refine ⟨hstep.issued_mono, fun hissued hfound => (hfile hissued).symm.trans hfound, ?_⟩
  intro number reservation hbefore hafter
  rw [hfile (base.fonds.issued_of_filed _ _ (Option.isSome_of_eq_some hbefore)),
    hbefore] at hafter
  cases hafter

/-- A removal takes the book and the user of a reservation along. -/
theorem Base.devient_remove {base final : Base} {ressource : Ressource} {id : ℕ}
    (hstep : Archive.Step base.fonds (.remove (base.fonds.emporte ressource id))
      final.fonds) : base.Devient final := by
  have hgone : ∀ {other number}, number ∈ base.fonds.emporte ressource id other →
      final.fonds.file other number = none := by
    intro other number hmember
    rw [hstep.file]
    exact if_pos hmember
  have hkept : ∀ {other number}, number ∉ base.fonds.emporte ressource id other →
      final.fonds.file other number = base.fonds.file other number := by
    intro other number hmember
    rw [hstep.file]
    exact if_neg hmember
  refine ⟨hstep.issued_mono, fun {other number contenu} _ hfound => ?_, ?_⟩
  · by_cases hmember : number ∈ base.fonds.emporte ressource id other
    · rw [hgone hmember] at hfound
      cases hfound
    · rwa [hkept hmember] at hfound
  · intro number reservation hbefore hafter
    have hmember : number ∈ base.fonds.emporte ressource id .reservations := by
      by_contra habsent
      rw [hkept habsent, hbefore] at hafter
      cases hafter
    exact ⟨hgone (ReflTransGen.tail hmember (.livre_reserve hbefore)),
      hgone (ReflTransGen.tail hmember (.reservateur hbefore))⟩

/-- Lost numbers leave all files alone. -/
theorem Base.devient_lost {base final : Base} (hlost : Archive.Lost base.fonds final.fonds) :
    base.Devient final where
  issued := fun {ressource _} hissued => hlost.issued ressource hissued
  file := fun _ hfile => by rwa [hlost.file] at hfile
  reservation := fun hbefore hafter => by
    rw [hlost.file, hbefore] at hafter
    cases hafter

/-- A request without update only adds and removes rows. -/
theorem Requete.devient_step {runtime : Runtime} {base : Base} {requete : Requete}
    (hmodifie : requete.modifie = none) : base.Devient (requete.step runtime base) := by
  by_cases hsuccess : (requete.executer runtime base).1.Success
  · obtain ⟨entry, hentry, hstep⟩ := inscrit_of_success requete hsuccess
    obtain ⟨ressource, contenu, links, rfl, -, -, -⟩ |
      ⟨ressource, id, data, links, rfl, -, hchange, -⟩ | ⟨ressource, id, rfl, -, -, -⟩ :=
      inscription_cases hentry
    · exact Base.devient_add hstep
    · rw [hmodifie] at hchange
      cases hchange
    · exact Base.devient_remove hstep
  · exact Base.devient_lost (lost_of_refused hsuccess)

end Bibliotheque
