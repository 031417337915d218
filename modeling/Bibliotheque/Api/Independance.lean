import Bibliotheque.Api.ConcurrentRuns
import Bibliotheque.Api.Plans

/-!
# Updates of different rows

Of the other rows an update only reads the numbers.  So clients that update different
books, categories, authors or loans do not notice each other: whatever the order of
their steps, each of them is answered as if it were alone, and its row ends as its
request alone leaves it.  The unique indexes of reservations and users look at all
rows.
-/

namespace Bibliotheque

open Program Bibliotheque.Action

namespace Base

/-- One row, and the authors of a book. -/
def part (base : Base) (ressource : Ressource) (id : ℕ) :
    Option ressource.Contenu × Set ℕ :=
  (base.fonds.file ressource id,
    {auteur | ressource = .livre ∧ (id, auteur) ∈ base.fonds.links})

/-- The same numbers are in use, and the row is the same. -/
structure Pareil (ressource : Ressource) (id : ℕ) (base other : Base) : Prop where
  numeros : base.MemeNumeros other
  part : other.part ressource id = base.part ressource id

section Pareil

variable {ressource : Ressource} {id : ℕ} {base other : Base}

theorem Pareil.refl (base : Base) : base.Pareil ressource id base := ⟨.refl base, rfl⟩

theorem Pareil.find (hsame : base.Pareil ressource id other) :
    (ressource.table other.toTables).find id = (ressource.table base.toTables).find id :=
  congrArg Prod.fst hsame.part

theorem Pareil.links (hsame : base.Pareil .livre id other) (auteur : ℕ) :
    (id, auteur) ∈ other.livreAuteur ↔ (id, auteur) ∈ base.livreAuteur := by
  have hmember := Set.ext_iff.mp (congrArg Prod.snd hsame.part) auteur
  simpa [Base.part, Base.fonds] using hmember

end Pareil

end Base

/-! ## One flush -/

namespace Ressource

variable {ressource : Ressource} {id : ℕ} {base lu charge current : Base}
variable {rewrite : ressource.Contenu → ressource.Contenu} {auteurs : List ℕ}
variable {old : ressource.Contenu} {liens more : List (ℕ × ℕ)}

theorem nodup_nouveaux (hauteurs : ressource ≠ .livre → auteurs = []) :
    (nouveaux lu charge ressource id auteurs).Nodup := by
  cases ressource with
  | livre =>
      have hadds := @LivreController.adds_liant_iff lu charge lu id .null (fun row => row) auteurs
      refine Session.nodup_newLinks _ 0 (LivreController.nodup_auteurs_addAuteurs
        (.managed id) _ _ charge.valid.nodup_liens_auteurs) ?_
      intro livre auteur livre' auteur' hfirst hsecond _ hnumber
      obtain ⟨rfl, number, -, rfl, -⟩ := (hadds livre auteur).mp hfirst
      obtain ⟨rfl, number', -, rfl, -⟩ := (hadds livre' auteur').mp hsecond
      exact ⟨rfl, congrArg Ref.managed hnumber⟩
  | _ =>
      rw [nouveaux_eq_nil (hauteurs (by decide))]
      exact List.nodup_nil

/-- Whatever others did to other rows, the same authors are linked. -/
theorem mem_nouveaux_iff_of_pareil (hauteurs : ressource ≠ .livre → auteurs = [])
    (hid : id ∈ (ressource.table base.toTables).ids) (hlu : base.Pareil ressource id lu)
    (hcharge : base.Pareil ressource id charge) (link : ℕ × ℕ) :
    link ∈ nouveaux lu charge ressource id auteurs ↔
      link ∈ nouveaux base base ressource id auteurs := by
  have hread : id ∈ (ressource.table lu.toTables).ids := hlu.numeros ressource ▸ hid
  rw [mem_nouveaux_iff hauteurs hread, mem_nouveaux_iff hauteurs hid]
  by_cases hlivre : ressource = .livre
  · subst hlivre
    obtain ⟨livre, auteur⟩ := link
    refine and_congr_right fun hfirst => and_congr_right fun _ => not_congr ?_
    subst hfirst
    exact hcharge.links auteur
  · simp [hauteurs hlivre]

/-- An update that one database accepts is accepted where the same numbers are in use
and the row is the same, unless a unique index looks at the other rows. -/
theorem valid_reecrite_of_valid (hreservations : ressource ≠ .reservations)
    (hadherent : ressource ≠ .adherent) (hnumeros : base.MemeNumeros current)
    (hold : (ressource.table base.toTables).find id = some old)
    (hcurrent : (ressource.table current.toTables).find id = some old)
    (hvalid : (ressource.reecrite base id rewrite liens).Valid)
    (hnone : ressource ≠ .livre → more = []) (hnodup : more.Nodup)
    (hmore : ∀ link ∈ more, link ∈ liens ∧ link ∉ current.livreAuteur) :
    (ressource.reecrite current id rewrite more).Valid := by
  have hnew : (id, rewrite old) ∈
      (ressource.table (ressource.reecrite base id rewrite liens)).rows := by
    rw [table_reecrite_self, ← Table.find_eq_some_iff, Table.find_modify_self, hold,
      Option.map_some]
  have hids : ∀ other : Ressource, (other.table (ressource.reecrite base id rewrite liens)).ids =
      (other.table current.toTables).ids := fun other =>
    (ids_reecrite other).trans (hnumeros other)
  have honly : ∀ {stored}, (ressource.table current.toTables).find id = some stored →
      stored = old := fun hstored => Option.some.inj (hstored.symm.trans hcurrent)
  cases ressource with
  | livre =>
      have hfits := hvalid.livre_fits _ hnew
      have hcategorie := hvalid.livre_categorie _ hnew
      refine current.valid.update_livre (fun stored hstored => ?_) hnodup fun link hlink => ?_
      · cases honly hstored
        exact ⟨hfits, hids .categorie ▸ hcategorie⟩
      · obtain ⟨hasked, habsent⟩ := hmore link hlink
        have hstored : link ∈ (Ressource.livre.reecrite base id rewrite liens).livreAuteur :=
          List.mem_append_right _ hasked
        exact ⟨hids .livre ▸ hvalid.livreAuteur_livre link hstored,
          hids .auteur ▸ hvalid.livreAuteur_auteur link hstored, habsent⟩
  | categorie =>
      cases hnone (by decide)
      rw [reecrite, List.append_nil]
      refine current.valid.update_categorie fun stored hstored => ?_
      cases honly hstored
      exact hvalid.categorie_fits _ hnew
  | auteur =>
      cases hnone (by decide)
      rw [reecrite, List.append_nil]
      refine current.valid.update_auteur fun stored hstored => ?_
      cases honly hstored
      exact hvalid.auteur_fits _ hnew
  | emprunt =>
      cases hnone (by decide)
      have hemprunteur := hvalid.emprunt_emprunteur _ hnew
      have hlivre := hvalid.emprunt_livre _ hnew
      have hrow : current.emprunt.modify id rewrite =
          current.emprunt.modify id fun _ => rewrite old :=
        Table.modify_congr fun stored hstored => congrArg rewrite (honly hstored)
      rw [reecrite, List.append_nil]
      change Tables.Valid { current.toTables with emprunt := current.emprunt.modify id rewrite }
      rw [hrow]
      exact current.valid.update_emprunt (hvalid.emprunt_fits _ hnew)
        (hids .adherent ▸ hemprunteur) (hids .livre ▸ hlivre)
  | reservations => exact absurd rfl hreservations
  | adherent => exact absurd rfl hadherent

/-- New links are links of the row, and they are missing wherever the row is the same. -/
theorem absent_of_mem_nouveaux (hauteurs : ressource ≠ .livre → auteurs = [])
    (hid : id ∈ (ressource.table base.toTables).ids)
    (hcurrent : base.Pareil ressource id current) {link : ℕ × ℕ}
    (hlink : link ∈ nouveaux base base ressource id auteurs) :
    ressource = .livre ∧ link.1 = id ∧ link ∉ current.livreAuteur := by
  have hlivre : ressource = .livre := by
    by_contra hother
    rw [nouveaux_eq_nil (hauteurs hother)] at hlink
    exact absurd hlink List.not_mem_nil
  obtain ⟨hfirst, -, habsent⟩ := (mem_nouveaux_iff hauteurs hid link).mp hlink
  subst hlivre hfirst
  exact ⟨rfl, rfl, mt (hcurrent.links link.2).mp habsent⟩

theorem valid_reecrite_iff (hreservations : ressource ≠ .reservations)
    (hadherent : ressource ≠ .adherent) (hauteurs : ressource ≠ .livre → auteurs = [])
    (hid : id ∈ (ressource.table base.toTables).ids) (hlu : base.Pareil ressource id lu)
    (hcharge : base.Pareil ressource id charge) (hcurrent : base.Pareil ressource id current) :
    (ressource.reecrite current id rewrite
        (nouveaux lu charge ressource id auteurs)).Valid ↔
      (ressource.reecrite base id rewrite
        (nouveaux base base ressource id auteurs)).Valid := by
  obtain ⟨old, hold⟩ := Table.exists_find_of_mem_ids hid
  have hfound : (ressource.table current.toTables).find id = some old :=
    hcurrent.find.trans hold
  have hmember := fun link => @mem_nouveaux_iff_of_pareil ressource id base lu charge auteurs
    hauteurs hid hlu hcharge link
  have hnone : ∀ lu charge : Base, ressource ≠ .livre →
      nouveaux lu charge ressource id auteurs = [] :=
    fun _ _ hother => nouveaux_eq_nil (hauteurs hother)
  constructor
  · intro hvalid
    refine valid_reecrite_of_valid hreservations hadherent hcurrent.numeros.symm hfound hold
      hvalid (hnone base base) (nodup_nouveaux hauteurs) fun link hlink => ?_
    have habsent := absent_of_mem_nouveaux hauteurs hid (.refl base) hlink
    exact ⟨(hmember link).mpr hlink, habsent.2.2⟩
  · intro hvalid
    refine valid_reecrite_of_valid hreservations hadherent hcurrent.numeros hold hfound
      hvalid (hnone lu charge) (nodup_nouveaux hauteurs) fun link hlink => ?_
    have hasked := (hmember link).mp hlink
    exact ⟨hasked, (absent_of_mem_nouveaux hauteurs hid hcurrent hasked).2.2⟩

/-! ### What it leaves -/

variable {final : Base}

theorem part_reecrite_self (hfinal : final.toTables = ressource.reecrite current id rewrite liens) :
    final.part ressource id = (((ressource.table current.toTables).find id).map rewrite,
      {auteur | ressource = .livre ∧
        ((id, auteur) ∈ current.livreAuteur ∨ (id, auteur) ∈ liens)}) := by
  have hfile : final.fonds.file ressource id =
      ((ressource.table current.toTables).find id).map rewrite := by
    rw [Base.file_fonds, hfinal, table_reecrite_self, Table.find_modify_self]
  have hlinks : final.livreAuteur = current.livreAuteur ++ liens := by
    rw [hfinal]
    rfl
  apply Prod.ext hfile
  ext auteur
  change ressource = .livre ∧ (id, auteur) ∈ final.livreAuteur ↔ _
  rw [hlinks, List.mem_append]
  rfl

theorem part_reecrite_of_ne
    (hfinal : final.toTables = ressource.reecrite current id rewrite liens)
    (hliens : ∀ link ∈ liens, ressource = .livre ∧ link.1 = id)
    {other : Ressource} {number : ℕ} (hother : other = ressource → number ≠ id) :
    final.part other number = current.part other number := by
  have hfile : final.fonds.file other number = current.fonds.file other number := by
    rw [Base.file_fonds, Base.file_fonds, hfinal]
    by_cases hressource : other = ressource
    · subst hressource
      rw [table_reecrite_self, Table.find_modify_of_ne _ _ (hother rfl)]
    · rw [table_reecrite_of_ne hressource]
  have hlinks : final.livreAuteur = current.livreAuteur ++ liens := by
    rw [hfinal]
    rfl
  apply Prod.ext hfile
  ext auteur
  change other = .livre ∧ (number, auteur) ∈ final.livreAuteur ↔
    other = .livre ∧ (number, auteur) ∈ current.livreAuteur
  rw [hlinks, List.mem_append]
  refine and_congr_right fun hlivre => or_iff_left fun hnew => ?_
  obtain ⟨hressource, hnumber⟩ := hliens _ hnew
  exact hother (hlivre.trans hressource.symm) hnumber

end Ressource

/-! ## One step of an update -/

/-- What a step on the row of an update leaves alone. -/
structure Base.Ailleurs (ressource : Ressource) (id : ℕ) (base final : Base) : Prop where
  numeros : base.MemeNumeros final
  part : ∀ other number, (other = ressource → number ≠ id) →
    final.part other number = base.part other number

theorem Base.Ailleurs.refl (ressource : Ressource) (id : ℕ) (base : Base) :
    base.Ailleurs ressource id base := ⟨.refl base, fun _ _ _ => rfl⟩

section Step

variable {ressource : Ressource} {id : ℕ} {base lu charge current : Base}
variable {data : Value} {relu rewrite : ressource.Contenu → ressource.Contenu}
variable {auteurs : List ℕ} {response : Response}

/-- The flush does to its row what the request alone does, and nothing else. -/
theorem Plan.avancer_ecriture (hreservations : ressource ≠ .reservations)
    (hadherent : ressource ≠ .adherent)
    (hcorrect : (Plan.ecriture rewrite auteurs response).Correct base id)
    (hlu : base.Pareil ressource id lu) (hcharge : base.Pareil ressource id charge)
    (hrelu : ∀ row, (ressource.table lu.toTables).find id = some row → relu row = row)
    (hcurrent : base.Pareil ressource id current) :
    ∃ final, (Tache.ecriture (ressource.reecriture lu charge id data relu rewrite auteurs)
        fun _ => response).avancer current =
          (.terminee ((Plan.ecriture rewrite auteurs response).executer base id).1, final) ∧
      current.Ailleurs ressource id final ∧ final.part ressource id =
        ((Plan.ecriture rewrite auteurs response).executer base id).2.part ressource id := by
  obtain ⟨-, hauteurs, hid⟩ := hcorrect
  obtain ⟨old, hold⟩ := Table.exists_find_of_mem_ids hid
  have hread : (ressource.table lu.toTables).find id = some old := hlu.find.trans hold
  have hfound : (ressource.table current.toTables).find id = some old :=
    hcurrent.find.trans hold
  have hseule := @Tache.seule_reecriture ressource id data lu charge current old relu rewrite
    auteurs response hread (hrelu old hread) hfound
  have hmember := fun link => @Ressource.mem_nouveaux_iff_of_pareil ressource id base lu charge
    auteurs hauteurs hid hlu hcharge link
  have hvalid_iff := @Ressource.valid_reecrite_iff ressource id base lu charge current
    (ressource.store ∘ rewrite) auteurs hreservations hadherent hauteurs hid hlu hcharge hcurrent
  rw [Tache.avancer_ecriture, hseule, Plan.executer]
  by_cases hvalid : (ressource.reecrite base id (ressource.store ∘ rewrite)
      (Ressource.nouveaux base base ressource id auteurs)).Valid
  · have hthere := hvalid_iff.mpr hvalid
    simp only [dif_pos hvalid, dif_pos hthere]
    refine ⟨⟨_, hthere⟩, rfl, ⟨Ressource.memeNumeros_reecrite hthere, ?_⟩, ?_⟩
    · intro other number hother
      refine Ressource.part_reecrite_of_ne rfl (fun link hlink => ?_) hother
      have hasked := (hmember link).mp hlink
      have hlink := Ressource.absent_of_mem_nouveaux hauteurs hid hcurrent hasked
      exact ⟨hlink.1, hlink.2.1⟩
    · rw [Ressource.part_reecrite_self rfl, Ressource.part_reecrite_self rfl, hfound, hold]
      refine congrArg (Prod.mk _) (Set.ext fun auteur => ?_)
      refine and_congr_right fun hlivre => or_congr ?_ (hmember (id, auteur))
      subst hlivre
      exact hcurrent.links auteur
  · simp only [dif_neg hvalid, dif_neg (mt hvalid_iff.mp hvalid)]
    exact ⟨current, rfl, .refl ressource id current, hcurrent.part⟩

/-- The request is under way and its row as it was, or it has ended like the request
alone and its row is as that leaves it. -/
def Tache.CommeSeule (runtime : Runtime) (base : Base) (ressource : Ressource) (id : ℕ)
    (data : Value) (current : Base) (tache : Tache) : Prop :=
  (current.part ressource id = base.part ressource id ∧
      ∃ plan : Plan ressource, plan.Correct base id ∧
        (ressource.update id data).executer runtime base = plan.executer base id ∧
          tache.Realise (base.Pareil ressource id) id data plan) ∨
    tache = .terminee ((ressource.update id data).executer runtime base).1 ∧
      current.part ressource id =
        ((ressource.update id data).step runtime base).part ressource id

theorem Tache.commeSeule_steps (hreservations : ressource ≠ .reservations) (runtime : Runtime)
    (base : Base) (id : ℕ) (data : Value) :
    (ressource.updateSteps runtime id data).CommeSeule runtime base ressource id data base := by
  obtain ⟨plan, hcorrect, hrealise⟩ := Convergent.updateSteps runtime ressource id data base
  have hsteps := hrealise (base.Pareil ressource id)
    ⟨fun _ hother => hother.numeros, fun heq => absurd heq hreservations⟩ () trivial
  have halone := hrealise (base = ·)
    ⟨fun _ hother => hother ▸ .refl base, fun heq => absurd heq hreservations⟩ () trivial
  have hid : ∀ rewrite auteurs response, plan = .ecriture rewrite auteurs response →
      id ∈ (ressource.table base.toTables).ids := by
    rintro rewrite auteurs response rfl
    exact hcorrect.2.2
  refine Or.inl ⟨rfl, plan, hcorrect, ?_, hsteps⟩
  calc (ressource.update id data).executer runtime base
    _ = (ressource.updateSteps runtime id data).seule base :=
        Client.executer_update ressource id data
    _ = plan.executer base id := halone.seule_eq hid

/-- The step lemma of one request. -/
theorem Tache.CommeSeule.avancer {runtime : Runtime} {data : Value} {tache : Tache}
    (hreservations : ressource ≠ .reservations) (hadherent : ressource ≠ .adherent)
    (hnumeros : base.MemeNumeros current)
    (hseule : tache.CommeSeule runtime base ressource id data current) :
    (tache.avancer current).1.CommeSeule runtime base ressource id data
        (tache.avancer current).2 ∧
      current.Ailleurs ressource id (tache.avancer current).2 := by
  rcases hseule with ⟨hpart, plan, hcorrect, halone, hrealise⟩ | ⟨rfl, hpart⟩
  · cases tache with
    | terminee outcome =>
        exact ⟨Or.inl ⟨hpart, plan, hcorrect, halone, hrealise⟩, .refl ressource id current⟩
    | lecture suite =>
        exact ⟨Or.inl ⟨hpart, plan, hcorrect, halone, hrealise current ⟨hnumeros, hpart⟩⟩,
          .refl ressource id current⟩
    | ecriture session answer =>
        obtain ⟨lu, charge, relu, rewrite, auteurs, response, hlu, hcharge, hrelu, rfl, rfl,
          rfl⟩ := hrealise
        obtain ⟨final, havancer, hailleurs, hfinal⟩ := Plan.avancer_ecriture hreservations
          hadherent hcorrect hlu hcharge hrelu ⟨hnumeros, hpart⟩
        rw [havancer]
        refine ⟨Or.inr ⟨?_, ?_⟩, hailleurs⟩
        · rw [halone]
        · rw [Requete.step, halone]
          exact hfinal
  · exact ⟨Or.inr ⟨rfl, hpart⟩, .refl ressource id current⟩

/-- A request that has ended. -/
theorem Tache.CommeSeule.of_terminee {runtime : Runtime} {data : Value} {outcome : Outcome}
    (hseule : (Tache.terminee outcome).CommeSeule runtime base ressource id data current) :
    outcome = ((ressource.update id data).executer runtime base).1 ∧
      current.part ressource id =
        ((ressource.update id data).step runtime base).part ressource id := by
  rcases hseule with ⟨hpart, plan, -, halone, rfl⟩ | ⟨hended, hpart⟩
  · rw [Requete.step, halone]
    exact ⟨rfl, hpart⟩
  · exact ⟨Tache.terminee.inj hended, hpart⟩

end Step

/-! ## Any order of steps -/

namespace Execution

/-- The clients that take steps update different rows of tables without a unique
index. -/
structure Separee (execution : Execution) : Prop where
  modifie : ∀ who ∈ execution.schedule, ∃ ressource id data,
    execution.clients who = .modifier ressource id data ∧
      ressource ≠ .reservations ∧ ressource ≠ .adherent
  distinct : ∀ who ∈ execution.schedule, ∀ other ∈ execution.schedule,
    ∀ ressource id data sent, execution.clients who = .modifier ressource id data →
      execution.clients other = .modifier ressource id sent → who = other

/-- What holds after every step. -/
structure Isolee (execution : Execution) (systeme : Systeme) : Prop where
  numeros : execution.base.MemeNumeros systeme.base
  seule : ∀ who ∈ execution.schedule, ∀ ressource id data,
    execution.clients who = .modifier ressource id data →
      ∃ tache : Tache, systeme.taches who = .tache tache ∧
        tache.CommeSeule execution.runtime execution.base ressource id data systeme.base
  ailleurs : ∀ ressource id, (∀ who ∈ execution.schedule, ∀ data,
      execution.clients who ≠ .modifier ressource id data) →
    systeme.base.part ressource id = execution.base.part ressource id

variable {execution : Execution}

theorem isolee_debut (hseparee : execution.Separee) : execution.Isolee execution.debut where
  numeros := .refl _
  seule := by
    intro who hwho ressource id data hclient
    obtain ⟨other, number, sent, hmodifie, hreservations, -⟩ := hseparee.modifie who hwho
    cases hclient.symm.trans hmodifie
    refine ⟨ressource.updateSteps execution.runtime id data, ?_,
      Tache.commeSeule_steps hreservations execution.runtime execution.base id data⟩
    change (execution.clients who).steps execution.runtime = _
    rw [hclient]
    rfl
  ailleurs := fun _ _ _ => rfl

/-- The step lemma. -/
theorem Isolee.avancer (hseparee : execution.Separee) {systeme : Systeme}
    (hisolee : execution.Isolee systeme) {who : ℕ} (hwho : who ∈ execution.schedule) :
    execution.Isolee (systeme.avancer who) := by
  obtain ⟨ressource, id, data, hclient, hreservations, hadherent⟩ := hseparee.modifie who hwho
  obtain ⟨tache, htache, hseule⟩ := hisolee.seule who hwho ressource id data hclient
  obtain ⟨hnext, hailleurs⟩ := hseule.avancer hreservations hadherent hisolee.numeros
  have hbase : (systeme.avancer who).base = (tache.avancer systeme.base).2 := by
    rw [Systeme.avancer, htache, Processus.avancer]
  rw [← hbase] at hnext hailleurs
  constructor
  · exact hisolee.numeros.trans hailleurs.numeros
  · intro other hother source number sent hsent
    by_cases hsame : other = who
    · subst hsame
      cases hclient.symm.trans hsent
      refine ⟨(tache.avancer systeme.base).1, ?_, hnext⟩
      rw [Systeme.taches_avancer_self, htache, Processus.avancer]
    · rw [Systeme.taches_avancer_of_ne systeme hsame]
      have hpart : (systeme.avancer who).base.part source number =
          systeme.base.part source number := by
        apply hailleurs.part
        rintro rfl rfl
        exact hsame (hseparee.distinct other hother who hwho source number sent data hsent
          hclient)
      obtain ⟨reste, hreste, hcomme⟩ := hisolee.seule other hother source number sent hsent
      refine ⟨reste, hreste, ?_⟩
      rwa [Tache.CommeSeule, hpart]
  · intro source number hnobody
    refine (hailleurs.part source number ?_).trans (hisolee.ailleurs source number hnobody)
    rintro rfl rfl
    exact hnobody who hwho data hclient

/-- Updates of different rows do not disturb each other: whatever the order of the
steps, each client that has ended was answered like its request alone, its row is as
that request leaves it, and no other row has changed. -/
theorem run_separee (hseparee : execution.Separee) :
    (∀ who ∈ execution.schedule, ∀ ressource id data,
      execution.clients who = .modifier ressource id data → ∀ outcome,
        execution.fin.taches who = .terminee outcome →
          outcome = ((ressource.update id data).executer execution.runtime execution.base).1 ∧
            execution.fin.base.part ressource id = ((ressource.update id data).step
              execution.runtime execution.base).part ressource id) ∧
      ∀ ressource id, (∀ who ∈ execution.schedule, ∀ data,
          execution.clients who = .modifier ressource id data →
            ∀ outcome, execution.fin.taches who ≠ .terminee outcome) →
        execution.fin.base.part ressource id = execution.base.part ressource id := by
  have hisolee : execution.Isolee execution.fin := by
    refine Run.invariant_run execution.Isolee (fun systeme who hisolee hwho => ?_)
      execution.schedule execution.debut (isolee_debut hseparee)
      ((Run.permitted_iff_forall _ _).mpr fun who hwho => hwho)
    exact hisolee.avancer hseparee hwho
  constructor
  · intro who hwho ressource id data hclient outcome hended
    obtain ⟨tache, htache, hseule⟩ := hisolee.seule who hwho ressource id data hclient
    cases hended.symm.trans htache
    exact hseule.of_terminee
  · intro ressource id hunderway
    by_cases hsome : ∃ who ∈ execution.schedule, ∃ data,
        execution.clients who = .modifier ressource id data
    · obtain ⟨who, hwho, data, hclient⟩ := hsome
      obtain ⟨tache, htache, hseule⟩ := hisolee.seule who hwho ressource id data hclient
      rcases hseule with ⟨hpart, -⟩ | ⟨hended, -⟩
      · exact hpart
      · exact absurd (htache.trans (congrArg Processus.tache hended))
          (hunderway who hwho data hclient _)
    · refine hisolee.ailleurs ressource id fun who hwho data hclient => ?_
      exact hsome ⟨who, hwho, data, hclient⟩

/-- A book gets another title while its category is renamed. -/
def entremelees : Execution where
  runtime := .dev
  clients
    | 0 => .modifier .livre 1 (.object [("titre", .str "Persuasion"), ("categorieId", .int 1)])
    | _ => .modifier .categorie 1 (.object [("nom", .str "Romance")])
  base := Base.sample
  schedule := [0, 1, 0, 1, 0]

theorem separee_entremelees : entremelees.Separee where
  modifie := by
    intro who _
    cases who with
    | zero => exact ⟨.livre, 1, _, rfl, by decide, by decide⟩
    | succ who => exact ⟨.categorie, 1, _, rfl, by decide, by decide⟩
  distinct := by
    intro who hwho other hother ressource id data sent hclient hsent
    have hpairs : ∀ who ∈ [0, 1, 0, 1, 0], ∀ other ∈ [0, 1, 0, 1, 0], who = other ∨
        (who = 0 ∧ other = 1) ∨ (who = 1 ∧ other = 0) := by decide
    rcases hpairs who hwho other hother with hsame | ⟨rfl, rfl⟩ | ⟨rfl, rfl⟩
    · exact hsame
    · cases hclient
      cases hsent
    · cases hclient
      cases hsent

theorem run_separee_entremelees :
    entremelees.Separee ∧ entremelees.fin.base.part .livre 1 =
      ((Ressource.update 1 (.object [("titre", .str "Persuasion"), ("categorieId", .int 1)])
        .livre).step .dev Base.sample).part .livre 1 := by
  have hended := (run_separee separee_entremelees).1 0 (by decide) .livre 1 _ rfl
    (.response ⟨200, .object [("message", .str "Livre updated"), ("id", .int 1)]⟩) rfl
  exact ⟨separee_entremelees, hended.2⟩

end Execution

end Bibliotheque
