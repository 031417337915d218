import Bibliotheque.Api.Catalogue
import Bibliotheque.Store.Completion
import Bibliotheque.Store.Flush

/-!
# What `PUT /api/livre/{id}` asks for

The statements of `LivreController::update` before its flush either all
succeed, and then their effect on the session is determined by the values the
body sends, or one of them stops the request.
-/

namespace Bibliotheque

open Program Bibliotheque.Action

namespace LivreController

/-- The columns and authors that a body sends. -/
structure Sent where
  titre : Option String
  dateSortie : Option Date
  langue : Option String
  photoCouverture : Option (Option String)
  categorie : Option ℕ
  auteurs : List ℕ

def sent (runtime : Runtime) (data : Value) : Sent where
  titre := received (data.field "titre") Value.toString
  dateSortie := received (data.field "dateSortie") runtime.newDateTime
  langue := received (data.field "langue") Value.toString
  photoCouverture := (received (data.field "photoCouverture") Value.toString).map some
  categorie := (received (data.field "categorieId") runtime.rowId).join
  auteurs := (((data.field "auteurIds").bind Value.elements).getD []).filterMap
    fun auteurId => (runtime.rowId auteurId).toOption.join

/-- The book after the setters. -/
def Sent.onRow (sent : Sent) (row : Livre) : Livre where
  titre := sent.titre.getD row.titre
  dateSortie := sent.dateSortie.getD row.dateSortie
  langue := sent.langue.getD row.langue
  photoCouverture := sent.photoCouverture.getD row.photoCouverture
  categorie := sent.categorie.getD row.categorie

/-- The collections after the calls of `addAuteur`. -/
def addAuteurs (livre : Ref) (auteurs : List ℕ) (liens : Liens Ref Ref) :
    Liens Ref Ref :=
  auteurs.foldl (fun liens auteur => liens.addAuteur livre (.managed auteur)) liens

/-- The body passes every test and conversion of `update`. -/
structure Accepted (runtime : Runtime) (tables : Tables) (id : ℕ)
    (data : Value) : Prop where
  livre : id ∈ tables.livre.ids
  titre : ∀ given, data.field "titre" = some given →
    ∃ text, given.toString = .ok text
  dateSortie : ∀ given, data.field "dateSortie" = some given →
    ∃ date, runtime.newDateTime given = .ok date
  langue : ∀ given, data.field "langue" = some given →
    ∃ text, given.toString = .ok text
  photoCouverture : ∀ given, data.field "photoCouverture" = some given →
    ∃ text, given.toString = .ok text
  categorie : ∀ given, data.field "categorieId" = some given →
    ∃ categorie ∈ tables.categorie.ids, runtime.rowId given = .ok (some categorie)
  auteurs : ∀ given, data.field "auteurIds" = some given →
    (given.elements = none → runtime.debug = false) ∧
      ∀ items, given.elements = some items → ∀ item ∈ items,
        ∃ auteur ∈ tables.auteur.ids, runtime.rowId item = .ok (some auteur)

end LivreController

/-! ## The setters -/

/-- The effect of a setter of a book. -/
def Session.setRow (session : Session) (id : ℕ) (rewrite : Livre → Livre) :
    Session :=
  { session with managed :=
    { session.managed with livre := session.managed.livre.modify id rewrite } }

theorem Session.setRow_setRow (session : Session) (id : ℕ)
    (first second : Livre → Livre) :
    (session.setRow id first).setRow id second =
      session.setRow id (second ∘ first) := by
  simp only [setRow, Table.modify_modify]

theorem Session.setRow_id (session : Session) (id : ℕ) :
    (session.setRow id fun row => row) = session := by
  simp only [setRow, Table.modify_id]

theorem setLivre_setRow (session : Session) (id : ℕ) (before rewrite : Livre → Livre) :
    setLivre id rewrite (session.setRow id before) =
      .ok () (session.setRow id (rewrite ∘ before)) := by
  rw [← Session.setRow_setRow]
  rfl

section Setters

variable {runtime : Runtime} {session : Session} {id : ℕ}
variable {post : Unit → Session → Prop}

theorem wp_setLivre {stop : Outcome → Session → Prop} (rewrite : Livre → Livre) :
    wp (setLivre id rewrite) post stop session ↔
      post () (session.setRow id rewrite) := Iff.rfl

/-- The loop over `auteurIds` links every author or stops. -/
theorem wp_forM_linkAuteur_iff (livre : Ref) {missing : Action Unit}
    (hmissing : ∀ post session, ¬ wp missing post (fun _ _ => False) session) :
    ∀ (items : List Value) (session : Session),
      wp (items.forM (LivreController.linkAuteur runtime livre missing)) post
          (fun _ _ => False) session ↔
        (∀ item ∈ items, ∃ auteur ∈ session.managed.auteur.ids,
          runtime.rowId item = .ok (some auteur)) ∧
        post () { session with
          liens := LivreController.addAuteurs livre
            (items.filterMap fun item => (runtime.rowId item).toOption.join)
            session.liens } := by
  intro items
  induction items with
  | nil =>
      intro session
      simp [LivreController.addAuteurs, List.forM]
  | cons item items ih =>
      intro session
      change wp (LivreController.linkAuteur runtime livre _ item >>= fun _ =>
        items.forM _) _ _ _ ↔ _
      rw [wp_bind]
      refine Iff.trans (completes_findOr_iff (hmissing _ _)) ?_
      simp only [addAuteur, wp_modify, ih, List.mem_cons, forall_eq_or_imp]
      constructor
      · rintro ⟨auteur, hauteur, hitem, hitems, hpost⟩
        refine ⟨⟨⟨auteur, hauteur, hitem⟩, hitems⟩, ?_⟩
        simpa [hitem, Except.toOption, LivreController.addAuteurs] using hpost
      · rintro ⟨⟨⟨auteur, hauteur, hitem⟩, hitems⟩, hpost⟩
        refine ⟨auteur, hauteur, hitem, hitems, ?_⟩
        simpa [hitem, Except.toOption, LivreController.addAuteurs] using hpost

/-- The `foreach` over `auteurIds`, which skips what is no array unless
warnings are raised. -/
theorem wp_foreach_linkAuteur_iff (livre : Ref) {missing : Action Unit}
    (hmissing : ∀ post session, ¬ wp missing post (fun _ _ => False) session)
    (auteurIds : Value) :
    wp (foreach runtime auteurIds (LivreController.linkAuteur runtime livre missing))
        post (fun _ _ => False) session ↔
      ((auteurIds.elements = none → runtime.debug = false) ∧
          ∀ items, auteurIds.elements = some items → ∀ item ∈ items,
            ∃ auteur ∈ session.managed.auteur.ids,
              runtime.rowId item = .ok (some auteur)) ∧
        post () { session with
          liens := LivreController.addAuteurs livre
            ((auteurIds.elements.getD []).filterMap fun item =>
              (runtime.rowId item).toOption.join)
            session.liens } := by
  unfold foreach
  cases helements : auteurIds.elements with
  | none =>
      cases hdebug : runtime.debug with
      | true => simp
      | false => simp [LivreController.addAuteurs]
  | some items =>
      refine (wp_forM_linkAuteur_iff livre hmissing items session).trans ?_
      simp

end Setters

namespace LivreController

variable {runtime : Runtime} {session : Session} {id : ℕ} {data : Value}

/-- The session after the statements of `update` before its flush. -/
def applied (runtime : Runtime) (id : ℕ) (data : Value) (session : Session) :
    Session :=
  { session.setRow id (sent runtime data).onRow with
    liens := addAuteurs (.managed id) (sent runtime data).auteurs session.liens }

theorem wp_categorie_iff {post : Unit → Session → Prop} :
    wp (ifSet (data.field "categorieId") (changeCategorie runtime id)) post
        (fun _ _ => False) session ↔
      (∀ given, data.field "categorieId" = some given →
        ∃ categorie ∈ session.managed.categorie.ids,
          runtime.rowId given = .ok (some categorie)) ∧
        post () (session.setRow id fun row =>
          { row with categorie := (sent runtime data).categorie.getD row.categorie }) := by
  cases hfield : data.field "categorieId" with
  | none => simp [sent, received, hfield, Session.setRow_id]
  | some given =>
      rw [wp_ifSet_some]
      refine Iff.trans (completes_findOr_iff ?_) ?_
      · simp [notFoundConstant]
      simp only [Option.some.injEq, forall_eq', wp_setLivre]
      constructor
      · rintro ⟨categorie, hcategorie, hgiven, hpost⟩
        refine ⟨⟨categorie, hcategorie, hgiven⟩, ?_⟩
        simpa [sent, received, hfield, hgiven, Except.toOption] using hpost
      · rintro ⟨⟨categorie, hcategorie, hgiven⟩, hpost⟩
        refine ⟨categorie, hcategorie, hgiven, ?_⟩
        simpa [sent, received, hfield, hgiven, Except.toOption] using hpost

theorem wp_auteurs_iff {post : Unit → Session → Prop} (livre : Ref) :
    wp (ifSet (data.field "auteurIds") fun auteurIds =>
        foreach runtime auteurIds (linkAuteur runtime livre notFoundConstant))
        post (fun _ _ => False) session ↔
      (∀ given, data.field "auteurIds" = some given →
        (given.elements = none → runtime.debug = false) ∧
          ∀ items, given.elements = some items → ∀ item ∈ items,
            ∃ auteur ∈ session.managed.auteur.ids,
              runtime.rowId item = .ok (some auteur)) ∧
        post () { session with
          liens := addAuteurs livre (sent runtime data).auteurs session.liens } := by
  cases hfield : data.field "auteurIds" with
  | none => simp [sent, hfield, addAuteurs]
  | some given =>
      rw [wp_ifSet_some]
      refine (wp_foreach_linkAuteur_iff livre ?_ given).trans ?_
      · simp [notFoundConstant]
      · simp [sent, hfield]

/-- The statements before the flush succeed exactly on accepted bodies, and
then their effect is `applied`. -/
theorem wp_updateFields_iff {post : Unit → Session → Prop} :
    wp (updateFields runtime id data) post (fun _ _ => False) session ↔
      Accepted runtime session.managed id data ∧
        post () (applied runtime id data session) := by
  unfold updateFields
  by_cases hid : id ∈ session.managed.livre.ids
  · rw [wp_findPath_of_mem runtime hid]
    dsimp only
    conv_lhs => rw [← session.setRow_id id]
    change Completes _ _ _ ↔ _
    rw [completes_setter_iff (setLivre_setRow session id _) (fun titre row =>
        { row with titre := titre.getD row.titre }) rfl ?_,
      completes_setter_iff (setLivre_setRow session id _) (fun dateSortie row =>
        { row with dateSortie := dateSortie.getD row.dateSortie }) rfl ?_,
      completes_setter_iff (setLivre_setRow session id _) (fun langue row =>
        { row with langue := langue.getD row.langue }) rfl ?_,
      completes_setter_iff (setLivre_setRow session id _) (fun photo row =>
        { row with photoCouverture := (photo.map some).getD row.photoCouverture })
        rfl ?_,
      Completes, wp_bind, wp_categorie_iff, wp_auteurs_iff, Session.setRow_setRow]
    · constructor
      · rintro ⟨htitre, hdateSortie, hlangue, hphoto, hcategorie, hauteurs, hpost⟩
        exact ⟨⟨hid, htitre, hdateSortie, hlangue, hphoto, hcategorie, hauteurs⟩, hpost⟩
      · rintro ⟨⟨-, htitre, hdateSortie, hlangue, hphoto, hcategorie, hauteurs⟩, hpost⟩
        exact ⟨htitre, hdateSortie, hlangue, hphoto, hcategorie, hauteurs, hpost⟩
    all_goals exact fun _ => rfl
  · rw [wp_bind, wp_find_of_not_mem runtime (runtime.rowId_int id) hid]
    dsimp only
    simp only [wp_answer, false_iff, not_and]
    exact fun haccepted => absurd haccepted.livre hid

/-- Until its flush a PUT only stops with an error. -/
theorem stops_updateFields : Refuses (updateFields runtime id data) := by
  have hset : ∀ livre rewrite, Refuses (setLivre livre rewrite) :=
    fun _ _ => stops_modify _
  have hmissing : Refuses notFoundConstant := refuses_thrown _
  unfold updateFields
  refine refuses_findOr runtime Tables.livre (.int id) ?_ ?_
  · intro livre
    refine (refuses_setter _ _ fun _ => hset _ _).bind fun _ => ?_
    refine (refuses_setter _ _ fun _ => hset _ _).bind fun _ => ?_
    refine (refuses_setter _ _ fun _ => hset _ _).bind fun _ => ?_
    refine (refuses_setter _ _ fun _ => hset _ _).bind fun _ => ?_
    refine Stops.bind (refuses_ifSet _ fun categorieId => ?_) fun _ => ?_
    · exact refuses_findOr _ _ _ (fun _ => hset _ _) hmissing
    · refine refuses_ifSet _ fun auteurIds => refuses_foreach _ _ fun auteurId => ?_
      exact refuses_findOr _ _ _ (fun _ => stops_modify _) hmissing
  · exact refuses_answer (by decide) _

/-- A body that is not accepted stops the request. -/
theorem exists_error_of_not_accepted
    (hrefused : ¬ Accepted runtime session.managed id data) :
    ∃ outcome final, updateFields runtime id data session = .error outcome final ∧
      ¬ outcome.Success := by
  cases hrun : updateFields runtime id data session with
  | ok value final =>
      have hwp : wp (updateFields runtime id data) (fun _ _ => True)
          (fun _ _ => False) session :=
        wp_stop_false_iff.mpr ⟨value, final, hrun, trivial⟩
      exact absurd (wp_updateFields_iff.mp hwp).1 hrefused
  | error outcome final =>
      exact ⟨outcome, final, rfl, stops_updateFields.of_error hrun⟩

/-! ## The links of an accepted body -/

theorem mem_auteurs_addAuteurs (livre other : Ref) (member : Ref) :
    ∀ (auteurs : List ℕ) (liens : Liens Ref Ref),
      member ∈ (addAuteurs livre auteurs liens).auteurs other ↔
        member ∈ liens.auteurs other ∨
          (other = livre ∧ ∃ auteur ∈ auteurs, member = .managed auteur) := by
  intro auteurs
  induction auteurs with
  | nil => simp [addAuteurs]
  | cons auteur auteurs ih =>
      intro liens
      change member ∈ (addAuteurs livre auteurs _).auteurs other ↔ _
      rw [ih, Liens.mem_auteurs_addAuteur]
      simp only [List.mem_cons, exists_eq_or_imp]
      tauto

theorem nodup_auteurs_addAuteurs (livre : Ref) :
    ∀ (auteurs : List ℕ) (liens : Liens Ref Ref),
      (∀ other, (liens.auteurs other).Nodup) →
        ∀ other, ((addAuteurs livre auteurs liens).auteurs other).Nodup := by
  intro auteurs
  induction auteurs with
  | nil => exact fun _ hnodup => hnodup
  | cons auteur auteurs ih =>
      intro liens hnodup
      exact ih _ fun other =>
        Liens.nodup_auteurs_addAuteur (hnodup other) livre (.managed auteur)

end LivreController

namespace LivreController

section Pending

variable (runtime : Runtime) (id : ℕ) (data : Value) (base current : Base)

/-- The session of a PUT that read `base` and meets `current` when it
flushes. -/
def pending : Session :=
  { applied runtime id data (Session.start base) with base := current }

variable {runtime id data base current}

/-- The authors to link: those of the body that were not linked yet. -/
theorem adds_pending_iff (livre auteur : Ref) :
    (pending runtime id data base current).Adds livre auteur ↔
      livre = .managed id ∧ ∃ number ∈ (sent runtime data).auteurs,
        auteur = .managed number ∧ (id, number) ∉ base.livreAuteur := by
  change auteur ∈ (addAuteurs _ _ base.liens).auteurs livre ∧
    auteur ∉ base.liens.auteurs livre ↔ _
  rw [mem_auteurs_addAuteurs]
  constructor
  · rintro ⟨hold | ⟨rfl, number, hnumber, rfl⟩, hnew⟩
    · exact absurd hold hnew
    · refine ⟨rfl, number, hnumber, rfl, fun hlink => hnew ?_⟩
      exact (Tables.mem_liens_auteurs _ _ _).mpr ⟨number, hlink, rfl⟩
  · rintro ⟨rfl, number, hnumber, rfl, hnew⟩
    refine ⟨Or.inr ⟨rfl, number, hnumber, rfl⟩, fun hold => hnew ?_⟩
    obtain ⟨other, hlink, heq⟩ := (Tables.mem_liens_auteurs _ _ _).mp hold
    rw [Ref.managed.inj heq]
    exact hlink

/-- Only the book of the request gets new links. -/
theorem mem_newLinks_pending (hid : id ∈ base.livre.ids) (link : ℕ × ℕ) :
    link ∈ (pending runtime id data base current).newLinks 0 ↔
      link.1 = id ∧ link.2 ∈ (sent runtime data).auteurs ∧
        link ∉ base.livreAuteur := by
  have hmanaged : id ∈ (pending runtime id data base current).managed.livre.ids := by
    change id ∈ (base.livre.modify id _).ids
    simpa using hid
  simp only [Session.mem_newLinks_iff, adds_pending_iff]
  constructor
  · rintro ⟨livre, auteur, -, ⟨rfl, number, hnumber, rfl, hnew⟩, rfl⟩
    exact ⟨rfl, hnumber, hnew⟩
  · obtain ⟨livre, auteur⟩ := link
    rintro ⟨rfl, hauteur, hnew⟩
    exact ⟨.managed livre, .managed auteur, Or.inr ⟨livre, hmanaged, rfl⟩,
      ⟨rfl, auteur, hauteur, rfl, hnew⟩, rfl⟩

theorem nodup_newLinks_pending :
    ((pending runtime id data base current).newLinks 0).Nodup := by
  refine Session.nodup_newLinks _ 0 (nodup_auteurs_addAuteurs (.managed id) _ _
    base.valid.nodup_liens_auteurs) ?_
  intro livre auteur livre' auteur' hadds hadds' _ hauteur
  obtain ⟨rfl, number, -, rfl, -⟩ := (adds_pending_iff livre auteur).mp hadds
  obtain ⟨rfl, number', -, rfl, -⟩ := (adds_pending_iff livre' auteur').mp hadds'
  exact ⟨rfl, congrArg Ref.managed hauteur⟩

/-! ## Its flush -/

theorem updated_pending {old : Livre} (hold : base.livre.find id = some old) :
    (pending runtime id data base current).updated =
      { current.toTables with
        livre := current.livre.modify id
          (Livre.write old ((sent runtime data).onRow old))
        livreAuteur := current.livreAuteur ++
          (pending runtime id data base current).newLinks 0 } := by
  have hwritten := Tables.write_livre base.toTables current.toTables hold
    (sent runtime data).onRow
  exact congrArg (fun written : Tables => { written with
    livreAuteur := written.livreAuteur ++
      (pending runtime id data base current).newLinks 0 }) hwritten

/-- The content that the flush commits. -/
def committed (runtime : Runtime) (id : ℕ) (data : Value) (base current : Base) : Tables :=
  (pending runtime id data base current).updated.store

theorem committed_eq {old : Livre} (hold : base.livre.find id = some old) :
    committed runtime id data base current =
      { current.toTables with
        livre := current.livre.modify id
          (Livre.store ∘ Livre.write old ((sent runtime data).onRow old))
        livreAuteur := current.livreAuteur ++
          (pending runtime id data base current).newLinks 0 } := by
  rw [committed, updated_pending hold, current.valid.store_livre,
    Table.map_modify fun row hrow => (current.valid.livre_fits row hrow).store_eq]

theorem commit_pending :
    (pending runtime id data base current).commit =
      .ok ((pending runtime id data base current).updated, 0) :=
  Session.commit_update rfl rfl

/-- The category of an accepted body exists. -/
theorem Accepted.categorie_mem (haccepted : Accepted runtime base.toTables id data)
    {old : Livre} (hold : base.livre.find id = some old) :
    ((sent runtime data).onRow old).categorie ∈ base.categorie.ids := by
  have hstored : old.categorie ∈ base.categorie.ids :=
    base.valid.livre_categorie _ ((Table.find_eq_some_iff _ _ _).mp hold)
  change (sent runtime data).categorie.getD old.categorie ∈ _
  cases hfield : data.field "categorieId" with
  | none => simpa [sent, received, hfield] using hstored
  | some given =>
      obtain ⟨categorie, hcategorie, hgiven⟩ := haccepted.categorie given hfield
      simpa [sent, received, hfield, hgiven, Except.toOption] using hcategorie

/-- The authors of an accepted body exist. -/
theorem Accepted.auteur_mem (haccepted : Accepted runtime base.toTables id data)
    {auteur : ℕ} (hauteur : auteur ∈ (sent runtime data).auteurs) :
    auteur ∈ base.auteur.ids := by
  obtain ⟨item, hitem, hread⟩ := List.mem_filterMap.mp hauteur
  cases hfield : data.field "auteurIds" with
  | none => simp [hfield] at hitem
  | some given =>
      cases helements : given.elements with
      | none => simp [hfield, helements] at hitem
      | some items =>
          have hmember : item ∈ items := by simpa [hfield, helements] using hitem
          obtain ⟨found, hfound, hrow⟩ :=
            (haccepted.auteurs given hfield).2 items helements item hmember
          have heq : found = auteur := by
            simpa [hrow, Except.toOption] using hread
          rwa [← heq]

/-- The flush of an accepted PUT that nobody disturbed succeeds as soon as the
columns take the new row. -/
theorem valid_committed (haccepted : Accepted runtime base.toTables id data)
    {old : Livre} (hold : base.livre.find id = some old)
    (hfits : ((sent runtime data).onRow old).store.Fits) :
    (committed runtime id data base base).Valid := by
  rw [committed_eq hold]
  refine base.valid.update_livre ?_ nodup_newLinks_pending ?_
  · intro stored hstored
    rw [hold] at hstored
    cases hstored
    rw [Function.comp_apply, Livre.write_loaded]
    exact ⟨hfits, haccepted.categorie_mem hold⟩
  · intro link hlink
    obtain ⟨hlivre, hauteur, habsent⟩ :=
      (mem_newLinks_pending haccepted.livre link).mp hlink
    exact ⟨hlivre ▸ haccepted.livre, haccepted.auteur_mem hauteur, habsent⟩

/-- A PUT of a body that is not accepted fails. -/
theorem not_success_update (hrefused : ¬ Accepted runtime base.toTables id data) :
    ¬ (serve (update runtime id data) base).1.Success := by
  obtain ⟨outcome, final, hrun, houtcome⟩ :=
    @exists_error_of_not_accepted runtime (Session.start base) id data hrefused
  have hend := serve_iff_wp (update runtime id data) base fun outcome _ =>
    ¬ outcome.Success
  refine hend.mpr ?_
  rw [update, wp_bind, wp, hrun]
  exact houtcome

/-- The state an accepted and fitting PUT leaves. -/
theorem serve_update (haccepted : Accepted runtime base.toTables id data)
    {old : Livre} (hold : base.livre.find id = some old)
    (hfits : ((sent runtime data).onRow old).store.Fits) :
    serve (update runtime id data) base =
      (.response ⟨200, .object [("message", .str "Livre updated"), ("id", .int id)]⟩,
        ⟨committed runtime id data base base,
          valid_committed haccepted hold hfits⟩) := by
  apply serve_of_wp
  rw [update, wp_bind, wp_updateFields_iff]
  refine ⟨haccepted, ?_⟩
  rw [wp_bind]
  exact (completes_flush_of_commit commit_pending rfl).mpr
    ⟨valid_committed haccepted hold hfits, rfl, rfl⟩

theorem livre_find_committed {old : Livre} (hold : base.livre.find id = some old) :
    (committed runtime id data base base).livre.find id =
      some ((sent runtime data).onRow old).store := by
  rw [committed_eq hold, Table.find_modify_self, hold, Option.map_some,
    Function.comp_apply, Livre.write_loaded]

/-- What an accepted and fitting PUT does to the book and its links. -/
theorem step_update (haccepted : Accepted runtime base.toTables id data)
    {old : Livre} (hold : base.livre.find id = some old)
    (hfits : ((sent runtime data).onRow old).store.Fits) :
    (serve (update runtime id data) base).2.livre.find id =
        some ((sent runtime data).onRow old).store ∧
      (∀ link, link ∈ (serve (update runtime id data) base).2.livreAuteur ↔
        link ∈ base.livreAuteur ∨
          link.1 = id ∧ link.2 ∈ (sent runtime data).auteurs) ∧
      ∀ other, Accepted runtime base.toTables id other →
        Accepted runtime (serve (update runtime id data) base).2.toTables id other := by
  rw [serve_update haccepted hold hfits]
  refine ⟨livre_find_committed hold, ?_, ?_⟩
  · intro link
    change link ∈ (committed runtime id data base base).livreAuteur ↔ _
    rw [committed_eq hold, List.mem_append, mem_newLinks_pending haccepted.livre]
    tauto
  · intro other hother
    change Accepted runtime (committed runtime id data base base) id other
    rw [committed_eq hold]
    exact ⟨by simpa using hother.livre, hother.titre, hother.dateSortie,
      hother.langue, hother.photoCouverture, hother.categorie, hother.auteurs⟩

end Pending

end LivreController

end Bibliotheque
