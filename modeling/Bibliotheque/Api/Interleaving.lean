import Bibliotheque.Api.Atomicity
import Bibliotheque.Api.LivreUpdate
import Bibliotheque.Core.Run

/-!
# Two updates of one book at the same time

Each `PUT /api/livre/{id}` makes two steps: it finds the book and applies its
body to the managed copy, and later it flushes.  Neither a version column nor a
lock ties the two steps together, so the steps of two requests may interleave.
This module compares what is stored then with what the two serial orders store.
-/

namespace Bibliotheque

open Program Bibliotheque.Action LivreController

/-! ## The two requests -/

/-- How far a request has come. -/
inductive Avancement where
  | enAttente
  | ouverte (session : Session)
  | terminee (outcome : Outcome)

structure Monde where
  base : Base
  avancement : Bool → Avancement

/-- The request answered 200. -/
def Avancement.Answered : Avancement → Prop
  | .terminee (.response response) => response.status = 200
  | _ => False

instance (avancement : Avancement) : Decidable avancement.Answered :=
  match avancement with
  | .terminee (.response _) => inferInstanceAs (Decidable (_ = 200))
  | .terminee (.thrown _) | .enAttente | .ouverte _ => inferInstanceAs (Decidable False)

namespace Monde

def initial (base : Base) : Monde := ⟨base, fun _ => .enAttente⟩

def set (monde : Monde) (who : Bool) (avancement : Avancement) : Monde :=
  { monde with avancement := Function.update monde.avancement who avancement }

/-- The second step of a PUT. -/
def finish (id : ℕ) : Action Response := do
  flush
  return ⟨200, .object [("message", .str "Livre updated"), ("id", .int id)]⟩

/-- Record the end of a first step. -/
def ouvrir (monde : Monde) (who : Bool) : EStateM.Result Outcome Session Unit → Monde
  | .ok _ session => monde.set who (.ouverte session)
  | .error outcome _ => monde.set who (.terminee outcome)

/-- Record the end of a second step, and the state it committed. -/
def fermer (monde : Monde) (who : Bool) :
    EStateM.Result Outcome Session Response → Monde
  | .ok response final =>
      { monde.set who (.terminee (.response response)) with base := final.base }
  | .error outcome final =>
      { monde.set who (.terminee outcome) with base := final.base }

/-- The next step of one of the two requests.  The database may have changed
since the session was opened. -/
def avancer (runtime : Runtime) (id : ℕ) (data : Bool → Value) (monde : Monde)
    (who : Bool) : Monde :=
  match monde.avancement who with
  | .enAttente =>
      monde.ouvrir who
        (updateFields runtime id (data who) (Session.start monde.base))
  | .ouverte session =>
      monde.fermer who (finish id { session with base := monde.base })
  | .terminee _ => monde

end Monde

/-- The state after the two requests one after the other, `first` first. -/
def serial (runtime : Runtime) (id : ℕ) (data : Bool → Value) (base : Base)
    (first : Bool) : Base :=
  (Requete.livreUpdate id (data !first)).step runtime
    ((Requete.livreUpdate id (data first)).step runtime base)

/-- The same row of the book and the same author links. -/
def SameLivre (id : ℕ) (left right : Base) : Prop :=
  left.livre.find id = right.livre.find id ∧
    ∀ link, link ∈ left.livreAuteur ↔ link ∈ right.livreAuteur

/-- Both requests find the book before `first` flushes, and `first` flushes
first. -/
def Overlapped (first : Bool) (schedule : List Bool) : Prop :=
  schedule = [first, !first, first, !first] ∨
    schedule = [!first, first, first, !first]

/-- Some column of the book, which stores texts without their excess spaces,
relates the old value and the two sent ones. -/
def SomeColumn
    (relation : ∀ {Column : Type}, (Column → Column) → Column → Option Column →
      Option Column → Prop)
    (old : Livre) (first second : Sent) : Prop :=
  relation (Varchar.store 255) old.titre first.titre second.titre ∨
    relation id old.dateSortie first.dateSortie second.dateSortie ∨
    relation (Varchar.store 255) old.langue first.langue second.langue ∨
    relation (Option.map (Varchar.store 255)) old.photoCouverture first.photoCouverture
      second.photoCouverture ∨
    relation id old.categorie first.categorie second.categorie

/-- Each column is that of one of two rows. -/
def Livre.Mixes (row left right : Livre) : Prop :=
  (row.titre = left.titre ∨ row.titre = right.titre) ∧
    (row.dateSortie = left.dateSortie ∨ row.dateSortie = right.dateSortie) ∧
    (row.langue = left.langue ∨ row.langue = right.langue) ∧
    (row.photoCouverture = left.photoCouverture ∨
      row.photoCouverture = right.photoCouverture) ∧
    (row.categorie = left.categorie ∨ row.categorie = right.categorie)

/-! ## Rows -/

section Rows

theorem map_store_store (photo : Option String) :
    (photo.map (Varchar.store 255)).map (Varchar.store 255) =
      photo.map (Varchar.store 255) := by
  rw [Option.map_map]
  exact congrArg (Option.map · photo) (funext (Varchar.store_store 255))

variable {old : Livre} (hold : old.Fits) (first second : Sent)

include hold

/-- The row after both flushes is that of the order of the flushes, unless the
second one skipped a column. -/
theorem write_eq_first_then_second_iff :
    (Livre.write old (second.onRow old) (first.onRow old).store).store =
        (second.onRow (first.onRow old).store).store ↔
      ¬ SomeColumn SetBack old first second := by
  have hid : ∀ {Column : Type} (value : Column), id (id value) = id value := fun _ => rfl
  simp only [Livre.store, Livre.write, Sent.onRow, Livre.mk.injEq, SomeColumn, not_or,
    ← column_eq_first_then_second_iff (Varchar.store_eq_self hold.1) (Varchar.store_store 255),
    ← @column_eq_first_then_second_iff Date _ id _ rfl hid,
    ← column_eq_first_then_second_iff (Varchar.store_eq_self hold.2.2.1)
      (Varchar.store_store 255),
    ← column_eq_first_then_second_iff (Varchar.map_store_eq_self hold.2.2.2) map_store_store,
    ← @column_eq_first_then_second_iff ℕ _ id _ rfl hid, id_eq]

theorem write_eq_second_then_first_iff :
    (Livre.write old (second.onRow old) (first.onRow old).store).store =
        (first.onRow (second.onRow old).store).store ↔
      ¬ SomeColumn Contested old first second := by
  have hid : ∀ {Column : Type} (value : Column), id (id value) = id value := fun _ => rfl
  simp only [Livre.store, Livre.write, Sent.onRow, Livre.mk.injEq, SomeColumn, not_or,
    ← column_eq_second_then_first_iff (Varchar.store_eq_self hold.1) (Varchar.store_store 255),
    ← @column_eq_second_then_first_iff Date _ id _ rfl hid,
    ← column_eq_second_then_first_iff (Varchar.store_eq_self hold.2.2.1)
      (Varchar.store_store 255),
    ← column_eq_second_then_first_iff (Varchar.map_store_eq_self hold.2.2.2) map_store_store,
    ← @column_eq_second_then_first_iff ℕ _ id _ rfl hid, id_eq]

theorem mixes_write :
    (Livre.write old (second.onRow old) (first.onRow old).store).store.Mixes
      (second.onRow (first.onRow old).store).store
      (first.onRow (second.onRow old).store).store :=
  ⟨column_eq_serial (Varchar.store_eq_self hold.1) (Varchar.store_store 255) _ _,
    @column_eq_serial Date _ id _ rfl (fun _ => rfl) _ _,
    column_eq_serial (Varchar.store_eq_self hold.2.2.1) (Varchar.store_store 255) _ _,
    column_eq_serial (Varchar.map_store_eq_self hold.2.2.2) map_store_store _ _,
    @column_eq_serial ℕ _ id _ rfl (fun _ => rfl) _ _⟩

variable {first second}

/-- The columns take the rows of the serial orders if they take those of the
overlapped run. -/
theorem fits_onRow_of_write {stored : Livre}
    (hresult : (Livre.write old (second.onRow old) stored).store.Fits) {row : Livre}
    (hrow : row.Fits) : (second.onRow row).store.Fits :=
  ⟨getD_of_column (fun text => Varchar 255 (Varchar.store 255 text)) hold.store.1 hresult.1
      hrow.store.1,
    getD_of_column DateColumn hold.2.1 hresult.2.1 hrow.2.1,
    getD_of_column (fun text => Varchar 255 (Varchar.store 255 text)) hold.store.2.2.1
      hresult.2.2.1 hrow.store.2.2.1,
    getD_of_column (fun photo : Option String =>
      ∀ text ∈ photo.map (Varchar.store 255), Varchar 255 text)
      hold.store.2.2.2 hresult.2.2.2 hrow.store.2.2.2⟩

end Rows

/-! ## Steps -/

namespace Monde

variable {runtime : Runtime} {id : ℕ} {data : Bool → Value} {monde : Monde}
variable {who : Bool}

@[simp]
theorem base_set (monde : Monde) (who : Bool) (avancement : Avancement) :
    (monde.set who avancement).base = monde.base := rfl

@[simp]
theorem avancement_set_self (monde : Monde) (who : Bool)
    (avancement : Avancement) :
    (monde.set who avancement).avancement who = avancement := by
  simp [set]

theorem avancement_set_of_ne (monde : Monde) {who other : Bool}
    (avancement : Avancement) (hother : other ≠ who) :
    (monde.set who avancement).avancement other = monde.avancement other := by
  simp [set, hother]

/-- A step of a request leaves the other request where it is. -/
theorem avancement_avancer_of_ne {other : Bool} (hother : other ≠ who) :
    (monde.avancer runtime id data who).avancement other =
      monde.avancement other := by
  unfold avancer
  split
  · unfold ouvrir
    split <;> exact avancement_set_of_ne monde _ hother
  · unfold fermer
    split <;> exact avancement_set_of_ne monde _ hother
  · rfl

/-- A request that has ended stays so. -/
theorem avancer_terminee {outcome : Outcome}
    (hterminee : monde.avancement who = .terminee outcome) :
    monde.avancer runtime id data who = monde := by
  unfold avancer
  rw [hterminee]

theorem avancer_enAttente (hattente : monde.avancement who = .enAttente) :
    monde.avancer runtime id data who = monde.ouvrir who
      (updateFields runtime id (data who) (Session.start monde.base)) := by
  unfold avancer
  rw [hattente]

theorem avancer_ouverte {session : Session}
    (houverte : monde.avancement who = .ouverte session) :
    monde.avancer runtime id data who =
      monde.fermer who (finish id { session with base := monde.base }) := by
  unfold avancer
  rw [houverte]

/-- The first step of an accepted body. -/
theorem avancer_accepted (hattente : monde.avancement who = .enAttente)
    (haccepted : Accepted runtime monde.base.toTables id (data who)) :
    monde.avancer runtime id data who =
      monde.set who (.ouverte
        (applied runtime id (data who) (Session.start monde.base))) := by
  have hwp : wp (updateFields runtime id (data who))
      (fun _ session => session = applied runtime id (data who)
        (Session.start monde.base)) (fun _ _ => False) (Session.start monde.base) :=
    wp_updateFields_iff.mpr ⟨haccepted, rfl⟩
  obtain ⟨_, session, hrun, rfl⟩ := wp_stop_false_iff.mp hwp
  rw [avancer_enAttente hattente, hrun]
  rfl

/-- The first step of any other body ends the request without success. -/
theorem avancer_refused (hattente : monde.avancement who = .enAttente)
    (hrefused : ¬ Accepted runtime monde.base.toTables id (data who)) :
    ∃ outcome : Outcome, ¬ outcome.Success ∧
      monde.avancer runtime id data who = monde.set who (.terminee outcome) := by
  obtain ⟨outcome, session, hrun, houtcome⟩ :=
    @exists_error_of_not_accepted runtime (Session.start monde.base) id (data who)
      hrefused
  rw [avancer_enAttente hattente, hrun]
  exact ⟨outcome, houtcome, rfl⟩

/-- A flush that fails raises an exception. -/
theorem stops_finish : Stops (fun outcome => ¬ outcome.Success) (finish id) := by
  refine Stops.bind ?_ fun _ => stops_pure _
  intro session
  rw [wp_flush]
  cases session.commit with
  | error throwable => exact fun hsuccess => hsuccess
  | ok result =>
      dsimp only
      split
      · trivial
      · exact fun hsuccess => hsuccess

/-- The second step of a request that read `base`: it commits its change set,
or it ends without success. -/
theorem avancer_pending {base : Base}
    (houverte : monde.avancement who = .ouverte
      (applied runtime id (data who) (Session.start base))) :
    (monde.avancer runtime id data who).base.toTables =
        committed runtime id (data who) base monde.base ∨
      ∃ outcome : Outcome, ¬ outcome.Success ∧
        (monde.avancer runtime id data who).avancement who = .terminee outcome := by
  have hstep : monde.avancer runtime id data who = monde.fermer who
      (finish id (pending runtime id (data who) base monde.base)) :=
    avancer_ouverte houverte
  rw [hstep]
  cases hrun : finish id (pending runtime id (data who) base monde.base) with
  | ok response final =>
      left
      have hwp : wp (finish id) (fun _ session => session = final)
          (fun _ _ => False) (pending runtime id (data who) base monde.base) :=
        wp_stop_false_iff.mpr ⟨response, final, hrun, rfl⟩
      rw [finish, wp_bind, wp_flush, commit_pending] at hwp
      dsimp only at hwp
      split at hwp
      · exact congrArg (fun session : Session => session.base.toTables) hwp.symm
      · exact hwp.elim
  | error outcome final =>
      right
      exact ⟨outcome, stops_finish.of_error hrun, avancement_set_self _ _ _⟩

/-- Two steps in a row are the whole request. -/
theorem base_avancer_avancer (hattente : monde.avancement who = .enAttente) :
    ((monde.avancer runtime id data who).avancer runtime id data who).base =
      (Requete.livreUpdate id (data who)).step runtime monde.base := by
  have hcalme := (calme_updateFields runtime id (data who)).wp
    (Session.start monde.base)
  have hstep : (Requete.livreUpdate id (data who)).step runtime monde.base =
      (serve (updateFields runtime id (data who) >>= fun _ => finish id)
        monde.base).2 := rfl
  have hbind : ∀ start, (updateFields runtime id (data who) >>= fun _ =>
      finish id) start = EStateM.bind (updateFields runtime id (data who))
        (fun _ => finish id) start := fun _ => rfl
  rw [hstep, avancer_enAttente hattente, serve, hbind]
  unfold wp at hcalme
  cases hrun : updateFields runtime id (data who) (Session.start monde.base) with
  | error outcome session =>
      rw [hrun] at hcalme
      have hended : (monde.ouvrir who (.error outcome session)).avancement who =
          .terminee outcome := avancement_set_self monde who _
      rw [avancer_terminee hended]
      simp only [EStateM.bind, hrun]
      exact (congrArg Prod.fst hcalme).symm
  | ok value session =>
      rw [hrun] at hcalme
      have hopened : (monde.ouvrir who (.ok value session)).avancement who =
          .ouverte session := avancement_set_self monde who _
      have hsame : { session with base := monde.base } = session := by
        have hbase : session.base = monde.base := congrArg Prod.fst hcalme
        rw [← hbase]
      rw [avancer_ouverte hopened]
      simp only [EStateM.bind, hrun]
      change (fermer _ who (finish id { session with base := monde.base })).base = _
      rw [hsame]
      cases finish id session with
      | ok response final => rfl
      | error outcome final => rfl

/-- A request that ended without success does not end with a 200. -/
theorem not_answered {outcome : Outcome} (hfailure : ¬ outcome.Success) :
    ¬ (Avancement.terminee outcome).Answered := by
  cases outcome with
  | thrown throwable => exact fun hanswered => hanswered
  | response sent =>
      intro hanswered
      have hstatus : sent.status = 200 := hanswered
      exact hfailure ⟨hstatus.ge, hstatus.trans_lt (by decide)⟩

/-- After its first step a request has an open session or has failed. -/
def Opened (runtime : Runtime) (id : ℕ) (data : Bool → Value) (base : Base)
    (who : Bool) (avancement : Avancement) : Prop :=
  (Accepted runtime base.toTables id (data who) ∧
      avancement = .ouverte (applied runtime id (data who) (Session.start base))) ∨
    ∃ outcome : Outcome, ¬ outcome.Success ∧ avancement = .terminee outcome

theorem opened_avancer (hattente : monde.avancement who = .enAttente) :
    (monde.avancer runtime id data who).base = monde.base ∧
      Opened runtime id data monde.base who
        ((monde.avancer runtime id data who).avancement who) := by
  by_cases haccepted : Accepted runtime monde.base.toTables id (data who)
  · rw [avancer_accepted hattente haccepted]
    exact ⟨rfl, Or.inl ⟨haccepted, avancement_set_self _ _ _⟩⟩
  · obtain ⟨outcome, hfailure, hstep⟩ := avancer_refused hattente haccepted
    rw [hstep]
    exact ⟨rfl, Or.inr ⟨outcome, hfailure, avancement_set_self _ _ _⟩⟩

/-- Both requests have made their first step. -/
theorem opened_both (base : Base) (opener : Bool) :
    let monde := ((initial base).avancer runtime id data opener).avancer runtime id
      data !opener
    monde.base = base ∧
      ∀ who, Opened runtime id data base who (monde.avancement who) := by
  intro monde
  have hne : (!opener) ≠ opener := by cases opener <;> decide
  obtain ⟨hbase, hopener⟩ := @opened_avancer runtime id data (initial base) opener rfl
  have hattente : ((initial base).avancer runtime id data opener).avancement
      (!opener) = .enAttente := avancement_avancer_of_ne hne
  obtain ⟨hbase', hother⟩ := @opened_avancer runtime id data _ (!opener) hattente
  rw [hbase] at hbase' hother
  refine ⟨hbase', ?_⟩
  intro who
  by_cases hwho : who = opener
  · subst hwho
    rw [avancement_avancer_of_ne hne.symm]
    exact hopener
  · have heq : who = !opener := by
      cases who <;> cases opener <;> simp_all
    rw [heq]
    exact hother

/-- The second step of an opened request that ends with a 200. -/
theorem committed_avancer {base : Base}
    (hopened : Opened runtime id data base who (monde.avancement who))
    (hanswered : ((monde.avancer runtime id data who).avancement who).Answered) :
    Accepted runtime base.toTables id (data who) ∧
      (monde.avancer runtime id data who).base.toTables =
        committed runtime id (data who) base monde.base := by
  rcases hopened with ⟨haccepted, houverte⟩ | ⟨outcome, hfailure, hended⟩
  · rcases avancer_pending houverte with hcommitted | ⟨outcome, hfailure, hended⟩
    · exact ⟨haccepted, hcommitted⟩
    · rw [hended] at hanswered
      exact absurd hanswered (not_answered hfailure)
  · rw [avancer_terminee hended, hended] at hanswered
    exact absurd hanswered (not_answered hfailure)

end Monde

/-! ## Serial and overlapped results -/

section Results

variable {runtime : Runtime} {id : ℕ} {data : Bool → Value} {base : Base}
variable {old : Livre}

theorem exists_who_iff (first : Bool) {property : Bool → Prop} :
    (∃ who, property who) ↔ property first ∨ property !first := by
  cases first with
  | false => exact Bool.exists_bool
  | true => exact Bool.exists_bool.trans or_comm

theorem serial_spec
    (haccepted : ∀ who, Accepted runtime base.toTables id (data who))
    (hold : base.livre.find id = some old) (first : Bool)
    (hfits : ((sent runtime (data first)).onRow old).store.Fits)
    (hfits' : ((sent runtime (data !first)).onRow
      ((sent runtime (data first)).onRow old).store).store.Fits) :
    (serial runtime id data base first).livre.find id =
        some ((sent runtime (data !first)).onRow
          ((sent runtime (data first)).onRow old).store).store ∧
      ∀ link, link ∈ (serial runtime id data base first).livreAuteur ↔
        link ∈ base.livreAuteur ∨
          link.1 = id ∧ ∃ who, link.2 ∈ (sent runtime (data who)).auteurs := by
  obtain ⟨hrow, hlinks, htransfer⟩ := step_update (haccepted first) hold hfits
  obtain ⟨hrow', hlinks', -⟩ :=
    step_update (htransfer _ (haccepted !first)) hrow hfits'
  refine ⟨hrow', ?_⟩
  intro link
  refine (hlinks' link).trans ?_
  rw [hlinks link, exists_who_iff first, and_or_left, or_assoc]

/-- The result of an overlapped run next to those of the two serial orders. -/
structure Compared (runtime : Runtime) (id : ℕ) (data : Bool → Value)
    (base final : Base) (first : Bool) (old : Livre) : Prop where
  row : final.livre.find id = some (Livre.write old
    ((sent runtime (data !first)).onRow old)
    ((sent runtime (data first)).onRow old).store).store
  row_first : (serial runtime id data base first).livre.find id =
    some ((sent runtime (data !first)).onRow
      ((sent runtime (data first)).onRow old).store).store
  row_second : (serial runtime id data base !first).livre.find id =
    some ((sent runtime (data first)).onRow
      ((sent runtime (data !first)).onRow old).store).store
  links : ∀ order link, link ∈ final.livreAuteur ↔
    link ∈ (serial runtime id data base order).livreAuteur

theorem compared_of_committed
    (haccepted : ∀ who, Accepted runtime base.toTables id (data who))
    (hold : base.livre.find id = some old) {first : Bool} {middle final : Base}
    (hmiddle : middle.toTables = committed runtime id (data first) base base)
    (hfinal : final.toTables = committed runtime id (data !first) base middle) :
    Compared runtime id data base final first old := by
  rw [committed_eq hold] at hmiddle hfinal
  have hmiddleRow : middle.livre.find id =
      some ((sent runtime (data first)).onRow old).store := by
    rw [hmiddle, Table.find_modify_self, hold, Option.map_some, Function.comp_apply,
      Livre.write_loaded]
  have hrow : final.livre.find id = some (Livre.write old
      ((sent runtime (data !first)).onRow old)
      ((sent runtime (data first)).onRow old).store).store := by
    rw [hfinal, Table.find_modify_self, hmiddleRow, Option.map_some, Function.comp_apply]
  have hfits : ∀ {state : Base} {row : Livre}, state.livre.find id = some row →
      row.Fits := fun hfind =>
    Base.valid _ |>.livre_fits _ ((Table.find_eq_some_iff _ _ _).mp hfind)
  have halone : (Livre.write old ((sent runtime (data first)).onRow old) old).store.Fits := by
    rw [Livre.write_loaded]
    exact hfits hmiddleRow
  have hfirst : ∀ {row : Livre}, row.Fits →
      ((sent runtime (data first)).onRow row).store.Fits := fun hrowFits =>
    fits_onRow_of_write (hfits hold) halone hrowFits
  have hsecond : ∀ {row : Livre}, row.Fits →
      ((sent runtime (data !first)).onRow row).store.Fits := fun hrowFits =>
    fits_onRow_of_write (hfits hold) (hfits hrow) hrowFits
  obtain ⟨hrowFirst, hlinksFirst⟩ := serial_spec haccepted hold first
    (hfirst (hfits hold)) (hsecond (hfirst (hfits hold)))
  obtain ⟨hrowSecond, hlinksSecond⟩ := serial_spec haccepted hold (!first)
    (hsecond (hfits hold)) (by
      rw [Bool.not_not]
      exact hfirst (hsecond (hfits hold)))
  rw [Bool.not_not] at hrowSecond
  have hlinks : ∀ link, link ∈ final.livreAuteur ↔
      link ∈ base.livreAuteur ∨
        link.1 = id ∧ ∃ who, link.2 ∈ (sent runtime (data who)).auteurs := by
    intro link
    rw [hfinal]
    dsimp only
    rw [hmiddle]
    dsimp only
    rw [List.mem_append, List.mem_append,
      mem_newLinks_pending (haccepted first).livre,
      mem_newLinks_pending (haccepted first).livre, exists_who_iff first]
    by_cases hlinked : link ∈ base.livreAuteur
    · simp only [hlinked, true_or]
    · simp only [hlinked, false_or, not_false_eq_true, and_true, and_or_left]
  refine ⟨hrow, hrowFirst, hrowSecond, ?_⟩
  intro order link
  rw [hlinks link]
  by_cases horder : order = first
  · rw [horder, hlinksFirst link]
  · have heq : order = !first := by
      cases order <;> cases first <;> simp_all
    rw [heq, hlinksSecond link]

/-- An overlapped run gives the row of one of the two orders unless one column
was skipped and another one contested. -/
theorem Compared.sameLivre_iff {final : Base} {first : Bool} (hfits : old.Fits)
    (hcompared : Compared runtime id data base final first old) :
    (∃ order, SameLivre id final (serial runtime id data base order)) ↔
      ¬ (SomeColumn SetBack old (sent runtime (data first))
          (sent runtime (data !first)) ∧
        SomeColumn Contested old (sent runtime (data first))
          (sent runtime (data !first))) := by
  have hfirst : SameLivre id final (serial runtime id data base first) ↔
      ¬ SomeColumn SetBack old (sent runtime (data first))
        (sent runtime (data !first)) := by
    rw [← write_eq_first_then_second_iff hfits, SameLivre, hcompared.row,
      hcompared.row_first, Option.some.injEq]
    exact and_iff_left (hcompared.links first)
  have hsecond : SameLivre id final (serial runtime id data base !first) ↔
      ¬ SomeColumn Contested old (sent runtime (data first))
        (sent runtime (data !first)) := by
    rw [← write_eq_second_then_first_iff hfits, SameLivre, hcompared.row,
      hcompared.row_second, Option.some.injEq]
    exact and_iff_left (hcompared.links !first)
  rw [not_and_or, ← hfirst, ← hsecond]
  cases first <;> simp only [Bool.exists_bool, Bool.not_true, Bool.not_false]
  exact or_comm

/-- The overlapped runs in which both requests answer 200. -/
theorem compared_of_overlapped {first : Bool} {schedule : List Bool}
    (hoverlapped : Overlapped first schedule)
    (hanswered : ∀ who, ((Run.run (Monde.avancer runtime id data)
      (Monde.initial base) schedule).avancement who).Answered) :
    ∃ old, base.livre.find id = some old ∧
      Compared runtime id data base (Run.run (Monde.avancer runtime id data)
        (Monde.initial base) schedule).base first old := by
  have hne : (!first) ≠ first := by cases first <;> decide
  obtain ⟨opened, hbase, hopened, hrun⟩ : ∃ opened : Monde, opened.base = base ∧
      (∀ who, Monde.Opened runtime id data base who (opened.avancement who)) ∧
      Run.run (Monde.avancer runtime id data) (Monde.initial base) schedule =
        (opened.avancer runtime id data first).avancer runtime id data !first := by
    rcases hoverlapped with rfl | rfl
    · obtain ⟨hbase, hopened⟩ := @Monde.opened_both runtime id data base first
      exact ⟨_, hbase, hopened, rfl⟩
    · obtain ⟨hbase, hopened⟩ := @Monde.opened_both runtime id data base !first
      rw [Bool.not_not] at hbase hopened
      exact ⟨_, hbase, hopened, rfl⟩
  rw [hrun] at hanswered ⊢
  have hfirstAnswered := hanswered first
  rw [Monde.avancement_avancer_of_ne hne.symm] at hfirstAnswered
  obtain ⟨haccepted, hmiddle⟩ :=
    Monde.committed_avancer (hopened first) hfirstAnswered
  have hsecondOpened := hopened !first
  rw [← Monde.avancement_avancer_of_ne hne] at hsecondOpened
  obtain ⟨haccepted', hfinal⟩ :=
    Monde.committed_avancer hsecondOpened (hanswered !first)
  obtain ⟨old, hold⟩ := Table.exists_find_of_mem_ids haccepted.livre
  refine ⟨old, hold, ?_⟩
  have hall : ∀ who, Accepted runtime base.toTables id (data who) := by
    intro who
    by_cases hwho : who = first
    · rw [hwho]
      exact haccepted
    · have heq : who = !first := by cases who <;> cases first <;> simp_all
      rw [heq]
      exact haccepted'
  rw [hbase] at hmiddle
  exact compared_of_committed hall hold hmiddle hfinal

end Results

/-! ## Every interleaving -/

instance (first : Bool) (schedule : List Bool) : Decidable (Overlapped first schedule) :=
  inferInstanceAs (Decidable (_ ∨ _))

/-- The two steps of each request in any order: one request entirely before the
other, or an overlap. -/
theorem schedule_cases {schedule : List Bool}
    (hschedule : schedule.Perm [false, false, true, true]) :
    (∃ first, schedule = [first, first, !first, !first] ∧
        ∀ other, ¬ Overlapped other schedule) ∨
      ∃ first, Overlapped first schedule ∧
        ∀ other, Overlapped other schedule → other = first := by
  have hlength : schedule.length = 4 := hschedule.length_eq
  obtain ⟨a, b, c, d, rfl⟩ : ∃ a b c d, schedule = [a, b, c, d] := by
    match schedule, hlength with
    | [a, b, c, d], _ => exact ⟨a, b, c, d, rfl⟩
  revert hschedule
  revert a b c d
  decide

/-- Two updates of one book that both answer 200, with their steps in any
order, leave the row and the links of one of the two serial orders, except when
they overlap and the second flush skips one column and overwrites another.
Even then the links are those of both orders and each column is that of one. -/
theorem interleaved_sameLivre_iff (runtime : Runtime) (base : Base) (id : ℕ)
    (data : Bool → Value) (schedule : List Bool)
    (hschedule : schedule.Perm [false, false, true, true])
    (hanswered : ∀ who, ((Run.run (Monde.avancer runtime id data)
      (Monde.initial base) schedule).avancement who).Answered) :
    ((∃ order, SameLivre id
        (Run.run (Monde.avancer runtime id data) (Monde.initial base) schedule).base
        (serial runtime id data base order)) ↔
      ∀ first old, Overlapped first schedule → base.livre.find id = some old →
        ¬ (SomeColumn SetBack old (sent runtime (data first))
            (sent runtime (data !first)) ∧
          SomeColumn Contested old (sent runtime (data first))
            (sent runtime (data !first)))) ∧
    ∀ first, Overlapped first schedule →
      (∀ order link, link ∈ (Run.run (Monde.avancer runtime id data)
          (Monde.initial base) schedule).base.livreAuteur ↔
        link ∈ (serial runtime id data base order).livreAuteur) ∧
      ∃ row left right,
        (Run.run (Monde.avancer runtime id data) (Monde.initial base)
          schedule).base.livre.find id = some row ∧
        (serial runtime id data base first).livre.find id = some left ∧
        (serial runtime id data base !first).livre.find id = some right ∧
        row.Mixes left right := by
  rcases schedule_cases hschedule with ⟨first, hserial, hnone⟩ | ⟨first, hoverlapped,
    honly⟩
  · have hbase : (Run.run (Monde.avancer runtime id data) (Monde.initial base)
        schedule).base = serial runtime id data base first := by
      have hne : (!first) ≠ first := by cases first <;> decide
      have hattente : (((Monde.initial base).avancer runtime id data first).avancer
          runtime id data first).avancement (!first) = .enAttente := by
        rw [Monde.avancement_avancer_of_ne hne, Monde.avancement_avancer_of_ne hne]
        rfl
      rw [hserial]
      simp only [Run.run_cons, Run.run_nil]
      rw [Monde.base_avancer_avancer hattente, Monde.base_avancer_avancer rfl]
      rfl
    refine ⟨iff_of_true ⟨first, ?_⟩ ?_, fun other hother => absurd hother (hnone other)⟩
    · rw [hbase]
      exact ⟨rfl, fun _ => Iff.rfl⟩
    · exact fun other _ hother => absurd hother (hnone other)
  · obtain ⟨old, hold, hcompared⟩ := compared_of_overlapped hoverlapped hanswered
    have hfits := base.valid.livre_fits _ ((Table.find_eq_some_iff _ _ _).mp hold)
    constructor
    · rw [hcompared.sameLivre_iff hfits]
      constructor
      · intro hnot other row hother hrow
        rw [honly other hother]
        rw [hold] at hrow
        cases hrow
        exact hnot
      · exact fun hall => hall first old hoverlapped hold
    · intro other hother
      rw [honly other hother]
      exact ⟨hcompared.links, _, _, _, hcompared.row, hcompared.row_first,
        hcompared.row_second, mixes_write hfits _ _⟩

/-- One request renames the book and changes its language, the other one sends
the old title and a third language. -/
def sampleBodies : Bool → Value
  | false => .object [("titre", .str "Persuasion"), ("langue", .str "FR")]
  | true => .object [("titre", .str "Emma"), ("langue", .str "DE")]

theorem interleaved_sample :
    [false, true, false, true].Perm [false, false, true, true] ∧
      ∃ row left right,
        (Run.run (Monde.avancer .dev 1 sampleBodies) (Monde.initial Base.sample)
          [false, true, false, true]).base.livre.find 1 = some row ∧
        (serial .dev 1 sampleBodies Base.sample false).livre.find 1 = some left ∧
        (serial .dev 1 sampleBodies Base.sample true).livre.find 1 = some right ∧
        row.Mixes left right := by
  have hanswered : ∀ who, ((Run.run (Monde.avancer .dev 1 sampleBodies)
      (Monde.initial Base.sample) [false, true, false, true]).avancement
        who).Answered := by
    decide
  exact ⟨by decide, ((interleaved_sameLivre_iff .dev Base.sample 1 sampleBodies _
    (by decide) hanswered).2 false (Or.inl rfl)).2⟩

/-- The stored book has the title of one request and the language of the other,
which neither serial order gives. -/
theorem interleaved_mixes_requests :
    ¬ ∀ (data : Bool → Value) (schedule : List Bool),
      schedule.Perm [false, false, true, true] →
      (∀ who, ((Run.run (Monde.avancer .dev 1 data) (Monde.initial Base.sample)
        schedule).avancement who).Answered) →
      ∃ order, SameLivre 1 (Run.run (Monde.avancer .dev 1 data)
        (Monde.initial Base.sample) schedule).base
        (serial .dev 1 data Base.sample order) := by
  intro hall
  obtain ⟨order, hrow, -⟩ := hall sampleBodies [false, true, false, true] (by decide)
    (by decide)
  revert hrow
  cases order <;> decide

end Bibliotheque
