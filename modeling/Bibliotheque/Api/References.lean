import Bibliotheque.Api.CirculationRequests
import Bibliotheque.Api.RequiredFields

/-!
# References to rows that do not exist

The bodies of books, loans and reservations name other rows by their ids: a
category, authors, a user, a book.  A well-formed request with a reference that
leads nowhere should be answered with 404.
-/

namespace Bibliotheque

open Program Bibliotheque.Action

/-- A date that the format `d/m/Y` reads. -/
def Value.IsDay (value : Value) : Prop :=
  ∃ date, value.IsString ∧ Runtime.createFromFormat DateTime.dmY value = .ok (some date)

/-- A date that the format `d/m/Y` reads and a column can hold. -/
def Value.FitsDay (value : Value) : Prop :=
  ∃ date, Runtime.createFromFormat DateTime.dmY value = .ok (some date) ∧ DateColumn date

theorem Value.IsDay.truthy {value : Value} (hday : value.IsDay) : value.truthy = true := by
  obtain ⟨date, ⟨text, rfl⟩, hread⟩ := hday
  obtain ⟨-, hread⟩ := Runtime.createFromFormat_str_eq_ok_iff.mp hread
  have hempty : text ≠ "" := by
    rintro rfl
    cases hread
  have hzero : text ≠ "0" := by
    rintro rfl
    cases hread
  simp [Value.truthy, hempty, hzero]

/-- An id always designates a row number. -/
theorem Value.IsNumber.exists_rowId {value : Value} (hnumber : value.IsNumber)
    (runtime : Runtime) : ∃ id, runtime.rowId value = .ok (some id) := by
  rcases hnumber with ⟨n, -, rfl⟩ | ⟨text, rfl, hempty, hdigits⟩
  · exact ⟨n, runtime.rowId_int n⟩
  · exact ⟨_, if_pos ⟨hempty, hdigits⟩⟩

/-- What `find` answers for an id. -/
theorem Value.IsNumber.wp_find {Row : Type} {value : Value} (hnumber : value.IsNumber)
    (runtime : Runtime) (table : Tables → Table Row) (session : Session) :
    ∃ found : Option ℕ,
      (found.isSome = true ↔ value.IsId runtime (table session.managed).ids) ∧
      ∀ (post : Option ℕ → Session → Prop) (stop : Outcome → Session → Prop),
        wp (find runtime table value) post stop session ↔ post found session := by
  obtain ⟨id, hid⟩ := hnumber.exists_rowId runtime
  by_cases hmem : id ∈ (table session.managed).ids
  · exact ⟨some id, iff_of_true rfl ⟨id, hmem, hid⟩,
      fun _ _ => wp_find_of_mem runtime hid hmem⟩
  · refine ⟨none, iff_of_false (by decide) ?_, fun _ _ => wp_find_of_not_mem runtime hid hmem⟩
    rintro ⟨other, hother, hread⟩
    cases hid.symm.trans hread
    exact hmem hother

/-! ## Loans -/

namespace EmpruntController

variable {runtime : Runtime} {base : Base} {data : Value} {row : Emprunt}

structure WellFormed (data : Value) : Prop where
  dateEmprunt : data.Required "dateEmprunt" Value.IsDay
  dateRetour : data.Required "dateRetour" Value.IsDay
  emprunteurId : data.Required "emprunteurId" Value.IsNumber
  livreId : data.Required "livreId" Value.IsNumber

/-- An id is the string `"0"`. -/
def HasZero (data : Value) : Prop := data.IsZero "emprunteurId" ∨ data.IsZero "livreId"

instance : Decidable (HasZero data) := inferInstanceAs (Decidable (_ ∨ _))

def FitsColumns (data : Value) : Prop :=
  data.Optional "dateEmprunt" Value.FitsDay ∧ data.Optional "dateRetour" Value.FitsDay

/-- A zero stops both handlers. -/
theorem wp_readBody_of_hasZero {post : Date × Date × Value × Value → Session → Prop}
    {stop : Outcome → Session → Prop} {session : Session} (hzero : HasZero data) :
    wp (readBody data) post stop session ↔
      stop (.response ⟨400, .object [("error", .str "Missing required fields")]⟩)
        session := by
  have hcondition : (Value.missing (data.field "dateEmprunt") ||
      Value.missing (data.field "dateRetour") ||
      Value.missing (data.field "emprunteurId") ||
      Value.missing (data.field "livreId")) = true := by
    rcases hzero with hzero | hzero
    · have hfield : data.field "emprunteurId" = some (.str "0") := hzero
      simp [hfield, Value.missing_str_iff]
    · have hfield : data.field "livreId" = some (.str "0") := hzero
      simp [hfield, Value.missing_str_iff]
  rw [readBody, wp_bind, wp_answerIf, hcondition]
  exact Iff.rfl

/-- Without a zero, reading a well-formed body leaves the two ids. -/
theorem WellFormed.wp_readBody (hwell : WellFormed data) (hzero : ¬ HasZero data) :
    ∃ dateEmprunt dateRetour emprunteurId livreId,
      (data.Gives "dateEmprunt" (Runtime.createFromFormat DateTime.dmY)
          (some dateEmprunt) ∧
        data.Gives "dateRetour" (Runtime.createFromFormat DateTime.dmY)
          (some dateRetour)) ∧
      ((data.field "emprunteurId" = some emprunteurId ∧ emprunteurId.IsNumber ∧
          emprunteurId.truthy = true) ∧
        data.field "livreId" = some livreId ∧ livreId.IsNumber ∧
          livreId.truthy = true) ∧
      ∀ (post : Date × Date × Value × Value → Session → Prop)
          (stop : Outcome → Session → Prop) (session : Session),
        wp (readBody data) post stop session ↔
          post (dateEmprunt, dateRetour, emprunteurId, livreId) session := by
  obtain ⟨emprunt, hemprunt, hemprunteDay⟩ := hwell.dateEmprunt
  obtain ⟨retour, hretour, hretourDay⟩ := hwell.dateRetour
  obtain ⟨emprunteurId, hemprunteurId, hnumber⟩ := hwell.emprunteurId
  obtain ⟨livreId, hlivreId, hlivreNumber⟩ := hwell.livreId
  have htrueEmprunteur : emprunteurId.truthy = true := by
    apply hnumber.truthy
    rintro rfl
    exact hzero (Or.inl hemprunteurId)
  have htrueLivre : livreId.truthy = true := by
    apply hlivreNumber.truthy
    rintro rfl
    exact hzero (Or.inr hlivreId)
  have htrueEmprunt := hemprunteDay.truthy
  have htrueRetour := hretourDay.truthy
  obtain ⟨dateEmprunt, -, hdateEmprunt⟩ := hemprunteDay
  obtain ⟨dateRetour, -, hdateRetour⟩ := hretourDay
  refine ⟨dateEmprunt, dateRetour, emprunteurId, livreId,
    ⟨⟨emprunt, hemprunt, htrueEmprunt, hdateEmprunt⟩,
      ⟨retour, hretour, htrueRetour, hdateRetour⟩⟩,
    ⟨⟨hemprunteurId, hnumber, htrueEmprunteur⟩, hlivreId, hlivreNumber, htrueLivre⟩, ?_⟩
  intro post stop session
  simp [readBody, hemprunt, hretour, hemprunteurId, hlivreId, Value.missing,
    htrueEmprunt, htrueRetour, htrueEmprunteur, htrueLivre, hdateEmprunt, hdateRetour]

/-- The borrower and the book of the body exist. -/
def Resolves (runtime : Runtime) (tables : Tables) (data : Value) : Prop :=
  data.Required "emprunteurId" (Value.IsId runtime tables.utilisateur.ids) ∧
    data.Required "livreId" (Value.IsId runtime tables.livre.ids)

/-- Both handlers up to the tests of what they have found. -/
theorem WellFormed.wp_body (hwell : WellFormed data) (hzero : ¬ HasZero data)
    (runtime : Runtime) (session : Session) :
    ∃ dateEmprunt dateRetour emprunteur livre,
      (emprunteur.isSome = true ∧ livre.isSome = true ↔
        Resolves runtime session.managed data) ∧
      ∀ (next : Date → Date → Option ℕ → Option ℕ → Action Response)
          (post : Response → Session → Prop) (stop : Outcome → Session → Prop),
        wp (readBody data >>= fun read =>
            find runtime Tables.utilisateur read.2.2.1 >>= fun emprunteur =>
              find runtime Tables.livre read.2.2.2 >>= fun livre =>
                next read.1 read.2.1 emprunteur livre) post stop session ↔
          wp (next dateEmprunt dateRetour emprunteur livre) post stop session := by
  obtain ⟨dateEmprunt, dateRetour, emprunteurId, livreId, -,
    ⟨⟨hemprunteurId, hnumber, -⟩, hlivreId, hlivreNumber, -⟩, hread⟩ := hwell.wp_readBody hzero
  obtain ⟨emprunteur, hemprunteur, hfind⟩ :=
    hnumber.wp_find runtime Tables.utilisateur session
  obtain ⟨livre, hlivre, hfindLivre⟩ := hlivreNumber.wp_find runtime Tables.livre session
  refine ⟨dateEmprunt, dateRetour, emprunteur, livre, ?_, fun next post stop => ?_⟩
  · rw [hemprunteur, hlivre, Resolves, Value.Required, Value.Required, hemprunteurId,
      hlivreId]
    simp
  · rw [wp_bind, hread, wp_bind, hfind, wp_bind, hfindLivre]

/-- The loan of a body whose references exist. -/
theorem WellFormed.exists_describes (hwell : WellFormed data) (hzero : ¬ HasZero data)
    {tables : Tables} (hresolves : Resolves runtime tables data) :
    ∃ row, Describes runtime tables data row := by
  obtain ⟨dateEmprunt, dateRetour, emprunteurId, livreId, ⟨hdateEmprunt, hdateRetour⟩,
    ⟨⟨hemprunteurId, -, htrueEmprunteur⟩, hlivreId, -, htrueLivre⟩, -⟩ :=
    hwell.wp_readBody hzero
  obtain ⟨⟨other, hother, emprunteur, hemprunteur, hfound⟩,
    otherLivre, hotherLivre, livre, hlivre, hfoundLivre⟩ := hresolves
  cases hemprunteurId.symm.trans hother
  cases hlivreId.symm.trans hotherLivre
  exact ⟨⟨dateEmprunt, some dateRetour, emprunteur, livre⟩,
    { dateEmprunt := hdateEmprunt
      dateRetour := ⟨dateRetour, rfl, hdateRetour⟩
      emprunteur := ⟨_, hemprunteurId, htrueEmprunteur, hfound⟩
      livre := ⟨_, hlivreId, htrueLivre, hfoundLivre⟩
      emprunteur_mem := hemprunteur
      livre_mem := hlivre }⟩

theorem Describes.fits_iff {tables : Tables} (hrow : Describes runtime tables data row) :
    row.Fits ↔ FitsColumns data := by
  obtain ⟨emprunt, hemprunt, -, hdateEmprunt⟩ := hrow.dateEmprunt
  obtain ⟨date, hdate, retour, hretour, -, hdateRetour⟩ := hrow.dateRetour
  rw [Emprunt.Fits, hdate, FitsColumns, Value.optional_iff_of_field hemprunt,
    Value.optional_iff_of_field hretour, Value.FitsDay, Value.FitsDay, hdateEmprunt,
    hdateRetour]
  simp

/-! ### `POST /api/emprunt` -/

theorem status_create_of_hasZero (hzero : HasZero data) :
    (serve (create runtime data) base).1.status = some 400 := by
  apply status_of_wp
  rw [create_eq, wp_bind, wp_readBody_of_hasZero hzero]
  rfl

theorem WellFormed.status_create_of_not_resolves (hwell : WellFormed data)
    (hzero : ¬ HasZero data) (hmissing : ¬ Resolves runtime base.toTables data) :
    (serve (create runtime data) base).1.status = some 404 := by
  apply status_of_wp
  obtain ⟨dateEmprunt, dateRetour, emprunteur, livre, hresolves, hbody⟩ :=
    hwell.wp_body hzero runtime (Session.start base)
  have hunknown : (emprunteur.isNone || livre.isNone) = true := by
    have hnot : ¬ (emprunteur.isSome = true ∧ livre.isSome = true) := by
      rw [hresolves]
      exact hmissing
    cases emprunteur with
    | none => rfl
    | some emprunteur =>
        cases livre with
        | none => rfl
        | some livre => exact absurd ⟨rfl, rfl⟩ hnot
  rw [create_eq, hbody, createResolved, wp_bind, wp_answerIf, hunknown]
  rfl

theorem WellFormed.status_create_of_fits (hwell : WellFormed data)
    (hzero : ¬ HasZero data) (hresolves : Resolves runtime base.toTables data)
    (hfits : FitsColumns data) :
    (serve (create runtime data) base).1.status = some 201 := by
  obtain ⟨row, hrow⟩ := hwell.exists_describes hzero hresolves
  have hvalid := hrow.valid_created_iff.mpr (hrow.fits_iff.mpr hfits)
  rw [hrow.serve_create hvalid]
  rfl

theorem throws_createResolved (dateEmprunt dateRetour : Date) (emprunteur livre : ℕ) :
    Throws (createResolved dateEmprunt dateRetour (some emprunteur) (some livre)) := by
  refine (stops_answerIf fun hnone => ?_).bind fun _ => (stops_persist _).bind fun _ => ?_
  · cases hnone
  · exact throws_flush.bind fun _ => stops_insertedId.bind fun _ => stops_pure _

theorem WellFormed.status_create_of_not_fits (hwell : WellFormed data)
    (hzero : ¬ HasZero data) (hresolves : Resolves runtime base.toTables data)
    (hfits : ¬ FitsColumns data) :
    (serve (create runtime data) base).1.status = none := by
  have hnot : ¬ Completes (create runtime data) (fun _ _ => True) (Session.start base) := by
    intro hend
    obtain ⟨row, hrow, hvalid, -⟩ :=
      (@completes_create_iff runtime base data fun _ _ => True).mp hend
    exact hfits (hrow.fits_iff.mp (hrow.valid_created_iff.mp hvalid))
  obtain ⟨dateEmprunt, dateRetour, emprunteur, livre, hfound, hbody⟩ :=
    hwell.wp_body hzero runtime (Session.start base)
  obtain ⟨hemprunteur, hlivre⟩ := hfound.mpr hresolves
  obtain ⟨emprunteur, rfl⟩ := Option.isSome_iff_exists.mp hemprunteur
  obtain ⟨livre, rfl⟩ := Option.isSome_iff_exists.mp hlivre
  rw [create_eq] at hnot ⊢
  exact (throws_createResolved _ _ _ _).status_eq_none (hbody createResolved) hnot

/-! ### `PUT /api/emprunt/{id}` -/

section Update

variable {id : ℕ} (hid : id ∈ base.emprunt.ids)

include hid

/-- The handler past the search for its target. -/
theorem wp_update_of_mem {post : Response → Session → Prop}
    {stop : Outcome → Session → Prop} :
    wp (update runtime id data) post stop (Session.start base) ↔
      wp (readBody data >>= fun read =>
        find runtime Tables.utilisateur read.2.2.1 >>= fun emprunteur =>
          find runtime Tables.livre read.2.2.2 >>= fun livre =>
            updateResolved id read.1 read.2.1 emprunteur livre) post stop
        (Session.start base) := by
  rw [update, wp_findPath_of_mem runtime hid]
  exact Iff.rfl

theorem status_update_of_hasZero (hzero : HasZero data) :
    (serve (update runtime id data) base).1.status = some 400 := by
  apply status_of_wp
  rw [wp_update_of_mem hid, wp_bind, wp_readBody_of_hasZero hzero]
  rfl

theorem WellFormed.status_update_of_not_resolves (hwell : WellFormed data)
    (hzero : ¬ HasZero data) (hmissing : ¬ Resolves runtime base.toTables data) :
    (serve (update runtime id data) base).1.status = some 404 := by
  apply status_of_wp
  obtain ⟨dateEmprunt, dateRetour, emprunteur, livre, hresolves, hbody⟩ :=
    hwell.wp_body hzero runtime (Session.start base)
  rw [wp_update_of_mem hid, hbody]
  cases emprunteur with
  | none => rfl
  | some emprunteur =>
      cases livre with
      | none => rfl
      | some livre => exact absurd (hresolves.mp ⟨rfl, rfl⟩) hmissing

theorem WellFormed.status_update_of_fits (hwell : WellFormed data)
    (hzero : ¬ HasZero data) (hresolves : Resolves runtime base.toTables data)
    (hfits : FitsColumns data) :
    (serve (update runtime id data) base).1.status = some 200 := by
  obtain ⟨row, hrow⟩ := hwell.exists_describes hzero hresolves
  have hvalid := (hrow.valid_modified_iff hid).mpr (hrow.fits_iff.mpr hfits)
  rw [hrow.serve_update hid hvalid]
  rfl

omit hid in
theorem throws_updateResolved (dateEmprunt dateRetour : Date) (emprunteur livre : ℕ) :
    Throws (updateResolved id dateEmprunt dateRetour (some emprunteur) (some livre)) := by
  refine (stops_modify _).bind fun _ => (stops_modify _).bind fun _ => ?_
  refine (stops_modify _).bind fun _ => (stops_modify _).bind fun _ => ?_
  exact throws_flush.bind fun _ => stops_pure _

theorem WellFormed.status_update_of_not_fits (hwell : WellFormed data)
    (hzero : ¬ HasZero data) (hresolves : Resolves runtime base.toTables data)
    (hfits : ¬ FitsColumns data) :
    (serve (update runtime id data) base).1.status = none := by
  have hnot : ¬ Completes (update runtime id data) (fun _ _ => True)
      (Session.start base) := by
    intro hend
    obtain ⟨-, row, hrow, hvalid, -⟩ :=
      (@completes_update_iff runtime base data id fun _ _ => True).mp hend
    exact hfits (hrow.fits_iff.mp ((hrow.valid_modified_iff hid).mp hvalid))
  obtain ⟨dateEmprunt, dateRetour, emprunteur, livre, hfound, hbody⟩ :=
    hwell.wp_body hzero runtime (Session.start base)
  obtain ⟨hemprunteur, hlivre⟩ := hfound.mpr hresolves
  obtain ⟨emprunteur, rfl⟩ := Option.isSome_iff_exists.mp hemprunteur
  obtain ⟨livre, rfl⟩ := Option.isSome_iff_exists.mp hlivre
  have hrun := fun post stop =>
    (@wp_update_of_mem runtime base data id hid post stop).trans
      (hbody (updateResolved id) post stop)
  exact (throws_updateResolved _ _ _ _).status_eq_none hrun hnot

end Update

end EmpruntController

/-! ## Reservations -/

namespace ReservationsController

variable {runtime : Runtime} {base : Base} {data : Value} {row : Reservations}

structure WellFormed (data : Value) : Prop where
  dateResa : data.Required "dateResa" Value.IsDay
  reservateurId : data.Required "reservateurId" Value.IsNumber
  livreId : data.Required "livreId" Value.IsNumber

/-- The user and the book of the body exist. -/
def Resolves (runtime : Runtime) (tables : Tables) (data : Value) : Prop :=
  data.Required "reservateurId" (Value.IsId runtime tables.utilisateur.ids) ∧
    data.Required "livreId" (Value.IsId runtime tables.livre.ids)

/-- The date fits its column, and the unique indexes have room for the
reservation of the body. -/
def HasRoom (runtime : Runtime) (base : Base) (id : Option ℕ) (data : Value) : Prop :=
  data.Optional "dateResa" Value.FitsDay ∧
    ∀ row, Describes runtime base.toTables data row → Free base id row

/-- Reading a well-formed body, by what its references lead to. -/
theorem WellFormed.wp_readBody (hwell : WellFormed data) (runtime : Runtime)
    (session : Session) :
    (Resolves runtime session.managed data → ∃ read, ∀ post stop,
        wp (readBody runtime data) post stop session ↔ post read session) ∧
      (¬ Resolves runtime session.managed data → ∃ body, ∀ post stop,
        wp (readBody runtime data) post stop session ↔
          stop (.response ⟨404, body⟩) session) := by
  obtain ⟨resa, hresa, date, -, hdate⟩ := hwell.dateResa
  obtain ⟨reservateurId, hreservateurId, hnumber⟩ := hwell.reservateurId
  obtain ⟨livreId, hlivreId, hlivreNumber⟩ := hwell.livreId
  obtain ⟨reservateur, hreservateur, hfind⟩ :=
    hnumber.wp_find runtime Tables.utilisateur session
  obtain ⟨livre, hlivre, hfindLivre⟩ := hlivreNumber.wp_find runtime Tables.livre session
  have hresolves : Resolves runtime session.managed data ↔
      reservateur.isSome = true ∧ livre.isSome = true := by
    rw [hreservateur, hlivre, Resolves, Value.Required, Value.Required, hreservateurId,
      hlivreId]
    simp
  rw [hresolves]
  simp only [readBody, hresa, hreservateurId, hlivreId, Option.isNone_some, Bool.or_self,
    Option.getD_some, hdate, wp_bind, wp_answerIf, wp_php_ok, Bool.false_eq_true, if_false,
    hfind]
  cases reservateur with
  | none =>
      exact ⟨fun hboth => absurd hboth.1 (by decide), fun _ => ⟨_, fun post stop => Iff.rfl⟩⟩
  | some reservateur =>
      simp only [wp_bind, hfindLivre]
      cases livre with
      | none =>
          exact ⟨fun hboth => absurd hboth.2 (by decide),
            fun _ => ⟨_, fun post stop => Iff.rfl⟩⟩
      | some livre =>
          exact ⟨fun _ => ⟨_, fun post stop => Iff.rfl⟩,
            fun hnot => absurd ⟨rfl, rfl⟩ hnot⟩

/-- The reservation of a body whose references exist. -/
theorem WellFormed.exists_describes (hwell : WellFormed data) {tables : Tables}
    (hresolves : Resolves runtime tables data) : ∃ row, Describes runtime tables data row := by
  obtain ⟨resa, hresa, date, -, hdate⟩ := hwell.dateResa
  obtain ⟨⟨reservateurId, hreservateurId, reservateur, hreservateur, hfound⟩,
    livreId, hlivreId, livre, hlivre, hfoundLivre⟩ := hresolves
  exact ⟨⟨date, livre, reservateur⟩,
    { dateResa := ⟨resa, hresa, hdate⟩
      reservateur := ⟨reservateurId, hreservateurId, hfound⟩
      livre := ⟨livreId, hlivreId, hfoundLivre⟩
      reservateur_mem := hreservateur
      livre_mem := hlivre }⟩

/-- A body describes one reservation only. -/
theorem Describes.unique {tables : Tables} {left right : Reservations}
    (hleft : Describes runtime tables data left)
    (hright : Describes runtime tables data right) : left = right := by
  obtain ⟨resa, hresa, hdate⟩ := hleft.dateResa
  obtain ⟨resa', hresa', hdate'⟩ := hright.dateResa
  obtain ⟨reservateur, hreservateur, hid⟩ := hleft.reservateur
  obtain ⟨reservateur', hreservateur', hid'⟩ := hright.reservateur
  obtain ⟨livre, hlivre, hlivreId⟩ := hleft.livre
  obtain ⟨livre', hlivre', hlivreId'⟩ := hright.livre
  cases hresa.symm.trans hresa'
  cases hreservateur.symm.trans hreservateur'
  cases hlivre.symm.trans hlivre'
  cases left with
  | mk date book user =>
      cases right with
      | mk date' book' user' =>
          cases hdate.symm.trans hdate'
          cases hid.symm.trans hid'
          cases hlivreId.symm.trans hlivreId'
          rfl

/-- Both columns and indexes, read off the body. -/
theorem Describes.hasRoom_iff {id : Option ℕ}
    (hrow : Describes runtime base.toTables data row) :
    HasRoom runtime base id data ↔ row.Fits ∧ Free base id row := by
  obtain ⟨resa, hresa, hdate⟩ := hrow.dateResa
  have hday : Value.FitsDay resa ↔ row.Fits := by
    rw [Value.FitsDay, hdate, Reservations.Fits]
    simp
  rw [HasRoom, Value.optional_iff_of_field hresa, hday]
  refine and_congr Iff.rfl ⟨fun hfree => hfree row hrow, fun hfree other hother => ?_⟩
  rw [hother.unique hrow]
  exact hfree

/-! ### `POST /api/reservations` -/

theorem WellFormed.status_create_of_not_resolves (hwell : WellFormed data)
    (hmissing : ¬ Resolves runtime base.toTables data) :
    (serve (create runtime data) base).1.status = some 404 := by
  apply status_of_wp
  obtain ⟨body, hread⟩ := (hwell.wp_readBody runtime (Session.start base)).2 hmissing
  rw [create, wp_bind, hread]
  rfl

theorem WellFormed.status_create_of_hasRoom (hwell : WellFormed data)
    (hresolves : Resolves runtime base.toTables data)
    (hroom : HasRoom runtime base none data) :
    (serve (create runtime data) base).1.status = some 201 := by
  obtain ⟨row, hrow⟩ := hwell.exists_describes hresolves
  obtain ⟨hfits, hfree⟩ := hrow.hasRoom_iff.mp hroom
  rw [hrow.serve_create (hrow.valid_created hfits hfree)]
  rfl

theorem WellFormed.status_create_of_not_hasRoom (hwell : WellFormed data)
    (hresolves : Resolves runtime base.toTables data)
    (hroom : ¬ HasRoom runtime base none data) :
    (serve (create runtime data) base).1.status = none := by
  have hnot : ¬ Completes (create runtime data) (fun _ _ => True) (Session.start base) := by
    intro hend
    obtain ⟨row, hrow, hvalid, -⟩ :=
      (@completes_create_iff runtime base data fun _ _ => True).mp hend
    exact hroom (hrow.hasRoom_iff.mpr
      ⟨fits_of_valid_created hvalid, free_of_valid_created hvalid⟩)
  obtain ⟨⟨dateResa, reservateur, livre⟩, hread⟩ :=
    (hwell.wp_readBody runtime (Session.start base)).1 hresolves
  have hstored : ∀ post stop, wp (create runtime data) post stop (Session.start base) ↔
      wp (persist (newReservations ⟨dateResa, livre, reservateur⟩) >>= fun _ =>
        flush >>= fun _ => do
          return ⟨201, .object [("message", .str "Reservation created"),
            ("id", ← insertedId)]⟩) post stop (Session.start base) := by
    intro post stop
    rw [create, wp_bind, hread]
    rfl
  refine Throws.status_eq_none ((stops_persist _).bind fun _ => ?_) hstored hnot
  exact throws_flush.bind fun _ => stops_insertedId.bind fun _ => stops_pure _

/-! ### `PUT /api/reservations/{id}` -/

section Update

variable {id : ℕ} (hid : id ∈ base.reservations.ids)

include hid

theorem WellFormed.status_update_of_not_resolves (hwell : WellFormed data)
    (hmissing : ¬ Resolves runtime base.toTables data) :
    (serve (update runtime id data) base).1.status = some 404 := by
  apply status_of_wp
  obtain ⟨body, hread⟩ := (hwell.wp_readBody runtime (Session.start base)).2 hmissing
  rw [update, wp_findPath_of_mem runtime hid]
  dsimp only
  rw [wp_bind, hread]
  rfl

theorem WellFormed.status_update_of_hasRoom (hwell : WellFormed data)
    (hresolves : Resolves runtime base.toTables data)
    (hroom : HasRoom runtime base (some id) data) :
    (serve (update runtime id data) base).1.status = some 200 := by
  obtain ⟨row, hrow⟩ := hwell.exists_describes hresolves
  obtain ⟨hfits, hfree⟩ := hrow.hasRoom_iff.mp hroom
  rw [hrow.serve_update hid (hrow.valid_modified hfits hfree)]
  rfl

theorem WellFormed.status_update_of_not_hasRoom (hwell : WellFormed data)
    (hresolves : Resolves runtime base.toTables data)
    (hroom : ¬ HasRoom runtime base (some id) data) :
    (serve (update runtime id data) base).1.status = none := by
  have hnot : ¬ Completes (update runtime id data) (fun _ _ => True)
      (Session.start base) := by
    intro hend
    obtain ⟨-, row, hrow, hvalid, -⟩ :=
      (@completes_update_iff runtime base data id fun _ _ => True).mp hend
    exact hroom (hrow.hasRoom_iff.mpr
      ⟨fits_of_valid_modified hid hvalid, free_of_valid_modified hid hvalid⟩)
  have hset : ∀ rewrite, Throws (setReservations id rewrite) := fun _ => stops_modify _
  obtain ⟨⟨dateResa, reservateur, livre⟩, hread⟩ :=
    (hwell.wp_readBody runtime (Session.start base)).1 hresolves
  have hstored : ∀ post stop, wp (update runtime id data) post stop (Session.start base) ↔
      wp (setReservations id ({ · with dateResa := dateResa }) >>= fun _ =>
        setReservations id ({ · with reservateur := reservateur }) >>= fun _ =>
          setReservations id ({ · with livre := livre }) >>= fun _ =>
            flush >>= fun _ => pure ⟨200, .object [("message", .str "Reservation updated")]⟩)
        post stop (Session.start base) := by
    intro post stop
    rw [update, wp_findPath_of_mem runtime hid]
    dsimp only
    rw [wp_bind, hread]
  refine Throws.status_eq_none ((hset _).bind fun _ => (hset _).bind fun _ => ?_) hstored hnot
  exact (hset _).bind fun _ => throws_flush.bind fun _ => stops_pure _

end Update

end ReservationsController

/-! ## Books -/

/-- A date that `new \DateTime` reads. -/
def Value.IsMoment (runtime : Runtime) (value : Value) : Prop :=
  value.IsString ∧ ∃ date, runtime.newDateTime value = .ok date

/-- A date that `new \DateTime` reads and a column can hold. -/
def Value.FitsMoment (runtime : Runtime) (value : Value) : Prop :=
  ∃ date, runtime.newDateTime value = .ok date ∧ DateColumn date

/-- A value that a string parameter takes and a `VARCHAR(size)` column stores, if
need be without excess spaces. -/
def Value.FitsText (size : ℕ) (value : Value) : Prop :=
  ∃ text, value.toString = .ok text ∧ Varchar.Takes size text

theorem Value.fitsText_str_iff (size : ℕ) (text : String) :
    Value.FitsText size (.str text) ↔ Varchar.Takes size text := by
  simp [Value.FitsText, Value.toString]

/-- A key that may hold a text is a nullable string. -/
theorem Value.exists_nullableString {data : Value} {key : String}
    (hkey : data.Optional key Value.IsString) :
    ∃ text : Option String, data.field key = text.map .str ∧
      Value.toNullableString (data.field key) = .ok text := by
  cases hfield : data.field key with
  | none => exact ⟨none, rfl, rfl⟩
  | some given =>
      obtain ⟨text, rfl⟩ := hkey given hfield
      exact ⟨some text, rfl, rfl⟩

namespace LivreController

variable {runtime : Runtime} {base : Base} {data : Value} {row : Livre}

structure CreateWellFormed (runtime : Runtime) (data : Value) : Prop where
  titre : ∃ text, data.Holds "titre" text
  dateSortie : ∃ text date, data.Holds "dateSortie" text ∧
    runtime.newDateTime (.str text) = .ok date
  langue : ∃ text, data.Holds "langue" text
  photoCouverture : data.Optional "photoCouverture" Value.IsString
  categorieId : data.Required "categorieId" Value.IsNumber
  auteurIds : ∃ items, data.field "auteurIds" = some (.list items) ∧ items ≠ [] ∧
    ∀ item ∈ items, item.IsNumber

structure UpdateWellFormed (runtime : Runtime) (data : Value) : Prop where
  titre : data.Optional "titre" Value.IsString
  dateSortie : data.Optional "dateSortie" (Value.IsMoment runtime)
  langue : data.Optional "langue" Value.IsString
  photoCouverture : data.Optional "photoCouverture" Value.IsString
  categorieId : data.Optional "categorieId" Value.IsNumber
  auteurIds : data.Optional "auteurIds" fun value =>
    ∃ items, value = .list items ∧ ∀ item ∈ items, item.IsNumber

/-- The category and all the authors of the body exist. -/
def Resolves (runtime : Runtime) (tables : Tables) (data : Value) : Prop :=
  data.Optional "categorieId" (Value.IsId runtime tables.categorie.ids) ∧
    data.Optional "auteurIds" (Value.IsIds runtime tables.auteur.ids)

/-- The columns of the book take what the body gives for them. -/
structure FitsColumns (runtime : Runtime) (data : Value) : Prop where
  titre : data.Optional "titre" (Value.FitsText 255)
  dateSortie : data.Optional "dateSortie" (Value.FitsMoment runtime)
  langue : data.Optional "langue" (Value.FitsText 255)
  photoCouverture : data.Optional "photoCouverture" (Value.FitsText 255)

/-! ### The loop over the authors -/

theorem isIds_list_iff (ids : List ℕ) (items : List Value) :
    Value.IsIds runtime ids (.list items) ↔ ∀ item ∈ items, item.IsId runtime ids := by
  simp [Value.IsIds]

section Loop

variable {livre : Ref} {missing : Action Unit} {items : List Value}

/-- The turn of an existing author. -/
theorem wp_linkAuteur_of_known {item : Value} {session : Session}
    (hknown : item.IsId runtime session.managed.auteur.ids) :
    ∃ auteur, ∀ post stop, wp (linkAuteur runtime livre missing item) post stop session ↔
      post () { session with liens := session.liens.addAuteur livre (.managed auteur) } := by
  obtain ⟨auteur, hauteur, hid⟩ := hknown
  refine ⟨auteur, fun post stop => ?_⟩
  rw [linkAuteur, wp_bind, wp_find_of_mem runtime hid hauteur]
  rfl

/-- The turn of an unknown author is what the handler does about it. -/
theorem wp_linkAuteur_of_unknown {item : Value} {session : Session}
    (hnumber : item.IsNumber)
    (hunknown : ¬ item.IsId runtime session.managed.auteur.ids)
    (post : Unit → Session → Prop) (stop : Outcome → Session → Prop) :
    wp (linkAuteur runtime livre missing item) post stop session ↔
      wp missing post stop session := by
  obtain ⟨id, hid⟩ := hnumber.exists_rowId runtime
  have habsent : id ∉ session.managed.auteur.ids := fun hmem => hunknown ⟨id, hmem, hid⟩
  rw [linkAuteur, wp_bind, wp_find_of_not_mem runtime hid habsent]

/-- With existing authors only, the loop runs to its end. -/
theorem wp_forM_linkAuteur_of_known {session : Session}
    (hknown : ∀ item ∈ items, item.IsId runtime session.managed.auteur.ids) :
    ∃ final, ∀ post stop, wp (items.forM (linkAuteur runtime livre missing)) post stop
      session ↔ post () final := by
  induction items generalizing session with
  | nil => exact ⟨session, fun _ _ => Iff.rfl⟩
  | cons item items ih =>
      obtain ⟨auteur, hturn⟩ :=
        @wp_linkAuteur_of_known runtime livre missing item session (hknown item (by simp))
      obtain ⟨final, hfinal⟩ := @ih
        { session with liens := session.liens.addAuteur livre (.managed auteur) }
        fun other hother => hknown other (by simp [hother])
      refine ⟨final, fun post stop => ?_⟩
      change wp (linkAuteur runtime livre missing item >>= fun _ => items.forM _) _ _ _ ↔ _
      rw [wp_bind, hturn, hfinal]

/-- The loop stops at its first unknown author, wherever it stands in the list. -/
theorem wp_forM_linkAuteur_of_unknown (hnumbers : ∀ item ∈ items, item.IsNumber)
    {session : Session}
    (hunknown : ∃ item ∈ items, ¬ item.IsId runtime session.managed.auteur.ids) :
    ∃ final next, ∀ post stop, wp (items.forM (linkAuteur runtime livre missing)) post stop
      session ↔ wp (missing >>= next) post stop final := by
  induction items generalizing session with
  | nil =>
      obtain ⟨item, hitem, -⟩ := hunknown
      cases hitem
  | cons item items ih =>
      by_cases hknown : item.IsId runtime session.managed.auteur.ids
      · obtain ⟨auteur, hturn⟩ :=
          @wp_linkAuteur_of_known runtime livre missing item session hknown
        have hrest : ∃ other ∈ items,
            ¬ other.IsId runtime session.managed.auteur.ids := by
          obtain ⟨other, hother, hmissing⟩ := hunknown
          rcases List.mem_cons.mp hother with rfl | hother
          · exact absurd hknown hmissing
          · exact ⟨other, hother, hmissing⟩
        obtain ⟨final, next, hfinal⟩ :=
          @ih (fun other hother => hnumbers other (by simp [hother]))
            { session with liens := session.liens.addAuteur livre (.managed auteur) } hrest
        refine ⟨final, next, fun post stop => ?_⟩
        change wp (linkAuteur runtime livre missing item >>= fun _ => items.forM _) _ _ _ ↔ _
        rw [wp_bind, hturn, hfinal]
      · refine ⟨session, fun _ => items.forM (linkAuteur runtime livre missing),
          fun post stop => ?_⟩
        change wp (linkAuteur runtime livre missing item >>= fun _ => items.forM _) _ _ _ ↔ _
        rw [wp_bind, wp_linkAuteur_of_unknown (hnumbers item (by simp)) hknown, wp_bind]

end Loop

/-! ### `POST /api/livre` -/

theorem CreateWellFormed.typed (hwell : CreateWellFormed runtime data) : Typed data := by
  obtain ⟨titre, htitre⟩ := hwell.titre
  obtain ⟨moment, date, hmoment, -⟩ := hwell.dateSortie
  obtain ⟨langue, hlangue⟩ := hwell.langue
  obtain ⟨categorieId, hcategorieId, hnumber⟩ := hwell.categorieId
  obtain ⟨items, hitems, -, hnumbers⟩ := hwell.auteurIds
  exact
    { titre := Value.optional_of_field htitre.1 ⟨titre, rfl⟩
      dateSortie := Value.optional_of_field hmoment.1 ⟨moment, rfl⟩
      langue := Value.optional_of_field hlangue.1 ⟨langue, rfl⟩
      photoCouverture := hwell.photoCouverture
      categorieId := Value.optional_of_field hcategorieId (Or.inl hnumber)
      auteurIds := Value.optional_of_field hitems ⟨items, rfl, hnumbers⟩ }

theorem status_create_of_hasZero (hwell : CreateWellFormed runtime data)
    (hzero : HasZero data) :
    (serve (create runtime data) base).1.status = some 400 := by
  rw [serve_create_of_lacking (hwell.typed.lacking_iff.mpr (Or.inr hzero))]
  rfl

/-- `create` from the search for the category on. -/
def createLinked (runtime : Runtime) (row : ℕ → Livre) (auteurIds : List Value) :
    Option ℕ → Action Response
  | some categorie => do
      foreach runtime (.list auteurIds)
        (linkAuteur runtime .fresh (answer 404 [("error", .str "Author not found")]))
      persist (newLivre (row categorie))
      flush
      return ⟨201, .object [("message", .str "Livre created"), ("id", ← insertedId)]⟩
  | none => answer 404 [("error", .str "Category not found")]

/-- Without a zero, a well-formed body reaches the search for its category. -/
theorem CreateWellFormed.wp_create (hwell : CreateWellFormed runtime data)
    (hzero : ¬ HasZero data) :
    ∃ (row : ℕ → Livre) (categorieId : Value) (items : List Value),
      (data.field "categorieId" = some categorieId ∧ categorieId.IsNumber) ∧
      (data.field "auteurIds" = some (.list items) ∧ ∀ item ∈ items, item.IsNumber) ∧
      ∀ post stop session, wp (create runtime data) post stop session ↔
        wp (find runtime Tables.categorie categorieId >>= createLinked runtime row items)
          post stop session := by
  obtain ⟨titre, htitre⟩ := hwell.titre
  obtain ⟨moment, date, hmoment, hdate⟩ := hwell.dateSortie
  obtain ⟨langue, hlangue⟩ := hwell.langue
  obtain ⟨categorieId, hcategorieId, hnumber⟩ := hwell.categorieId
  obtain ⟨items, hitems, hne, hnumbers⟩ := hwell.auteurIds
  obtain ⟨photo, hphotoField, hphoto⟩ := Value.exists_nullableString hwell.photoCouverture
  have htitreTrue := htitre.truthy fun h => hzero (Or.inl h)
  have hmomentTrue := hmoment.truthy fun h => hzero (Or.inr (Or.inl h))
  have hlangueTrue := hlangue.truthy fun h => hzero (Or.inr (Or.inr (Or.inl h)))
  have hcategorieTrue : categorieId.truthy = true := by
    apply hnumber.truthy
    rintro rfl
    exact hzero (Or.inr (Or.inr (Or.inr hcategorieId)))
  have hitemsTrue := (Value.truthy_list_iff items).mpr hne
  refine ⟨fun categorie => ⟨titre, date, langue, photo, categorie⟩, categorieId, items,
    ⟨hcategorieId, hnumber⟩, ⟨hitems, hnumbers⟩, fun post stop session => ?_⟩
  obtain ⟨found, -, hfind⟩ := hnumber.wp_find runtime Tables.categorie session
  simp only [create, htitre.1, hmoment.1, hlangue.1, hcategorieId, hitems,
    Option.getD_some, Value.missing, Option.any_some, htitreTrue, hmomentTrue, hlangueTrue,
    hcategorieTrue, hitemsTrue, Bool.not_true, Bool.or_self, wp_bind, wp_answerIf,
    Bool.false_eq_true, if_false, Value.toString, hdate, hphoto, wp_php_ok, hfind]
  cases found with
  | none => exact Iff.rfl
  | some categorie => exact Iff.rfl

theorem CreateWellFormed.status_create_of_not_resolves
    (hwell : CreateWellFormed runtime data) (hzero : ¬ HasZero data)
    (hmissing : ¬ Resolves runtime base.toTables data) :
    (serve (create runtime data) base).1.status = some 404 := by
  apply status_of_wp
  obtain ⟨row, categorieId, items, ⟨hcategorieId, hnumber⟩, ⟨hitems, hnumbers⟩, hrun⟩ :=
    hwell.wp_create hzero
  obtain ⟨found, hfound, hfind⟩ :=
    hnumber.wp_find runtime Tables.categorie (Session.start base)
  rw [hrun, wp_bind, hfind]
  cases found with
  | none => rfl
  | some categorie =>
      have hunknown : ∃ item ∈ items, ¬ item.IsId runtime base.auteur.ids := by
        by_contra hall
        simp only [not_exists, not_and, not_not] at hall
        refine hmissing ⟨Value.optional_of_field hcategorieId (hfound.mp rfl), ?_⟩
        exact Value.optional_of_field hitems ((isIds_list_iff _ _).mpr hall)
      obtain ⟨final, next, hloop⟩ := @wp_forM_linkAuteur_of_unknown runtime .fresh
        (answer 404 [("error", .str "Author not found")]) items hnumbers
        (Session.start base) hunknown
      rw [createLinked, wp_bind, foreach, Value.elements_list]
      dsimp only
      rw [hloop, wp_bind]
      rfl

/-- The book of a well-formed body whose references exist. -/
theorem CreateWellFormed.exists_asksFor (hwell : CreateWellFormed runtime data)
    {tables : Tables} (hresolves : Resolves runtime tables data) :
    ∃ row, AsksFor runtime tables data row := by
  obtain ⟨titre, htitre⟩ := hwell.titre
  obtain ⟨moment, date, hmoment, hdate⟩ := hwell.dateSortie
  obtain ⟨langue, hlangue⟩ := hwell.langue
  obtain ⟨categorieId, hcategorieId, hnumber⟩ := hwell.categorieId
  obtain ⟨items, hitems, hne, -⟩ := hwell.auteurIds
  obtain ⟨photo, hphoto, -⟩ := Value.exists_nullableString hwell.photoCouverture
  obtain ⟨categorie, hcategorie, hid⟩ := hresolves.1 categorieId hcategorieId
  exact ⟨⟨titre, date, langue, photo, categorie⟩,
    { titre := htitre
      dateSortie := ⟨moment, hmoment, hdate⟩
      langue := hlangue
      photoCouverture := hphoto
      categorie := ⟨categorieId, hcategorieId, hnumber, hid⟩
      categorie_mem := hcategorie
      auteurs := ⟨items, hitems, hne,
        (isIds_list_iff _ _).mp (hresolves.2 _ hitems)⟩ }⟩

/-- The columns, read off the body. -/
theorem AsksFor.fits_iff {tables : Tables} (hasks : AsksFor runtime tables data row) :
    row.store.Fits ↔ FitsColumns runtime data := by
  obtain ⟨moment, hmoment, hdate⟩ := hasks.dateSortie
  have htitre : data.Optional "titre" (Value.FitsText 255) ↔ Varchar.Takes 255 row.titre := by
    rw [Value.optional_iff_of_field hasks.titre.1, Value.fitsText_str_iff]
  have hday : data.Optional "dateSortie" (Value.FitsMoment runtime) ↔
      DateColumn row.dateSortie := by
    rw [Value.optional_iff_of_field hmoment.1, Value.FitsMoment, hdate]
    simp
  have hlangue : data.Optional "langue" (Value.FitsText 255) ↔ Varchar.Takes 255 row.langue := by
    rw [Value.optional_iff_of_field hasks.langue.1, Value.fitsText_str_iff]
  have hphoto : data.Optional "photoCouverture" (Value.FitsText 255) ↔
      ∀ photo ∈ row.photoCouverture, Varchar.Takes 255 photo := by
    rw [Value.Optional, hasks.photoCouverture]
    simp [Value.fitsText_str_iff]
  rw [Livre.fits_store_iff]
  constructor
  · rintro ⟨hfitsTitre, hfitsDate, hfitsLangue, hfitsPhoto⟩
    exact ⟨htitre.mpr hfitsTitre, hday.mpr hfitsDate, hlangue.mpr hfitsLangue,
      hphoto.mpr hfitsPhoto⟩
  · rintro ⟨hfitsTitre, hfitsDate, hfitsLangue, hfitsPhoto⟩
    exact ⟨htitre.mp hfitsTitre, hday.mp hfitsDate, hlangue.mp hfitsLangue,
      hphoto.mp hfitsPhoto⟩

theorem CreateWellFormed.status_create_of_fits (hwell : CreateWellFormed runtime data)
    (hzero : ¬ HasZero data) (hresolves : Resolves runtime base.toTables data)
    (hfits : FitsColumns runtime data) :
    (serve (create runtime data) base).1.status = some 201 := by
  obtain ⟨row, hasks⟩ := hwell.exists_asksFor hresolves
  rw [(hasks.describes hzero).serve_create (hasks.fits_iff.mpr hfits)]
  rfl

theorem CreateWellFormed.status_create_of_not_fits (hwell : CreateWellFormed runtime data)
    (hzero : ¬ HasZero data) (hresolves : Resolves runtime base.toTables data)
    (hfits : ¬ FitsColumns runtime data) :
    (serve (create runtime data) base).1.status = none := by
  obtain ⟨asked, hasks⟩ := hwell.exists_asksFor hresolves
  have hnot : ¬ Completes (create runtime data) (fun _ _ => True) (Session.start base) := by
    intro hend
    obtain ⟨other, hother, hvalid, -⟩ :=
      (@completes_create_iff runtime base data fun _ _ => True).mp hend
    rw [hother.unique (hasks.describes hzero)] at hvalid
    exact hfits (hasks.fits_iff.mp
      ((hasks.describes hzero).valid_created_iff.mp hvalid))
  obtain ⟨row, categorieId, items, ⟨hcategorieId, hnumber⟩, ⟨hitems, hnumbers⟩, hrun⟩ :=
    hwell.wp_create hzero
  obtain ⟨categorie, hcategorie, hid⟩ := hresolves.1 categorieId hcategorieId
  obtain ⟨final, hloop⟩ := @wp_forM_linkAuteur_of_known runtime .fresh
    (answer 404 [("error", .str "Author not found")]) items (Session.start base)
    ((isIds_list_iff _ _).mp (hresolves.2 _ hitems))
  have hstored : ∀ post stop, wp (create runtime data) post stop (Session.start base) ↔
      wp (persist (newLivre (row categorie)) >>= fun _ => flush >>= fun _ => do
        return ⟨201, .object [("message", .str "Livre created"), ("id", ← insertedId)]⟩)
        post stop final := by
    intro post stop
    rw [hrun, wp_bind, wp_find_of_mem runtime hid hcategorie, createLinked, wp_bind, foreach,
      Value.elements_list]
    dsimp only
    rw [hloop]
  refine Throws.status_eq_none ((stops_persist _).bind fun _ => ?_) hstored hnot
  exact throws_flush.bind fun _ => stops_insertedId.bind fun _ => stops_pure _

/-! ### `PUT /api/livre/{id}` -/

section Update

variable {id : ℕ} (hid : id ∈ base.livre.ids)

include hid

theorem UpdateWellFormed.accepted_iff (hwell : UpdateWellFormed runtime data) :
    Accepted runtime base.toTables id data ↔ Resolves runtime base.toTables data := by
  have htext : ∀ {key}, data.Optional key Value.IsString → ∀ given,
      data.field key = some given → ∃ text, given.toString = .ok text := by
    intro key hkey given hgiven
    obtain ⟨text, rfl⟩ := hkey given hgiven
    exact ⟨text, rfl⟩
  constructor
  · intro haccepted
    refine ⟨haccepted.categorie, fun given hgiven => ?_⟩
    obtain ⟨items, rfl, -⟩ := hwell.auteurIds given hgiven
    apply (isIds_list_iff _ _).mpr
    exact (haccepted.auteurs _ hgiven).2 items (Value.elements_list items)
  · rintro ⟨hcategorie, hauteurs⟩
    exact
      { livre := hid
        titre := htext hwell.titre
        dateSortie := fun given hgiven => (hwell.dateSortie given hgiven).2
        langue := htext hwell.langue
        photoCouverture := htext hwell.photoCouverture
        categorie := hcategorie
        auteurs := by
          intro given hgiven
          obtain ⟨items, hitems, hall⟩ := hauteurs given hgiven
          rw [hitems]
          exact ⟨fun hnone => absurd hnone (by simp),
            fun _ heq => Option.some.inj heq ▸ hall⟩ }

omit hid in
/-- The columns take the book after the setters if they take what the body gives. -/
theorem Accepted.fits_iff {old : Livre}
    (haccepted : Accepted runtime base.toTables id data) (hold : old.Fits) :
    ((sent runtime data).onRow old).store.Fits ↔ FitsColumns runtime data := by
  obtain ⟨htitre, hdate, hlangue, hphoto⟩ := hold
  have hcolumns := and_congr (good_getD_iff htitre.takes haccepted.titre)
    (and_congr (good_getD_iff hdate haccepted.dateSortie)
      (and_congr (good_getD_iff hlangue.takes haccepted.langue)
        (forall_getD_iff (fun photo hold => (hphoto photo hold).takes)
          haccepted.photoCouverture)))
  rw [Livre.fits_store_iff]
  constructor
  · intro hfits
    obtain ⟨hfitsTitre, hfitsDate, hfitsLangue, hfitsPhoto⟩ := hcolumns.mp hfits
    exact ⟨hfitsTitre, hfitsDate, hfitsLangue, hfitsPhoto⟩
  · rintro ⟨hfitsTitre, hfitsDate, hfitsLangue, hfitsPhoto⟩
    exact hcolumns.mpr ⟨hfitsTitre, hfitsDate, hfitsLangue, hfitsPhoto⟩

theorem UpdateWellFormed.completes_iff (hwell : UpdateWellFormed runtime data) :
    Completes (update runtime id data) (fun _ _ => True) (Session.start base) ↔
      Resolves runtime base.toTables data ∧ FitsColumns runtime data := by
  obtain ⟨old, hold⟩ := Table.exists_find_of_mem_ids hid
  have hfits := base.valid.livre_fits _ ((Table.find_eq_some_iff _ _ _).mp hold)
  refine (@completes_update_iff runtime base id data fun _ _ => True).trans ?_
  rw [← hwell.accepted_iff hid]
  refine and_congr_right fun haccepted => ?_
  rw [exists_prop, and_true, haccepted.valid_committed_iff hold, haccepted.fits_iff hfits]

theorem UpdateWellFormed.status_update_of_fits (hwell : UpdateWellFormed runtime data)
    (hresolves : Resolves runtime base.toTables data) (hfits : FitsColumns runtime data) :
    (serve (update runtime id data) base).1.status = some 200 := by
  obtain ⟨old, hold⟩ := Table.exists_find_of_mem_ids hid
  have holdFits := base.valid.livre_fits _ ((Table.find_eq_some_iff _ _ _).mp hold)
  have haccepted := (hwell.accepted_iff hid).mpr hresolves
  rw [serve_update haccepted hold ((haccepted.fits_iff holdFits).mpr hfits)]
  rfl

/-- Once the book is found, a PUT that is not carried out ends with an uncaught
error. -/
theorem status_update_of_not_completes
    (hnot : ¬ Completes (update runtime id data) (fun _ _ => True) (Session.start base)) :
    (serve (update runtime id data) base).1.status = none := by
  have hthrown : ∀ throwable, (Outcome.thrown throwable).status = none := fun _ => rfl
  have hset : ∀ rewrite, Throws (setLivre id rewrite) := fun _ => stops_modify _
  have hmissing : Throws notFoundConstant := stops_throw rfl
  rw [update, updateFields, bind_assoc] at hnot ⊢
  refine Throws.status_eq_none ?_ (fun _ _ => wp_findPath_of_mem runtime hid) hnot
  refine Stops.bind ?_ fun _ => throws_flush.bind fun _ => stops_pure _
  refine (stops_ifSet _ fun _ => (throws_php _).bind fun _ => hset _).bind fun _ => ?_
  refine (stops_ifSet _ fun _ => (throws_php _).bind fun _ => hset _).bind fun _ => ?_
  refine (stops_ifSet _ fun _ => (throws_php _).bind fun _ => hset _).bind fun _ => ?_
  refine (stops_ifSet _ fun _ => (throws_php _).bind fun _ => hset _).bind fun _ => ?_
  refine Stops.bind (stops_ifSet _ fun categorieId => ?_) fun _ => ?_
  · exact stops_findOr hthrown _ _ _ (fun _ => hset _) hmissing
  · refine stops_ifSet _ fun auteurIds => stops_foreach hthrown _ _ fun auteurId => ?_
    exact stops_findOr hthrown _ _ _ (fun _ => stops_modify _) hmissing

end Update

end LivreController

/-! ## The six requests -/

namespace Requete

variable {runtime : Runtime} {base : Base}

/-- A POST or PUT on books, loans and reservations whose target exists and whose
fields are well formed. -/
def WellFormed (runtime : Runtime) (base : Base) : Requete → Prop
  | livreCreate data => LivreController.CreateWellFormed runtime data
  | livreUpdate id data =>
      id ∈ base.livre.ids ∧ LivreController.UpdateWellFormed runtime data
  | empruntCreate data => EmpruntController.WellFormed data
  | empruntUpdate id data =>
      (∃ number ∈ base.emprunt.ids, id = number) ∧ EmpruntController.WellFormed data
  | reservationsCreate data => ReservationsController.WellFormed data
  | reservationsUpdate id data =>
      id ∈ base.reservations.ids ∧ ReservationsController.WellFormed data
  | _ => False

/-- The ids in the body, each with the row numbers of the table it leads to. -/
def references (base : Base) : Requete → List (Value × List ℕ)
  | livreCreate data | livreUpdate _ data =>
      (data.field "categorieId").toList.map (·, base.categorie.ids) ++
        (((data.field "auteurIds").bind Value.elements).getD []).map (·, base.auteur.ids)
  | empruntCreate data | empruntUpdate _ data =>
      (data.field "emprunteurId").toList.map (·, base.utilisateur.ids) ++
        (data.field "livreId").toList.map (·, base.livre.ids)
  | reservationsCreate data | reservationsUpdate _ data =>
      (data.field "reservateurId").toList.map (·, base.utilisateur.ids) ++
        (data.field "livreId").toList.map (·, base.livre.ids)
  | _ => []

/-- A referenced row does not exist. -/
def Dangles (runtime : Runtime) (base : Base) (requete : Requete) : Prop :=
  ∃ reference ∈ requete.references base, ¬ reference.1.IsId runtime reference.2

/-- A key that the handler tests with `!` is the string `"0"`. -/
def HasZero : Requete → Prop
  | livreCreate data => LivreController.HasZero data
  | empruntCreate data | empruntUpdate _ data => EmpruntController.HasZero data
  | _ => False

/-- The handler names a class that it does not import. -/
def UsesUnknownClass : Requete → Prop
  | livreUpdate _ _ => True
  | _ => False

/-- The columns and the unique indexes can take what the body gives. -/
def Storable (runtime : Runtime) (base : Base) : Requete → Prop
  | livreCreate data | livreUpdate _ data => LivreController.FitsColumns runtime data
  | empruntCreate data | empruntUpdate _ data => EmpruntController.FitsColumns data
  | reservationsCreate data => ReservationsController.HasRoom runtime base none data
  | reservationsUpdate id data => ReservationsController.HasRoom runtime base (some id) data
  | _ => True

/-! ### Which references dangle -/

/-- Two ids that must be there. -/
theorem dangles_pair_iff {data : Value} {first second : String} {firstIds secondIds : List ℕ}
    (hfirst : data.Required first Value.IsNumber)
    (hsecond : data.Required second Value.IsNumber) :
    (∃ reference ∈ (data.field first).toList.map (·, firstIds) ++
        (data.field second).toList.map (·, secondIds),
        ¬ reference.1.IsId runtime reference.2) ↔
      ¬ (data.Required first (Value.IsId runtime firstIds) ∧
        data.Required second (Value.IsId runtime secondIds)) := by
  obtain ⟨left, hleft, -⟩ := hfirst
  obtain ⟨right, hright, -⟩ := hsecond
  simp [Value.Required, hleft, hright, ← not_and_or]

/-- The category and the authors of a book. -/
theorem dangles_livre_iff {data : Value}
    (hauteurs : data.Optional "auteurIds" fun value => ∃ items, value = .list items) :
    (∃ reference ∈ (data.field "categorieId").toList.map (·, base.categorie.ids) ++
        (((data.field "auteurIds").bind Value.elements).getD []).map (·, base.auteur.ids),
        ¬ reference.1.IsId runtime reference.2) ↔
      ¬ LivreController.Resolves runtime base.toTables data := by
  have hcategorie : (∃ reference ∈ (data.field "categorieId").toList.map
      (·, base.categorie.ids), ¬ reference.1.IsId runtime reference.2) ↔
        ¬ data.Optional "categorieId" (Value.IsId runtime base.categorie.ids) := by
    cases hfield : data.field "categorieId" with
    | none => simp [Value.optional_of_none hfield]
    | some given => simp [Value.optional_iff_of_field hfield]
  have hlist : (∃ reference ∈ (((data.field "auteurIds").bind Value.elements).getD []).map
      (·, base.auteur.ids), ¬ reference.1.IsId runtime reference.2) ↔
        ¬ data.Optional "auteurIds" (Value.IsIds runtime base.auteur.ids) := by
    cases hfield : data.field "auteurIds" with
    | none => simp [Value.optional_of_none hfield]
    | some given =>
        obtain ⟨items, rfl⟩ := hauteurs given hfield
        simp [Value.optional_iff_of_field hfield, LivreController.isIds_list_iff]
  rw [LivreController.Resolves, not_and_or, ← hcategorie, ← hlist]
  simp only [List.mem_append, or_and_right, exists_or]

/-! ### The status of every request -/

/-- The status of a request, by what its body is like. -/
structure Answers (status : Option ℕ) (zero dangles unknownClass storable : Prop) :
    Prop where
  refused : zero → status = some 400
  notFound : ¬ zero → dangles → ¬ unknownClass → status = some 404
  undefined : ¬ zero → dangles → unknownClass → status = none
  stored : ¬ zero → ¬ dangles → storable → status = some 200 ∨ status = some 201
  rejected : ¬ zero → ¬ dangles → ¬ storable → status = none

theorem answers_livreCreate {data : Value}
    (hwell : LivreController.CreateWellFormed runtime data) :
    Answers ((livreCreate data).executer runtime base).1.status
      (LivreController.HasZero data) ((livreCreate data).Dangles runtime base) False
      (LivreController.FitsColumns runtime data) := by
  have hdangles : (livreCreate data).Dangles runtime base ↔
      ¬ LivreController.Resolves runtime base.toTables data := by
    apply dangles_livre_iff
    obtain ⟨items, hitems, -⟩ := hwell.auteurIds
    exact Value.optional_of_field hitems ⟨items, rfl⟩
  rw [hdangles]
  exact
    { refused := LivreController.status_create_of_hasZero hwell
      notFound := fun hzero hmissing _ => hwell.status_create_of_not_resolves hzero hmissing
      undefined := fun _ _ hclass => hclass.elim
      stored := fun hzero hall hfits =>
        Or.inr (hwell.status_create_of_fits hzero (not_not.mp hall) hfits)
      rejected := fun hzero hall hfits =>
        hwell.status_create_of_not_fits hzero (not_not.mp hall) hfits }

theorem answers_livreUpdate {id : ℕ} {data : Value} (hid : id ∈ base.livre.ids)
    (hwell : LivreController.UpdateWellFormed runtime data) :
    Answers ((livreUpdate id data).executer runtime base).1.status False
      ((livreUpdate id data).Dangles runtime base) True
      (LivreController.FitsColumns runtime data) := by
  have hdangles : (livreUpdate id data).Dangles runtime base ↔
      ¬ LivreController.Resolves runtime base.toTables data := by
    apply dangles_livre_iff
    intro given hgiven
    obtain ⟨items, rfl, -⟩ := hwell.auteurIds given hgiven
    exact ⟨items, rfl⟩
  have hstopped : ¬ (LivreController.Resolves runtime base.toTables data ∧
      LivreController.FitsColumns runtime data) →
        ((livreUpdate id data).executer runtime base).1.status = none := by
    intro hnot
    apply LivreController.status_update_of_not_completes hid
    rw [hwell.completes_iff hid]
    exact hnot
  rw [hdangles]
  exact
    { refused := fun hzero => hzero.elim
      notFound := fun _ _ hclass => absurd trivial hclass
      undefined := fun _ hmissing _ => hstopped fun hboth => hmissing hboth.1
      stored := fun _ hall hfits =>
        Or.inl (hwell.status_update_of_fits hid (not_not.mp hall) hfits)
      rejected := fun _ _ hfits => hstopped fun hboth => hfits hboth.2 }

theorem answers_empruntCreate {data : Value} (hwell : EmpruntController.WellFormed data) :
    Answers ((empruntCreate data).executer runtime base).1.status
      (EmpruntController.HasZero data) ((empruntCreate data).Dangles runtime base) False
      (EmpruntController.FitsColumns data) := by
  have hdangles : (empruntCreate data).Dangles runtime base ↔
      ¬ EmpruntController.Resolves runtime base.toTables data :=
    dangles_pair_iff hwell.emprunteurId hwell.livreId
  rw [hdangles]
  exact
    { refused := EmpruntController.status_create_of_hasZero
      notFound := fun hzero hmissing _ => hwell.status_create_of_not_resolves hzero hmissing
      undefined := fun _ _ hclass => hclass.elim
      stored := fun hzero hall hfits =>
        Or.inr (hwell.status_create_of_fits hzero (not_not.mp hall) hfits)
      rejected := fun hzero hall hfits =>
        hwell.status_create_of_not_fits hzero (not_not.mp hall) hfits }

theorem answers_empruntUpdate {id : ℕ} {data : Value} (hid : id ∈ base.emprunt.ids)
    (hwell : EmpruntController.WellFormed data) :
    Answers ((empruntUpdate id data).executer runtime base).1.status
      (EmpruntController.HasZero data) ((empruntUpdate id data).Dangles runtime base) False
      (EmpruntController.FitsColumns data) := by
  have hdangles : (empruntUpdate id data).Dangles runtime base ↔
      ¬ EmpruntController.Resolves runtime base.toTables data :=
    dangles_pair_iff hwell.emprunteurId hwell.livreId
  rw [hdangles]
  exact
    { refused := EmpruntController.status_update_of_hasZero hid
      notFound := fun hzero hmissing _ =>
        hwell.status_update_of_not_resolves hid hzero hmissing
      undefined := fun _ _ hclass => hclass.elim
      stored := fun hzero hall hfits =>
        Or.inl (hwell.status_update_of_fits hid hzero (not_not.mp hall) hfits)
      rejected := fun hzero hall hfits =>
        hwell.status_update_of_not_fits hid hzero (not_not.mp hall) hfits }

theorem answers_reservationsCreate {data : Value}
    (hwell : ReservationsController.WellFormed data) :
    Answers ((reservationsCreate data).executer runtime base).1.status False
      ((reservationsCreate data).Dangles runtime base) False
      (ReservationsController.HasRoom runtime base none data) := by
  have hdangles : (reservationsCreate data).Dangles runtime base ↔
      ¬ ReservationsController.Resolves runtime base.toTables data :=
    dangles_pair_iff hwell.reservateurId hwell.livreId
  rw [hdangles]
  exact
    { refused := fun hzero => hzero.elim
      notFound := fun _ hmissing _ => hwell.status_create_of_not_resolves hmissing
      undefined := fun _ _ hclass => hclass.elim
      stored := fun _ hall hroom =>
        Or.inr (hwell.status_create_of_hasRoom (not_not.mp hall) hroom)
      rejected := fun _ hall hroom =>
        hwell.status_create_of_not_hasRoom (not_not.mp hall) hroom }

theorem answers_reservationsUpdate {id : ℕ} {data : Value}
    (hid : id ∈ base.reservations.ids) (hwell : ReservationsController.WellFormed data) :
    Answers ((reservationsUpdate id data).executer runtime base).1.status False
      ((reservationsUpdate id data).Dangles runtime base) False
      (ReservationsController.HasRoom runtime base (some id) data) := by
  have hdangles : (reservationsUpdate id data).Dangles runtime base ↔
      ¬ ReservationsController.Resolves runtime base.toTables data :=
    dangles_pair_iff hwell.reservateurId hwell.livreId
  rw [hdangles]
  exact
    { refused := fun hzero => hzero.elim
      notFound := fun _ hmissing _ => hwell.status_update_of_not_resolves hid hmissing
      undefined := fun _ _ hclass => hclass.elim
      stored := fun _ hall hroom =>
        Or.inl (hwell.status_update_of_hasRoom hid (not_not.mp hall) hroom)
      rejected := fun _ hall hroom =>
        hwell.status_update_of_not_hasRoom hid (not_not.mp hall) hroom }

theorem answers (requete : Requete) (hwell : requete.WellFormed runtime base) :
    Answers (requete.executer runtime base).1.status requete.HasZero
      (requete.Dangles runtime base) requete.UsesUnknownClass
      (requete.Storable runtime base) := by
  cases requete with
  | livreCreate data => exact answers_livreCreate hwell
  | livreUpdate id data => exact answers_livreUpdate hwell.1 hwell.2
  | empruntCreate data => exact answers_empruntCreate hwell
  | empruntUpdate id data =>
      obtain ⟨⟨number, hid, rfl⟩, hform⟩ := hwell
      exact answers_empruntUpdate hid hform
  | reservationsCreate data => exact answers_reservationsCreate hwell
  | reservationsUpdate id data => exact answers_reservationsUpdate hwell.1 hwell.2
  | _ => exact hwell.elim

end Requete

end Bibliotheque
