import Bibliotheque.Api.Circulation
import Bibliotheque.Store.Completion
import Bibliotheque.Store.Flush

/-!
# The loan and reservation requests that succeed

On which bodies the create and update methods of `EmpruntController` and
`ReservationsController` run to their end, and the row they then store.
-/

namespace Bibliotheque

open Program Bibliotheque.Action

namespace EmpruntController

variable {runtime : Runtime} {base : Base} {data : Value} {row : Emprunt}

/-- The body passes the tests of both handlers, and `row` is the loan it
describes. -/
structure Describes (runtime : Runtime) (tables : Tables) (data : Value)
    (row : Emprunt) : Prop where
  dateEmprunt : data.Gives "dateEmprunt" (Runtime.createFromFormat DateTime.dmY)
    (some row.dateEmprunt)
  dateRetour : ∃ date, row.dateRetour = some date ∧
    data.Gives "dateRetour" (Runtime.createFromFormat DateTime.dmY) (some date)
  emprunteur : data.Gives "emprunteurId" runtime.rowId (some row.emprunteur)
  livre : data.Gives "livreId" runtime.rowId (some row.livre)
  emprunteur_mem : row.emprunteur ∈ tables.utilisateur.ids
  livre_mem : row.livre ∈ tables.livre.ids

theorem refuses_readBody : Refuses (readBody data) := by
  refine (refuses_answerIf _ (by decide) _).bind fun _ => ?_
  refine (refuses_php _).bind fun dateEmprunt => (refuses_php _).bind fun dateRetour => ?_
  cases dateEmprunt with
  | none => exact refuses_answer (by decide) _
  | some dateEmprunt =>
      cases dateRetour with
      | none => exact refuses_answer (by decide) _
      | some dateRetour => exact stops_pure _

/-- Reading a body up to its unresolved ids. -/
theorem completes_readBody_iff {Out : Type}
    {next : Date × Date × Value × Value → Action Out} {post : Out → Session → Prop}
    {session : Session} :
    Completes (readBody data >>= next) post session ↔
      ∃ dateEmprunt dateRetour emprunteurId livreId,
        data.Gives "dateEmprunt" (Runtime.createFromFormat DateTime.dmY)
          (some dateEmprunt) ∧
        data.Gives "dateRetour" (Runtime.createFromFormat DateTime.dmY)
          (some dateRetour) ∧
        (data.field "emprunteurId" = some emprunteurId ∧ emprunteurId.truthy = true) ∧
        (data.field "livreId" = some livreId ∧ livreId.truthy = true) ∧
        Completes (next (dateEmprunt, dateRetour, emprunteurId, livreId)) post
          session := by
  unfold readBody
  simp only [bind_assoc, completes_answerIf_iff, completes_php_iff,
    Bool.or_eq_false_iff, Value.missing_eq_false_iff]
  constructor
  · rintro ⟨⟨⟨⟨⟨emprunt, hemprunt, htrueEmprunt⟩, retour, hretour, htrueRetour⟩,
      emprunteurId, hemprunteurId, htrueEmprunteur⟩, livreId, hlivreId, htrueLivre⟩,
      dateEmprunt, hdateEmprunt, dateRetour, hdateRetour, hrest⟩
    simp only [hemprunt, hretour, hemprunteurId, hlivreId, Option.getD_some]
      at hdateEmprunt hdateRetour hrest
    cases dateEmprunt with
    | none => exact absurd hrest (not_completes_answer _ _)
    | some dateEmprunt =>
        cases dateRetour with
        | none => exact absurd hrest (not_completes_answer _ _)
        | some dateRetour =>
            exact ⟨dateEmprunt, dateRetour, emprunteurId, livreId,
              ⟨emprunt, hemprunt, htrueEmprunt, hdateEmprunt⟩,
              ⟨retour, hretour, htrueRetour, hdateRetour⟩,
              ⟨hemprunteurId, htrueEmprunteur⟩, ⟨hlivreId, htrueLivre⟩, hrest⟩
  · rintro ⟨dateEmprunt, dateRetour, emprunteurId, livreId,
      ⟨emprunt, hemprunt, htrueEmprunt, hdateEmprunt⟩,
      ⟨retour, hretour, htrueRetour, hdateRetour⟩, ⟨hemprunteurId, htrueEmprunteur⟩,
      ⟨hlivreId, htrueLivre⟩, hrest⟩
    simp only [hemprunt, hretour, hemprunteurId, hlivreId, Option.getD_some]
    exact ⟨⟨⟨⟨⟨emprunt, rfl, htrueEmprunt⟩, retour, rfl, htrueRetour⟩, emprunteurId, rfl,
      htrueEmprunteur⟩, livreId, rfl, htrueLivre⟩, some dateEmprunt, hdateEmprunt,
      some dateRetour, hdateRetour, hrest⟩

/-- Resolving the two ids, in the order of the handlers. -/
theorem completes_resolve_iff {Out : Type} {emprunteurId livreId : Value}
    {next : Option ℕ → Option ℕ → Action Out} {post : Out → Session → Prop}
    {session : Session}
    (hemprunteur : ∀ livre, ¬ Completes (next none livre) post session)
    (hlivre : ∀ emprunteur, ¬ Completes (next emprunteur none) post session) :
    Completes (find runtime Tables.utilisateur emprunteurId >>= fun emprunteur =>
        find runtime Tables.livre livreId >>= fun livre => next emprunteur livre)
        post session ↔
      ∃ emprunteur ∈ session.managed.utilisateur.ids,
        runtime.rowId emprunteurId = .ok (some emprunteur) ∧
        ∃ livre ∈ session.managed.livre.ids,
          runtime.rowId livreId = .ok (some livre) ∧
          Completes (next (some emprunteur) (some livre)) post session := by
  have hnone : ¬ Completes (find runtime Tables.livre livreId >>= fun livre =>
      next none livre) post session := by
    rw [Completes, wp_bind, wp_find]
    cases runtime.rowId livreId with
    | ok number => exact hemprunteur _
    | error throwable => exact fun hfalse => hfalse
  rw [completes_findOr_iff hnone]
  refine exists_congr fun emprunteur => and_congr Iff.rfl (and_congr Iff.rfl ?_)
  exact completes_findOr_iff (hlivre _)

/-- Both handlers up to their setters: the body describes a row, and the rest
runs with its columns. -/
theorem completes_body_iff {Out : Type}
    {next : Date → Date → Option ℕ → Option ℕ → Action Out} {post : Out → Session → Prop}
    (hemprunteur : ∀ dateEmprunt dateRetour livre,
      ¬ Completes (next dateEmprunt dateRetour none livre) post (Session.start base))
    (hlivre : ∀ dateEmprunt dateRetour emprunteur,
      ¬ Completes (next dateEmprunt dateRetour emprunteur none) post
        (Session.start base)) :
    Completes (readBody data >>= fun read =>
        find runtime Tables.utilisateur read.2.2.1 >>= fun emprunteur =>
          find runtime Tables.livre read.2.2.2 >>= fun livre =>
            next read.1 read.2.1 emprunteur livre) post (Session.start base) ↔
      ∃ row, Describes runtime base.toTables data row ∧
        ∃ dateRetour, row.dateRetour = some dateRetour ∧
          Completes (next row.dateEmprunt dateRetour (some row.emprunteur)
            (some row.livre)) post (Session.start base) := by
  rw [completes_readBody_iff]
  constructor
  · rintro ⟨dateEmprunt, dateRetour, emprunteurId, livreId, hdateEmprunt, hdateRetour,
      ⟨hemprunteurId, htrueEmprunteur⟩, ⟨hlivreId, htrueLivre⟩, hrest⟩
    obtain ⟨emprunteur, hemprunteurMem, hfound, livre, hlivreMem, hfoundLivre, hrest⟩ :=
      (completes_resolve_iff (hemprunteur _ _) (hlivre _ _)).mp hrest
    exact ⟨⟨dateEmprunt, some dateRetour, emprunteur, livre⟩,
      { dateEmprunt := hdateEmprunt
        dateRetour := ⟨dateRetour, rfl, hdateRetour⟩
        emprunteur := ⟨emprunteurId, hemprunteurId, htrueEmprunteur, hfound⟩
        livre := ⟨livreId, hlivreId, htrueLivre, hfoundLivre⟩
        emprunteur_mem := hemprunteurMem
        livre_mem := hlivreMem }, dateRetour, rfl, hrest⟩
  · rintro ⟨row, hrow, dateRetour, hretour, hrest⟩
    obtain ⟨date, hdate, hdateRetour⟩ := hrow.dateRetour
    cases hretour.symm.trans hdate
    obtain ⟨emprunteurId, hemprunteurId, htrueEmprunteur, hfound⟩ := hrow.emprunteur
    obtain ⟨livreId, hlivreId, htrueLivre, hfoundLivre⟩ := hrow.livre
    exact ⟨row.dateEmprunt, dateRetour, emprunteurId, livreId, hrow.dateEmprunt,
      hdateRetour, ⟨hemprunteurId, htrueEmprunteur⟩, ⟨hlivreId, htrueLivre⟩,
      (completes_resolve_iff (hemprunteur _ _) (hlivre _ _)).mpr
        ⟨row.emprunteur, hrow.emprunteur_mem, hfound, row.livre, hrow.livre_mem,
          hfoundLivre, hrest⟩⟩

/-- The object that `create` persists. -/
def newEmprunt (row : Emprunt) : Entity :=
  .emprunt {
    dateEmprunt := some row.dateEmprunt
    dateRetour := row.dateRetour
    emprunteur := some row.emprunteur
    livre := some row.livre }

/-- The content after the flush of `create`. -/
def created (base : Base) (row : Emprunt) : Tables :=
  { base.toTables with emprunt := base.emprunt.insert row }

/-- The content after the flush of `update`. -/
def modified (base : Base) (id : ℕ) (row : Emprunt) : Tables :=
  { base.toTables with emprunt := base.emprunt.modify id fun _ => row }

theorem commit_creating :
    Session.commit { Session.start base with persisted := some (newEmprunt row) } =
      .ok (created base row, base.emprunt.next) := by
  have hinsert : (newEmprunt row).insert base.toTables =
      some (created base row, base.emprunt.next) := rfl
  exact Session.commit_persisted_alone base hinsert

theorem commit_modifying {id : ℕ} :
    Session.commit { Session.start base with managed := modified base id row } =
      .ok (modified base id row, 0) := by
  have hkeys : base.SameKeys (modified base id row) :=
    { base.sameKeys_refl with emprunt := ⟨(Table.ids_modify _ _ _).symm, rfl⟩ }
  exact Session.commit_managed base hkeys

/-- The server accepts the loan of a body exactly if it fits its columns. -/
theorem Describes.valid_created_iff (hrow : Describes runtime base.toTables data row) :
    (created base row).Valid ↔ row.Fits := by
  constructor
  · intro hvalid
    apply hvalid.emprunt_fits (base.emprunt.next, row)
    simp [created]
  · intro hfits
    exact base.valid.insert_emprunt hfits hrow.emprunteur_mem hrow.livre_mem

theorem Describes.valid_modified_iff {id : ℕ} (hid : id ∈ base.emprunt.ids)
    (hrow : Describes runtime base.toTables data row) :
    (modified base id row).Valid ↔ row.Fits := by
  constructor
  · intro hvalid
    apply hvalid.emprunt_fits (id, row)
    rw [← Table.find_eq_some_iff]
    exact Table.find_replace hid row
  · intro hfits
    exact base.valid.update_emprunt hfits hrow.emprunteur_mem hrow.livre_mem

theorem refuses_create : Refuses (create runtime data) := by
  refine refuses_readBody.bind fun _ => (refuses_find _ _ _).bind fun _ => ?_
  refine (refuses_find _ _ _).bind fun _ => (refuses_answerIf _ (by decide) _).bind fun _ => ?_
  refine (refuses_persist _).bind fun _ => refuses_flush.bind fun _ => ?_
  exact refuses_insertedId.bind fun _ => stops_pure _

theorem refuses_update {id : ℤ} : Refuses (update runtime id data) := by
  refine refuses_findOr _ _ _ (fun emprunt => ?_) (refuses_answer (by decide) _)
  refine refuses_readBody.bind fun _ => (refuses_find _ _ _).bind fun emprunteur => ?_
  refine (refuses_find _ _ _).bind fun livre => ?_
  cases emprunteur with
  | none => exact refuses_answer (by decide) _
  | some emprunteur =>
      cases livre with
      | none => exact refuses_answer (by decide) _
      | some livre =>
          refine (stops_modify _).bind fun _ => (stops_modify _).bind fun _ => ?_
          refine (stops_modify _).bind fun _ => (stops_modify _).bind fun _ => ?_
          exact refuses_flush.bind fun _ => stops_pure _

/-- The statements of `create` once the ids are resolved. -/
def createResolved (dateEmprunt dateRetour : Date) (emprunteur livre : Option ℕ) :
    Action Response := do
  answerIf (emprunteur.isNone || livre.isNone)
    404 [("error", .str "Emprunteur or Livre not found")]
  persist (.emprunt {
    dateEmprunt := some dateEmprunt
    dateRetour := some dateRetour
    emprunteur := emprunteur
    livre := livre })
  flush
  return ⟨201, .object [("message", .str "Emprunt created"), ("id", ← insertedId)]⟩

theorem create_eq :
    create runtime data = readBody data >>= fun read =>
      find runtime Tables.utilisateur read.2.2.1 >>= fun emprunteur =>
        find runtime Tables.livre read.2.2.2 >>= fun livre =>
          createResolved read.1 read.2.1 emprunteur livre := rfl

/-- A loan is created exactly from a body that describes a row the server
accepts. -/
theorem completes_create_iff {property : Response → Base → Prop} :
    Completes (create runtime data) (fun sent final => property sent final.base)
        (Session.start base) ↔
      ∃ row, Describes runtime base.toTables data row ∧
        ∃ hvalid : (created base row).Valid,
          property ⟨201, .object [("message", .str "Emprunt created"),
            ("id", .int base.emprunt.next)]⟩ ⟨created base row, hvalid⟩ := by
  rw [create_eq]
  refine (completes_body_iff ?_ ?_).trans ?_
  · simp [Completes, createResolved]
  · simp [Completes, createResolved]
  refine exists_congr fun row => and_congr_right fun hrow => ?_
  have hflush := @completes_flush_of_commit
    { Session.start base with persisted := some (newEmprunt row) }
    (fun _ final => property ⟨201, .object [("message", .str "Emprunt created"),
      ("id", .int final.insertId)]⟩ final.base) _ _ _ commit_creating
    (base.valid.store_emprunt _)
  obtain ⟨date, hdate, -⟩ := hrow.dateRetour
  rw [newEmprunt, hdate] at hflush
  simp only [hdate, Option.some.injEq, exists_eq_left']
  refine Iff.trans ?_ hflush
  simp only [Completes, createResolved, wp_bind, wp_answerIf, Option.isNone_some,
    Bool.or_self, Bool.false_eq_true, if_false, wp_persist]
  exact Iff.rfl

/-- A loan that the server accepts is inserted. -/
theorem Describes.serve_create (hrow : Describes runtime base.toTables data row)
    (hvalid : (created base row).Valid) :
    serve (create runtime data) base =
      (.response ⟨201, .object [("message", .str "Emprunt created"),
        ("id", .int base.emprunt.next)]⟩, ⟨created base row, hvalid⟩) := by
  apply serve_of_wp
  exact (@completes_create_iff runtime base data fun sent final =>
    sent = _ ∧ final = _).mpr ⟨row, hrow, hvalid, rfl, rfl⟩

/-- The statements of `update` once the ids are resolved. -/
def updateResolved (id : ℕ) (dateEmprunt dateRetour : Date)
    (emprunteur livre : Option ℕ) : Action Response := do
  let some emprunteur := emprunteur
    | answer 404 [("error", .str "Emprunteur not found")]
  let some livre := livre
    | answer 404 [("error", .str "Livre not found")]
  setEmprunt id ({ · with dateEmprunt := dateEmprunt })
  setEmprunt id ({ · with dateRetour := some dateRetour })
  setEmprunt id ({ · with emprunteur := emprunteur })
  setEmprunt id ({ · with livre := livre })
  flush
  return ⟨200, .object [("message", .str "Emprunt updated"), ("id", .int id)]⟩

/-- A loan is replaced exactly by one that a body describes and the server
accepts. -/
theorem completes_update_iff {id : ℕ} {property : Response → Base → Prop} :
    Completes (update runtime id data) (fun sent final => property sent final.base)
        (Session.start base) ↔
      id ∈ base.emprunt.ids ∧ ∃ row, Describes runtime base.toTables data row ∧
        ∃ hvalid : (modified base id row).Valid,
          property ⟨200, .object [("message", .str "Emprunt updated"), ("id", .int id)]⟩
            ⟨modified base id row, hvalid⟩ := by
  unfold update
  rw [completes_findPath_iff (not_completes_answer _ _)]
  refine and_congr Iff.rfl ((@completes_body_iff runtime base data Response
    (updateResolved id) _ ?_ ?_).trans ?_)
  · simp [Completes, updateResolved]
  · intro dateEmprunt dateRetour emprunteur
    cases emprunteur with
    | none => exact not_completes_answer _ _
    | some emprunteur => exact not_completes_answer _ _
  refine exists_congr fun row => and_congr_right fun hrow => ?_
  have hflush := @completes_flush_of_commit
    { Session.start base with managed := modified base id row }
    (fun _ final => property ⟨200, .object [("message", .str "Emprunt updated"),
      ("id", .int id)]⟩ final.base) _ _ _ commit_modifying
    (base.valid.store_emprunt _)
  obtain ⟨date, hdate, -⟩ := hrow.dateRetour
  simp only [hdate, Option.some.injEq, exists_eq_left']
  refine Iff.trans ?_ hflush
  simp only [Completes, updateResolved, setEmprunt, wp_bind, wp_modify,
    Table.modify_modify, Function.comp_def, ← hdate]
  exact Iff.rfl

/-- A loan is replaced by one that the server accepts. -/
theorem Describes.serve_update {id : ℕ} (hrow : Describes runtime base.toTables data row)
    (hid : id ∈ base.emprunt.ids) (hvalid : (modified base id row).Valid) :
    serve (update runtime id data) base =
      (.response ⟨200, .object [("message", .str "Emprunt updated"), ("id", .int id)]⟩,
        ⟨modified base id row, hvalid⟩) := by
  apply serve_of_wp
  exact (@completes_update_iff runtime base data id fun sent final =>
    sent = _ ∧ final = _).mpr ⟨hid, row, hrow, hvalid, rfl, rfl⟩

/-- A loan with a negative number in its path is never found. -/
theorem not_completes_update_negative {id : ℕ} {post : Response → Session → Prop}
    {session : Session} : ¬ Completes (update runtime (.negSucc id) data) post session := by
  unfold update
  rw [completes_findOr_iff (not_completes_answer _ _)]
  rintro ⟨found, -, hrow, -⟩
  cases hrow

end EmpruntController

namespace ReservationsController

variable {runtime : Runtime} {base : Base} {data : Value} {row : Reservations}

/-- The body passes the tests of both handlers, and `row` is the reservation it
describes.  A key only has to be there. -/
structure Describes (runtime : Runtime) (tables : Tables) (data : Value)
    (row : Reservations) : Prop where
  dateResa : ∃ given, data.field "dateResa" = some given ∧
    Runtime.createFromFormat DateTime.dmY given = .ok (some row.dateResa)
  reservateur : ∃ given, data.field "reservateurId" = some given ∧
    runtime.rowId given = .ok (some row.reservateur)
  livre : ∃ given, data.field "livreId" = some given ∧
    runtime.rowId given = .ok (some row.livre)
  reservateur_mem : row.reservateur ∈ tables.utilisateur.ids
  livre_mem : row.livre ∈ tables.livre.ids

/-- The unique indexes leave room for the reservation, those of the row `id`
apart. -/
def Free (base : Base) (id : Option ℕ) (row : Reservations) : Prop :=
  ∀ stored ∈ base.reservations.rows, some stored.1 ≠ id →
    stored.2.livre ≠ row.livre ∧ stored.2.reservateur ≠ row.reservateur

theorem refuses_readBody : Refuses (readBody runtime data) := by
  refine (refuses_answerIf _ (by decide) _).bind fun _ => ?_
  refine (refuses_php _).bind fun dateResa => ?_
  cases dateResa with
  | none => exact refuses_answer (by decide) _
  | some dateResa =>
      refine refuses_findOr _ _ _ (fun reservateur => ?_) (refuses_answer (by decide) _)
      exact refuses_findOr _ _ _ (fun livre => stops_pure _) (refuses_answer (by decide) _)

/-- Reading a body describes a row, and the rest runs with its columns. -/
theorem completes_readBody_iff {Out : Type} {next : Date × ℕ × ℕ → Action Out}
    {post : Out → Session → Prop} {session : Session} :
    Completes (readBody runtime data >>= next) post session ↔
      ∃ row, Describes runtime session.managed data row ∧
        Completes (next (row.dateResa, row.reservateur, row.livre)) post session := by
  unfold readBody
  simp only [bind_assoc, completes_answerIf_iff, completes_php_iff,
    Bool.or_eq_false_iff, Option.isNone_eq_false_iff, Option.isSome_iff_exists]
  constructor
  · rintro ⟨⟨⟨⟨resa, hresa⟩, reservateurId, hreservateurId⟩, livreId, hlivreId⟩, dateResa,
      hdateResa, hrest⟩
    simp only [hresa, hreservateurId, hlivreId, Option.getD_some] at hdateResa hrest
    cases dateResa with
    | none => exact absurd hrest (not_completes_answer _ _)
    | some dateResa =>
        dsimp only at hrest
        rw [bind_assoc, completes_findOr_iff (not_completes_answer _ _)] at hrest
        obtain ⟨reservateur, hreservateurMem, hreservateur, hrest⟩ := hrest
        dsimp only at hrest
        rw [bind_assoc, completes_findOr_iff (not_completes_answer _ _)] at hrest
        obtain ⟨livre, hlivreMem, hlivre, hrest⟩ := hrest
        exact ⟨⟨dateResa, livre, reservateur⟩,
          ⟨⟨resa, hresa, hdateResa⟩, ⟨reservateurId, hreservateurId, hreservateur⟩,
            ⟨livreId, hlivreId, hlivre⟩, hreservateurMem, hlivreMem⟩, hrest⟩
  · rintro ⟨row, ⟨⟨resa, hresa, hdateResa⟩, ⟨reservateurId, hreservateurId, hreservateur⟩,
      ⟨livreId, hlivreId, hlivre⟩, hreservateurMem, hlivreMem⟩, hrest⟩
    simp only [hresa, hreservateurId, hlivreId, Option.getD_some, Option.some.injEq,
      exists_eq', and_true, true_and]
    refine ⟨some row.dateResa, hdateResa, ?_⟩
    dsimp only
    rw [bind_assoc, completes_findOr_iff (not_completes_answer _ _)]
    refine ⟨row.reservateur, hreservateurMem, hreservateur, ?_⟩
    dsimp only
    rw [bind_assoc, completes_findOr_iff (not_completes_answer _ _)]
    exact ⟨row.livre, hlivreMem, hlivre, hrest⟩

/-- The object that `create` persists. -/
def newReservations (row : Reservations) : Entity :=
  .reservations {
    dateResa := some row.dateResa
    livre := some row.livre
    reservateur := some row.reservateur }

/-- The content after the flush of `create`. -/
def created (base : Base) (row : Reservations) : Tables :=
  { base.toTables with reservations := base.reservations.insert row }

/-- The content after the flush of `update`. -/
def modified (base : Base) (id : ℕ) (row : Reservations) : Tables :=
  { base.toTables with reservations := base.reservations.modify id fun _ => row }

theorem commit_creating :
    Session.commit { Session.start base with persisted := some (newReservations row) } =
      .ok (created base row, base.reservations.next) := by
  have hinsert : (newReservations row).insert base.toTables =
      some (created base row, base.reservations.next) := rfl
  exact Session.commit_persisted_alone base hinsert

theorem commit_modifying {id : ℕ} :
    Session.commit { Session.start base with managed := modified base id row } =
      .ok (modified base id row, 0) := by
  have hkeys : base.SameKeys (modified base id row) :=
    { base.sameKeys_refl with reservations := ⟨(Table.ids_modify _ _ _).symm, rfl⟩ }
  exact Session.commit_managed base hkeys

/-- A reservation that fits and for which the indexes have room is accepted. -/
theorem Describes.valid_created (hrow : Describes runtime base.toTables data row)
    (hfits : row.Fits) (hfree : Free base none row) : (created base row).Valid :=
  base.valid.insert_reservations hfits hrow.livre_mem hrow.reservateur_mem
    fun stored hstored => hfree stored hstored (by simp)

theorem Describes.valid_modified {id : ℕ} (hrow : Describes runtime base.toTables data row)
    (hfits : row.Fits) (hfree : Free base (some id) row) : (modified base id row).Valid :=
  base.valid.update_reservations hfits hrow.livre_mem hrow.reservateur_mem
    fun stored hstored hother => hfree stored hstored (by simpa using hother)

theorem fits_of_valid_created (hvalid : (created base row).Valid) : row.Fits := by
  apply hvalid.reservations_fits (base.reservations.next, row)
  simp [created]

theorem fits_of_valid_modified {id : ℕ} (hid : id ∈ base.reservations.ids)
    (hvalid : (modified base id row).Valid) : row.Fits := by
  apply hvalid.reservations_fits (id, row)
  rw [← Table.find_eq_some_iff]
  exact Table.find_replace hid row

theorem free_of_valid_created (hvalid : (created base row).Valid) : Free base none row := by
  intro stored hstored _
  have hnew : (base.reservations.next, row) ∈ (created base row).reservations.rows := by
    simp [created]
  have hold : stored ∈ (created base row).reservations.rows := by simp [created, hstored]
  exact hvalid.reservations_distinct hold hnew
    (Nat.ne_of_lt (base.reservations.lt_next stored hstored))

theorem free_of_valid_modified {id : ℕ} (hid : id ∈ base.reservations.ids)
    (hvalid : (modified base id row).Valid) : Free base (some id) row := by
  intro stored hstored hother
  have hne : stored.1 ≠ id := fun heq => hother (congrArg some heq)
  have hnew : (id, row) ∈ (modified base id row).reservations.rows :=
    (Table.find_eq_some_iff _ _ _).mp (Table.find_replace hid row)
  have hold : stored ∈ (modified base id row).reservations.rows := by
    have hfind : (base.reservations.modify id fun _ => row).find stored.1 = some stored.2 := by
      rw [Table.find_modify_of_ne _ _ hne, Table.find_eq_some_iff]
      exact hstored
    exact (Table.find_eq_some_iff _ _ _).mp hfind
  exact hvalid.reservations_distinct hold hnew hne

theorem refuses_create : Refuses (create runtime data) := by
  refine refuses_readBody.bind fun _ => (refuses_persist _).bind fun _ => ?_
  exact refuses_flush.bind fun _ => refuses_insertedId.bind fun _ => stops_pure _

theorem refuses_update {id : ℕ} : Refuses (update runtime id data) := by
  refine refuses_findOr _ _ _ (fun reservation => ?_) (refuses_answer (by decide) _)
  refine refuses_readBody.bind fun _ => (stops_modify _).bind fun _ => ?_
  refine (stops_modify _).bind fun _ => (stops_modify _).bind fun _ => ?_
  exact refuses_flush.bind fun _ => stops_pure _

/-- A reservation is created exactly from a body that describes a row the server
accepts. -/
theorem completes_create_iff {property : Response → Base → Prop} :
    Completes (create runtime data) (fun sent final => property sent final.base)
        (Session.start base) ↔
      ∃ row, Describes runtime base.toTables data row ∧
        ∃ hvalid : (created base row).Valid,
          property ⟨201, .object [("message", .str "Reservation created"),
            ("id", .int base.reservations.next)]⟩ ⟨created base row, hvalid⟩ := by
  unfold create
  rw [completes_readBody_iff]
  refine exists_congr fun row => and_congr Iff.rfl ?_
  rw [Completes, wp_bind, wp_persist, wp_bind]
  exact completes_flush_of_commit commit_creating (base.valid.store_reservations _)

/-- A reservation that the server accepts is inserted. -/
theorem Describes.serve_create (hrow : Describes runtime base.toTables data row)
    (hvalid : (created base row).Valid) :
    serve (create runtime data) base =
      (.response ⟨201, .object [("message", .str "Reservation created"),
        ("id", .int base.reservations.next)]⟩, ⟨created base row, hvalid⟩) := by
  apply serve_of_wp
  exact (@completes_create_iff runtime base data fun sent final =>
    sent = _ ∧ final = _).mpr ⟨row, hrow, hvalid, rfl, rfl⟩

/-- A reservation is replaced exactly by one that a body describes and the server
accepts. -/
theorem completes_update_iff {id : ℕ} {property : Response → Base → Prop} :
    Completes (update runtime id data) (fun sent final => property sent final.base)
        (Session.start base) ↔
      id ∈ base.reservations.ids ∧ ∃ row, Describes runtime base.toTables data row ∧
        ∃ hvalid : (modified base id row).Valid,
          property ⟨200, .object [("message", .str "Reservation updated")]⟩
            ⟨modified base id row, hvalid⟩ := by
  unfold update
  rw [completes_findPath_iff (not_completes_answer _ _)]
  apply and_congr Iff.rfl
  dsimp only
  rw [completes_readBody_iff]
  refine exists_congr fun row => and_congr Iff.rfl ?_
  simp only [Completes, setReservations, wp_bind, wp_modify, Table.modify_modify,
    Function.comp_def]
  exact completes_flush_of_commit commit_modifying (base.valid.store_reservations _)

/-- A reservation is replaced by one that the server accepts. -/
theorem Describes.serve_update {id : ℕ} (hrow : Describes runtime base.toTables data row)
    (hid : id ∈ base.reservations.ids) (hvalid : (modified base id row).Valid) :
    serve (update runtime id data) base =
      (.response ⟨200, .object [("message", .str "Reservation updated")]⟩,
        ⟨modified base id row, hvalid⟩) := by
  apply serve_of_wp
  exact (@completes_update_iff runtime base data id fun sent final =>
    sent = _ ∧ final = _).mpr ⟨hid, row, hrow, hvalid, rfl, rfl⟩

end ReservationsController

end Bibliotheque
