import Bibliotheque.Store.Session

/-!
# Requests that run to their end

Every early end of a handler is a refusal: a status of 400 and above or a
throwable.  So a request succeeds exactly when all its statements run, and the
rules below say, statement by statement, when that is.
-/

namespace Bibliotheque

open Program

deriving instance DecidableEq for Response, Outcome

/-- The value a setter receives from a key of the body. -/
def received {Out : Type} (value : Option Value)
    (read : Value → Except Throwable Out) : Option Out :=
  value.bind fun given => (read given).toOption

/-- The key is absent, or its conversion succeeds. -/
def Value.Converts {Out : Type} (data : Value) (key : String)
    (read : Value → Except Throwable Out) : Prop :=
  ∀ given, data.field key = some given → ∃ out, read given = .ok out

theorem Value.Converts.read {Out : Type} {data given : Value} {key : String}
    {read : Value → Except Throwable Out} (hkey : data.Converts key read)
    (hgiven : data.field key = some given) :
    ∃ out, read given = .ok out ∧ received (data.field key) read = some out := by
  obtain ⟨out, hout⟩ := hkey given hgiven
  exact ⟨out, hout, by simp [received, hgiven, hout, Except.toOption]⟩

/-- `!$data['key']` past the test. -/
theorem Value.missing_eq_false_iff (value : Option Value) :
    Value.missing value = false ↔ ∃ given, value = some given ∧ given.truthy = true := by
  cases value with
  | none => simp [Value.missing]
  | some given => simp [Value.missing]

/-- A key that is true in a condition and is read as `out`. -/
def Value.Gives {Out : Type} (data : Value) (key : String)
    (read : Value → Except Throwable Out) (out : Out) : Prop :=
  ∃ given, data.field key = some given ∧ given.truthy = true ∧ read given = .ok out

/-- A key gives one value only. -/
theorem Value.Gives.unique {Out : Type} {data : Value} {key : String}
    {read : Value → Except Throwable Out} {left right : Out}
    (hleft : data.Gives key read left) (hright : data.Gives key read right) :
    left = right := by
  obtain ⟨given, hgiven, -, hread⟩ := hleft
  obtain ⟨other, hother, -, hreadOther⟩ := hright
  cases hgiven.symm.trans hother
  exact Except.ok.inj (hread.symm.trans hreadOther)

/-- The HTTP status of the answer; an uncaught throwable has none. -/
def Outcome.status : Outcome → Option ℕ
  | .response sent => some sent.status
  | .thrown _ => none

namespace Action

variable {Out : Type}

/-- Two calls into PHP are one. -/
theorem php_bind {First Second : Type} (first : Except Throwable First)
    (second : First → Except Throwable Second) :
    php (first >>= second) = php first >>= fun value => php (second value) := by
  cases first with
  | ok value => rfl
  | error throwable => rfl

/-! ## Reasons for an early end -/

section Stops

variable {reason : Outcome → Prop}

theorem stops_answer {status : ℕ} {body : List (String × Value)}
    (hanswer : reason (.response ⟨status, .object body⟩)) :
    Stops reason (answer status body : Action Out) :=
  stops_throw hanswer

theorem stops_answerIf {condition : Bool} {status : ℕ} {body : List (String × Value)}
    (hanswer : condition = true → reason (.response ⟨status, .object body⟩)) :
    Stops reason (answerIf condition status body) := by
  cases condition with
  | true => exact stops_answer (hanswer rfl)
  | false => exact stops_pure _

theorem stops_ifSet {In : Type} (value : Option In) {body : In → Action Unit}
    (hbody : ∀ given, Stops reason (body given)) : Stops reason (ifSet value body) := by
  cases value with
  | some given => exact hbody given
  | none => exact stops_pure _

theorem stops_persist (entity : Entity) : Stops reason (persist entity) :=
  stops_modify _

theorem stops_insertedId : Stops reason insertedId := fun _ => trivial

variable (hthrown : ∀ throwable, reason (.thrown throwable))

include hthrown

theorem stops_php (result : Except Throwable Out) : Stops reason (php result) := by
  cases result with
  | ok value => exact stops_pure value
  | error throwable => exact stops_throw (hthrown throwable)

theorem stops_find {Row : Type} (runtime : Runtime) (table : Tables → Table Row)
    (id : Value) : Stops reason (find runtime table id) :=
  (stops_php hthrown _).bind fun _ _ => trivial

/-- `find`, with what follows for a known and for an unknown row. -/
theorem stops_findOr {Row : Type} (runtime : Runtime) (table : Tables → Table Row)
    (id : Value) {next : Option ℕ → Action Out}
    (hfound : ∀ found, Stops reason (next (some found)))
    (hmissing : Stops reason (next none)) :
    Stops reason (find runtime table id >>= next) := by
  apply (stops_find hthrown runtime table id).bind
  intro found
  cases found with
  | some found => exact hfound found
  | none => exact hmissing

theorem stops_foreach (runtime : Runtime) (values : Value)
    {body : Value → Action Unit} (hbody : ∀ value, Stops reason (body value)) :
    Stops reason (foreach runtime values body) := by
  unfold foreach
  cases values.elements with
  | some items => exact Stops.forM hbody items
  | none =>
      cases runtime.debug with
      | true => exact stops_throw (hthrown _)
      | false => exact stops_pure _

theorem stops_flush : Stops reason flush := by
  intro session
  rw [wp_flush]
  cases session.commit with
  | ok result =>
      dsimp only
      split
      · trivial
      · exact hthrown _
  | error throwable => exact hthrown throwable

end Stops

/-- The statement only stops the handler with a refusal. -/
abbrev Refuses (program : Action Out) : Prop :=
  Stops (fun outcome => ¬ outcome.Success) program

theorem not_success_thrown (throwable : Throwable) :
    ¬ (Outcome.thrown throwable).Success := fun hsuccess => hsuccess

theorem not_success_of_le {status : ℕ} (hstatus : 300 ≤ status) (body : Value) :
    ¬ (Outcome.response ⟨status, body⟩).Success :=
  fun hsuccess => absurd hsuccess.2 (Nat.not_lt.mpr hstatus)

theorem refuses_thrown (throwable : Throwable) :
    Refuses (throw (.thrown throwable) : Action Out) :=
  stops_throw (not_success_thrown throwable)

theorem refuses_answer {status : ℕ} (hstatus : 300 ≤ status)
    (body : List (String × Value)) : Refuses (answer status body : Action Out) :=
  stops_answer (not_success_of_le hstatus _)

theorem refuses_php (result : Except Throwable Out) : Refuses (php result) :=
  stops_php not_success_thrown result

theorem refuses_answerIf (condition : Bool) {status : ℕ} (hstatus : 300 ≤ status)
    (body : List (String × Value)) : Refuses (answerIf condition status body) :=
  stops_answerIf fun _ => not_success_of_le hstatus _

theorem refuses_ifSet {In : Type} (value : Option In) {body : In → Action Unit}
    (hbody : ∀ given, Refuses (body given)) : Refuses (ifSet value body) :=
  stops_ifSet value hbody

theorem refuses_setter (value : Option Value) (read : Value → Except Throwable Out)
    {set : Out → Action Unit} (hset : ∀ out, Refuses (set out)) :
    Refuses (ifSet value fun given => php (read given) >>= set) :=
  refuses_ifSet value fun _ => (refuses_php _).bind hset

theorem refuses_find {Row : Type} (runtime : Runtime) (table : Tables → Table Row)
    (id : Value) : Refuses (find runtime table id) :=
  stops_find not_success_thrown runtime table id

/-- `find`, with the answers for a known and for an unknown row. -/
theorem refuses_findOr {Row : Type} (runtime : Runtime) (table : Tables → Table Row)
    (id : Value) {next : Option ℕ → Action Out}
    (hfound : ∀ found, Refuses (next (some found))) (hmissing : Refuses (next none)) :
    Refuses (find runtime table id >>= next) :=
  stops_findOr not_success_thrown runtime table id hfound hmissing

theorem refuses_foreach (runtime : Runtime) (values : Value)
    {body : Value → Action Unit} (hbody : ∀ value, Refuses (body value)) :
    Refuses (foreach runtime values body) :=
  stops_foreach not_success_thrown runtime values hbody

theorem refuses_persist (entity : Entity) : Refuses (persist entity) :=
  stops_persist entity

theorem refuses_insertedId : Refuses insertedId := stops_insertedId

theorem refuses_flush : Refuses flush := stops_flush not_success_thrown

/-! ## Success -/

/-- All statements run, and `post` holds of the value and the session they
leave. -/
abbrev Completes (program : Action Out) (post : Out → Session → Prop)
    (session : Session) : Prop :=
  wp program post (fun _ _ => False) session

/-- A handler that only stops with refusals succeeds exactly when it
completes. -/
theorem success_iff_completes {handler : Action Response}
    (hrefuses : Refuses handler) (base : Base)
    (property : Outcome → Base → Prop) :
    (serve handler base).1.Success ∧
        property (serve handler base).1 (serve handler base).2 ↔
      Completes handler (fun sent final => (Outcome.response sent).Success ∧
        property (.response sent) final.base) (Session.start base) := by
  have hstart := hrefuses (Session.start base)
  unfold Completes
  unfold serve wp at *
  cases hrun : handler (Session.start base) with
  | ok response final => rfl
  | error outcome final =>
      rw [hrun] at hstart
      simp only [iff_false, not_and]
      exact fun hsuccess => absurd hsuccess hstart

/-- The answer and the state of a successful request. -/
theorem completes_of_success {handler : Action Response} (hrefuses : Refuses handler)
    {base : Base} (hsuccess : (serve handler base).1.Success) :
    Completes handler (fun sent final =>
      serve handler base = (.response sent, final.base)) (Session.start base) := by
  have hend := (success_iff_completes hrefuses base fun outcome final =>
    serve handler base = (outcome, final)).mp ⟨hsuccess, rfl⟩
  exact wp_mono hend (fun _ _ hboth => hboth.2) (fun _ _ hstop => hstop)

/-- What a successful request has passed, and its answer, by the rule about when
it completes. -/
theorem passed_of_success {handler : Action Response} (hrefuses : Refuses handler)
    {base : Base} {passed : (Response → Base → Prop) → Prop}
    (hcompletes : ∀ property : Response → Base → Prop,
      Completes handler (fun sent final => property sent final.base)
        (Session.start base) ↔ passed property)
    (hsuccess : (serve handler base).1.Success) :
    passed fun sent final => serve handler base = (.response sent, final) :=
  (hcompletes _).mp (completes_of_success hrefuses hsuccess)

/-! ## Uncaught throwables -/

/-- The statement only stops the handler with a throwable. -/
abbrev Throws (program : Action Out) : Prop :=
  Stops (fun outcome => outcome.status = none) program

theorem throws_php (result : Except Throwable Out) : Throws (php result) :=
  stops_php (fun _ => rfl) result

theorem throws_flush : Throws flush := stops_flush fun _ => rfl

/-- The status of a request, statement by statement. -/
theorem status_of_wp {handler : Action Response} {base : Base} {status : Option ℕ}
    (hend : wp handler (fun sent _ => (Outcome.response sent).status = status)
      (fun outcome _ => outcome.status = status) (Session.start base)) :
    (serve handler base).1.status = status :=
  (serve_iff_wp handler base fun outcome _ => outcome.status = status).mpr hend

/-- A handler of which a rest remains that can only throw, and which does not
complete, ends with a throwable. -/
theorem Throws.status_eq_none {handler rest : Action Response} {base : Base}
    {session : Session} (hthrows : Throws rest)
    (hrest : ∀ post stop,
      wp handler post stop (Session.start base) ↔ wp rest post stop session)
    (hnot : ¬ Completes handler (fun _ _ => True) (Session.start base)) :
    (serve handler base).1.status = none := by
  rw [Completes, hrest] at hnot
  apply status_of_wp
  rw [hrest]
  unfold wp
  cases hrun : rest session with
  | ok sent final => exact absurd (wp_stop_false_iff.mpr ⟨sent, final, hrun, trivial⟩) hnot
  | error outcome final => exact hthrows.of_error hrun

section Completes

variable {session : Session}

theorem completes_php_iff {Next : Type} {post : Next → Session → Prop}
    {result : Except Throwable Out} {next : Out → Action Next} :
    Completes (php result >>= next) post session ↔
      ∃ value, result = .ok value ∧ Completes (next value) post session := by
  cases result with
  | ok value => simp [Completes]
  | error throwable => simp [Completes]

theorem completes_answerIf_iff {post : Out → Session → Prop} {condition : Bool}
    {status : ℕ} {body : List (String × Value)} {next : Unit → Action Out} :
    Completes (answerIf condition status body >>= next) post session ↔
      condition = false ∧ Completes (next ()) post session := by
  cases condition with
  | true => simp [Completes]
  | false => simp [Completes]

theorem not_completes_answer {post : Out → Session → Prop} (status : ℕ)
    (body : List (String × Value)) :
    ¬ Completes (answer status body : Action Out) post session := by
  simp [Completes]

/-- A setter either fails on its conversion or has the effect `put`.
`change rewrite` is the session in which `rewrite` has been applied to the row
of the request. -/
theorem completes_setter_iff {Row Next : Type} {value : Option Value}
    {read : Value → Except Throwable Out} {set : Out → Row → Row}
    {assign : (Row → Row) → Action Unit} {change : (Row → Row) → Session}
    {before : Row → Row} {next : Unit → Action Next} {post : Next → Session → Prop}
    (hassign : ∀ rewrite, assign rewrite (change before) =
      .ok () (change (rewrite ∘ before)))
    (put : Option Out → Row → Row) (hnone : put none = fun row => row)
    (hsome : ∀ out, put (some out) = set out) :
    Completes (ifSet value (fun given => php (read given) >>= fun out =>
        assign (set out)) >>= next) post (change before) ↔
      (∀ given, value = some given → ∃ out, read given = .ok out) ∧
        Completes (next ()) post (change (put (received value read) ∘ before)) := by
  cases value with
  | none =>
      simp only [received, Option.bind_none, hnone, reduceCtorEq, false_implies,
        implies_true, true_and]
      exact Iff.rfl
  | some given =>
      cases hread : read given with
      | ok out =>
          simp only [Completes, wp_bind, wp_ifSet_some, wp_php_ok, hread, received,
            Option.bind_some, Except.toOption, hsome, Option.some.injEq, forall_eq',
            Except.ok.injEq, exists_eq', true_and]
          simp only [wp, hassign]
      | error throwable =>
          simp [Completes, hread]

/-- `find` meets a row or the handler stops. -/
theorem completes_findOr_iff {Row : Type} {runtime : Runtime}
    {table : Tables → Table Row} {value : Value} {next : Option ℕ → Action Out}
    {post : Out → Session → Prop}
    (hmissing : ¬ Completes (next none) post session) :
    Completes (find runtime table value >>= next) post session ↔
      ∃ found ∈ (table session.managed).ids,
        runtime.rowId value = .ok (some found) ∧
          Completes (next (some found)) post session := by
  rw [Completes, wp_bind, wp_find]
  cases hrow : runtime.rowId value with
  | error throwable => simp
  | ok number =>
      cases number with
      | none => simpa using hmissing
      | some number =>
          by_cases hid : number ∈ (table session.managed).ids
          · simp [Option.filter_some, hid]
          · simpa [Option.filter_some, hid] using hmissing

/-- `find` with the number in the path. -/
theorem completes_findPath_iff {Row : Type} {runtime : Runtime}
    {table : Tables → Table Row} {id : ℕ} {next : Option ℕ → Action Out}
    {post : Out → Session → Prop}
    (hmissing : ¬ Completes (next none) post session) :
    Completes (find runtime table (.int id) >>= next) post session ↔
      id ∈ (table session.managed).ids ∧ Completes (next (some id)) post session := by
  rw [completes_findOr_iff hmissing]
  simp only [Runtime.rowId_int, Except.ok.injEq, Option.some.injEq]
  constructor
  · rintro ⟨found, hfound, rfl, hnext⟩
    exact ⟨hfound, hnext⟩
  · rintro ⟨hid, hnext⟩
    exact ⟨id, hid, rfl, hnext⟩

theorem completes_flush_iff {post : Unit → Session → Prop} :
    Completes flush post session ↔
      ∃ tables fresh, session.commit = .ok (tables, fresh) ∧
        ∃ hvalid : tables.store.Valid,
          post () { Session.start ⟨tables.store, hvalid⟩ with insertId := fresh } := by
  rw [Completes, wp_flush]
  cases session.commit with
  | error throwable => simp
  | ok result =>
      obtain ⟨tables, fresh⟩ := result
      by_cases hvalid : tables.store.Valid
      · simp only [hvalid, dite_true, Except.ok.injEq, Prod.mk.injEq]
        constructor
        · intro hpost
          exact ⟨tables, fresh, ⟨rfl, rfl⟩, hvalid, hpost⟩
        · rintro ⟨_, _, ⟨rfl, rfl⟩, _, hpost⟩
          exact hpost
      · simp only [hvalid, dite_false, Except.ok.injEq, Prod.mk.injEq, false_iff]
        rintro ⟨_, _, ⟨rfl, rfl⟩, hvalid', -⟩
        exact hvalid hvalid'

/-- A flush whose statements are known completes exactly when the server
accepts the result, as its columns take it. -/
theorem completes_flush_of_commit {post : Unit → Session → Prop} {tables stored : Tables}
    {fresh : ℕ} (hcommit : session.commit = .ok (tables, fresh))
    (hstored : tables.store = stored) :
    Completes flush post session ↔
      ∃ hvalid : stored.Valid,
        post () { Session.start ⟨stored, hvalid⟩ with insertId := fresh } := by
  subst hstored
  rw [completes_flush_iff, hcommit]
  simp only [Except.ok.injEq, Prod.mk.injEq]
  constructor
  · rintro ⟨_, _, ⟨rfl, rfl⟩, hpost⟩
    exact hpost
  · intro hpost
    exact ⟨tables, fresh, ⟨rfl, rfl⟩, hpost⟩

/-- An object without a value for a `NOT NULL` column cannot be stored. -/
theorem not_completes_persist {Next : Type} {entity : Entity}
    (hinsert : ∀ tables, entity.insert tables = none) {next : Unit → Action Next}
    {post : Next → Session → Prop} :
    ¬ Completes (persist entity >>= fun _ => flush >>= next) post session := by
  have hcommit : Session.commit { session with persisted := some entity } =
      .error .integrityViolation := by
    simp only [Session.commit, hinsert]
    rfl
  rw [Completes, wp_bind, wp_persist, wp_bind, wp_flush, hcommit]
  exact fun hfalse => hfalse

end Completes

end Action

end Bibliotheque
