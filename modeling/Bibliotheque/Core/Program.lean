import Mathlib.Init
import Mathlib.Tactic.Common

/-!
# Pre- and postconditions of programs that can stop

A request handler reads and writes a state and can stop at any statement, with
an early answer or an exception, and the state it has reached by then is kept.
That is a program of `EStateM`.  `wp program post stop start` says what holds
when `program` runs from `start`: `post` of its value and final state if it
runs to the end, and `stop` of the reason and the state reached if it stops.
-/

namespace Bibliotheque.Program

variable {Halt State Out Next : Type}

/-- Weakest precondition of a program. -/
def wp (program : EStateM Halt State Out) (post : Out → State → Prop)
    (stop : Halt → State → Prop) (start : State) : Prop :=
  match program start with
  | .ok value final => post value final
  | .error halt final => stop halt final

variable {post : Out → State → Prop} {stop : Halt → State → Prop}
variable {start : State}

@[simp]
theorem wp_pure (value : Out) :
    wp (pure value : EStateM Halt State Out) post stop start ↔
      post value start := Iff.rfl

@[simp]
theorem wp_throw (halt : Halt) :
    wp (throw halt : EStateM Halt State Out) post stop start ↔
      stop halt start := Iff.rfl

@[simp]
theorem wp_get {post : State → State → Prop} :
    wp (get : EStateM Halt State State) post stop start ↔ post start start :=
  Iff.rfl

@[simp]
theorem wp_modify {post : PUnit → State → Prop} (rewrite : State → State) :
    wp (modify rewrite : EStateM Halt State PUnit) post stop start ↔
      post PUnit.unit (rewrite start) := Iff.rfl

@[simp]
theorem wp_bind {post : Next → State → Prop}
    (program : EStateM Halt State Out) (next : Out → EStateM Halt State Next) :
    wp (program >>= next) post stop start ↔
      wp program (fun value => wp (next value) post stop) stop start := by
  change (match EStateM.bind program next start with
    | .ok value final => post value final
    | .error halt final => stop halt final) ↔ _
  unfold wp EStateM.bind
  cases program start with
  | ok value final => rfl
  | error halt final => rfl

@[simp]
theorem wp_map {post : Next → State → Prop}
    (program : EStateM Halt State Out) (convert : Out → Next) :
    wp (convert <$> program) post stop start ↔
      wp program (fun value => post (convert value)) stop start := by
  change (match EStateM.map convert program start with
    | .ok value final => post value final
    | .error halt final => stop halt final) ↔ _
  unfold wp EStateM.map
  cases program start with
  | ok value final => rfl
  | error halt final => rfl

@[simp]
theorem wp_ite (condition : Prop) [Decidable condition]
    (yes no : EStateM Halt State Out) :
    wp (if condition then yes else no) post stop start ↔
      if condition then wp yes post stop start else wp no post stop start := by
  split <;> rfl

/-- A stronger outcome implies a weaker one. -/
theorem wp_mono {program : EStateM Halt State Out}
    {weaker : Out → State → Prop} {weakerStop : Halt → State → Prop}
    (hwp : wp program post stop start)
    (hpost : ∀ value final, post value final → weaker value final)
    (hstop : ∀ halt final, stop halt final → weakerStop halt final) :
    wp program weaker weakerStop start := by
  unfold wp at hwp ⊢
  cases hrun : program start with
  | ok value final =>
      rw [hrun] at hwp
      exact hpost value final hwp
  | error halt final =>
      rw [hrun] at hwp
      exact hstop halt final hwp

/-- The program runs to its end, and `post` holds there. -/
theorem wp_stop_false_iff {program : EStateM Halt State Out} :
    wp program post (fun _ _ => False) start ↔
      ∃ value final, program start = .ok value final ∧ post value final := by
  unfold wp
  cases program start with
  | ok value final => simp
  | error halt final => simp

/-- A loop keeps what each of its turns keeps. -/
theorem wp_forM {Item : Type} {body : Item → EStateM Halt State PUnit}
    {invariant : State → Prop} :
    ∀ {items : List Item}, (∀ item ∈ items, ∀ state, invariant state →
        wp (body item) (fun _ => invariant) stop state) →
      ∀ start, invariant start →
        wp (items.forM body) (fun _ => invariant) stop start := by
  intro items
  induction items with
  | nil => exact fun _ _ hstart => hstart
  | cons item items ih =>
      intro hbody start hstart
      change wp (body item >>= fun _ => items.forM body) _ _ _
      rw [wp_bind]
      refine wp_mono (hbody item (by simp) start hstart) ?_ (fun _ _ hstop => hstop)
      intro _ middle hmiddle
      exact ih (fun item hitem => hbody item (by simp [hitem])) middle hmiddle

/-- A loop over at least one item establishes what each turn establishes. -/
theorem wp_forM_of_ne_nil {Item : Type} {body : Item → EStateM Halt State PUnit}
    {before after : State → Prop} (hafter : ∀ state, after state → before state)
    (hbody : ∀ item state, before state →
      wp (body item) (fun _ => after) stop state) :
    ∀ {items : List Item}, items ≠ [] → ∀ start, before start →
      wp (items.forM body) (fun _ => after) stop start := by
  intro items
  induction items with
  | nil => exact fun hempty => absurd rfl hempty
  | cons item items ih =>
      intro _ start hstart
      change wp (body item >>= fun _ => items.forM body) _ _ _
      rw [wp_bind]
      refine wp_mono (hbody item start hstart) ?_ (fun _ _ hstop => hstop)
      intro _ middle hmiddle
      cases items with
      | nil => exact hmiddle
      | cons next items => exact ih (by simp) middle (hafter middle hmiddle)

/-! ## Invariants of a program -/

/-- A program started where `invariant` holds ends where it holds, whether it
runs to the end or stops. -/
def Maintains (invariant : State → Prop)
    (program : EStateM Halt State Out) : Prop :=
  ∀ start, invariant start →
    wp program (fun _ => invariant) (fun _ => invariant) start

section Maintains

variable {invariant : State → Prop}

theorem maintains_pure (value : Out) :
    Maintains invariant (pure value : EStateM Halt State Out) :=
  fun _ hstart => hstart

theorem maintains_throw (halt : Halt) :
    Maintains invariant (throw halt : EStateM Halt State Out) :=
  fun _ hstart => hstart

theorem maintains_get :
    Maintains invariant (get : EStateM Halt State State) :=
  fun _ hstart => hstart

theorem maintains_modify {rewrite : State → State}
    (hrewrite : ∀ state, invariant state → invariant (rewrite state)) :
    Maintains invariant (modify rewrite : EStateM Halt State PUnit) :=
  hrewrite

theorem Maintains.bind {program : EStateM Halt State Out}
    {next : Out → EStateM Halt State Next} (hprogram : Maintains invariant program)
    (hnext : ∀ value, Maintains invariant (next value)) :
    Maintains invariant (program >>= next) := by
  intro start hstart
  rw [wp_bind]
  refine wp_mono (hprogram start hstart) ?_ (fun _ _ hstop => hstop)
  intro value middle hmiddle
  exact hnext value middle hmiddle

theorem Maintains.ite {condition : Prop} [Decidable condition]
    {yes no : EStateM Halt State Out} (hyes : Maintains invariant yes)
    (hno : Maintains invariant no) :
    Maintains invariant (if condition then yes else no) := by
  split
  · exact hyes
  · exact hno

/-- A loop maintains what its body maintains. -/
theorem Maintains.forM {Item : Type} {body : Item → EStateM Halt State PUnit}
    (hbody : ∀ item, Maintains invariant (body item)) (items : List Item) :
    Maintains invariant (items.forM body) := by
  induction items with
  | nil => exact maintains_pure _
  | cons item items ih => exact (hbody item).bind fun _ => ih

/-- A program that maintains `invariant` and only returns values with the
property `result`. -/
def Yields (invariant : State → Prop) (result : Out → Prop)
    (program : EStateM Halt State Out) : Prop :=
  ∀ start, invariant start →
    wp program (fun value final => result value ∧ invariant final)
      (fun _ => invariant) start

theorem Yields.bind {program : EStateM Halt State Out} {result : Out → Prop}
    {next : Out → EStateM Halt State Next}
    (hprogram : Yields invariant result program)
    (hnext : ∀ value, result value → Maintains invariant (next value)) :
    Maintains invariant (program >>= next) := by
  intro start hstart
  rw [wp_bind]
  refine wp_mono (hprogram start hstart) ?_ (fun _ _ hstop => hstop)
  rintro value middle ⟨hvalue, hmiddle⟩
  exact hnext value hvalue middle hmiddle

end Maintains

/-! ## Reasons to stop -/

/-- A program only stops for reasons with the property `reason`. -/
def Stops (reason : Halt → Prop) (program : EStateM Halt State Out) : Prop :=
  ∀ start, wp program (fun _ _ => True) (fun halt _ => reason halt) start

section Stops

variable {reason : Halt → Prop}

theorem stops_pure (value : Out) :
    Stops reason (pure value : EStateM Halt State Out) := fun _ => trivial

theorem stops_modify (rewrite : State → State) :
    Stops reason (modify rewrite : EStateM Halt State PUnit) := fun _ => trivial

theorem stops_throw {halt : Halt} (hreason : reason halt) :
    Stops reason (throw halt : EStateM Halt State Out) := fun _ => hreason

theorem Stops.bind {program : EStateM Halt State Out}
    {next : Out → EStateM Halt State Next} (hprogram : Stops reason program)
    (hnext : ∀ value, Stops reason (next value)) :
    Stops reason (program >>= next) := by
  intro start
  rw [wp_bind]
  refine wp_mono (hprogram start) ?_ (fun _ _ hstop => hstop)
  intro value middle _
  exact hnext value middle

theorem Stops.forM {Item : Type} {body : Item → EStateM Halt State PUnit}
    (hbody : ∀ item, Stops reason (body item)) (items : List Item) :
    Stops reason (items.forM body) := by
  induction items with
  | nil => exact stops_pure _
  | cons item items ih => exact (hbody item).bind fun _ => ih

/-- The reason of a run that stopped. -/
theorem Stops.of_error {program : EStateM Halt State Out}
    (hprogram : Stops reason program) {start final : State} {halt : Halt}
    (hrun : program start = .error halt final) : reason halt := by
  have hstart := hprogram start
  unfold wp at hstart
  rw [hrun] at hstart
  exact hstart

end Stops

/-- A program never changes what `view` shows of the state, however it ends. -/
def Preserves {View : Type} (view : State → View)
    (program : EStateM Halt State Out) : Prop :=
  ∀ shown, Maintains (fun state => view state = shown) program

section Preserves

variable {View : Type} {view : State → View}

theorem Preserves.wp {program : EStateM Halt State Out}
    (hprogram : Preserves view program) (start : State) :
    wp program (fun _ final => view final = view start)
      (fun _ final => view final = view start) start :=
  hprogram (view start) start rfl

theorem preserves_pure (value : Out) :
    Preserves view (pure value : EStateM Halt State Out) :=
  fun _ => maintains_pure value

theorem preserves_throw (halt : Halt) :
    Preserves view (throw halt : EStateM Halt State Out) :=
  fun _ => maintains_throw halt

theorem preserves_get : Preserves view (get : EStateM Halt State State) :=
  fun _ => maintains_get

theorem preserves_modify {rewrite : State → State}
    (hrewrite : ∀ state, view (rewrite state) = view state) :
    Preserves view (modify rewrite : EStateM Halt State PUnit) :=
  fun _ => maintains_modify fun state hstate => (hrewrite state).trans hstate

theorem Preserves.bind {program : EStateM Halt State Out}
    {next : Out → EStateM Halt State Next} (hprogram : Preserves view program)
    (hnext : ∀ value, Preserves view (next value)) :
    Preserves view (program >>= next) :=
  fun shown => (hprogram shown).bind fun value => hnext value shown

theorem Preserves.ite {condition : Prop} [Decidable condition]
    {yes no : EStateM Halt State Out} (hyes : Preserves view yes)
    (hno : Preserves view no) :
    Preserves view (if condition then yes else no) :=
  fun shown => (hyes shown).ite (hno shown)

theorem Preserves.forM {Item : Type} {body : Item → EStateM Halt State PUnit}
    (hbody : ∀ item, Preserves view (body item)) (items : List Item) :
    Preserves view (items.forM body) :=
  fun shown => Maintains.forM (fun item => hbody item shown) items

end Preserves

end Bibliotheque.Program
