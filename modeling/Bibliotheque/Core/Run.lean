import Mathlib.Data.List.Basic

/-!
# Runs of a state machine

A run applies a sequence of operations one after the other.  A property of the
state that every permitted operation keeps holds after every run made of
permitted operations.
-/

namespace Bibliotheque.Run

variable {State Op : Type*}

/-- The state after a sequence of operations. -/
def run (step : State → Op → State) (start : State) (ops : List Op) : State :=
  ops.foldl step start

/-- Every operation of the sequence is permitted in the state it meets. -/
def Permitted (step : State → Op → State) (allowed : State → Op → Prop) :
    State → List Op → Prop
  | _, [] => True
  | state, op :: ops => allowed state op ∧ Permitted step allowed (step state op) ops

@[simp]
theorem run_nil (step : State → Op → State) (start : State) :
    run step start [] = start := rfl

@[simp]
theorem run_cons (step : State → Op → State) (start : State) (op : Op)
    (ops : List Op) :
    run step start (op :: ops) = run step (step start op) ops := rfl

theorem permitted_true {step : State → Op → State} :
    ∀ (ops : List Op) (start : State),
      Permitted step (fun _ _ => True) start ops := by
  intro ops
  induction ops with
  | nil => intro _; trivial
  | cons op ops ih => exact fun start => ⟨trivial, ih (step start op)⟩

/-- Operations that are permitted in every state. -/
theorem permitted_iff_forall {step : State → Op → State} {property : Op → Prop} :
    ∀ (ops : List Op) (start : State),
      Permitted step (fun _ op => property op) start ops ↔ ∀ op ∈ ops, property op := by
  intro ops
  induction ops with
  | nil => exact fun _ => iff_of_true trivial (by simp)
  | cons op ops ih =>
      intro start
      rw [List.forall_mem_cons, ← ih (step start op)]
      rfl

/-- The invariant rule. -/
theorem invariant_run {step : State → Op → State} {allowed : State → Op → Prop}
    (invariant : State → Prop)
    (hstep : ∀ state op, invariant state → allowed state op →
      invariant (step state op)) :
    ∀ (ops : List Op) (start : State), invariant start →
      Permitted step allowed start ops → invariant (run step start ops) := by
  intro ops
  induction ops with
  | nil => intro start hstart _; exact hstart
  | cons op ops ih =>
      intro start hstart hallowed
      exact ih (step start op) (hstep start op hstart hallowed.1) hallowed.2

/-- The exact rule: where an operation keeps the invariant only when it is
permitted, the states on the way all satisfy the invariant only when every
operation is permitted. -/
theorem invariant_prefixes_iff {step : State → Op → State}
    {allowed : State → Op → Prop} (invariant : State → Prop)
    (hstep : ∀ state op, invariant state →
      (invariant (step state op) ↔ allowed state op)) :
    ∀ (ops : List Op) (start : State), invariant start →
      ((∀ before, before <+: ops → invariant (run step start before)) ↔
        Permitted step allowed start ops) := by
  intro ops
  induction ops with
  | nil =>
      intro start hstart
      constructor
      · exact fun _ => trivial
      · intro _ before hbefore
        rw [List.prefix_nil.mp hbefore]
        exact hstart
  | cons op ops ih =>
      intro start hstart
      constructor
      · intro hall
        have hnext : invariant (step start op) :=
          hall [op] (List.cons_prefix_cons.mpr ⟨rfl, List.nil_prefix⟩)
        exact ⟨(hstep start op hstart).mp hnext,
          (ih (step start op) hnext).mp fun before hbefore =>
            hall (op :: before) (List.cons_prefix_cons.mpr ⟨rfl, hbefore⟩)⟩
      · intro hpermitted before hbefore
        have hnext := (hstep start op hstart).mpr hpermitted.1
        cases before with
        | nil => exact hstart
        | cons first before =>
            obtain ⟨rfl, hrest⟩ := List.cons_prefix_cons.mp hbefore
            exact (ih (step start first) hnext).mpr hpermitted.2 before hrest

/-- The simulation rule: a relation to an abstract machine that every permitted
operation keeps holds after every permitted run. -/
theorem simulation_run {Abstract : Type*} {step : State → Op → State}
    {allowed : State → Op → Prop} {abstractStep : Abstract → Op → Abstract}
    (relation : State → Abstract → Prop)
    (hstep : ∀ state abstract op, relation state abstract → allowed state op →
      relation (step state op) (abstractStep abstract op)) :
    ∀ (ops : List Op) (start : State) (abstract : Abstract), relation start abstract →
      Permitted step allowed start ops →
        relation (run step start ops) (run abstractStep abstract ops) := by
  intro ops
  induction ops with
  | nil =>
      intro start abstract hrelated _
      exact hrelated
  | cons op ops ih =>
      intro start abstract hrelated hallowed
      exact ih (step start op) (abstractStep abstract op)
        (hstep start abstract op hrelated hallowed.1) hallowed.2

/-- What holds of every operation of a permitted sequence may be assumed of
each step. -/
theorem Permitted.and_forall {step : State → Op → State}
    {allowed : State → Op → Prop} {property : Op → Prop} :
    ∀ {ops : List Op} {start : State}, Permitted step allowed start ops →
      (∀ op ∈ ops, property op) →
        Permitted step (fun state op => allowed state op ∧ property op) start ops := by
  intro ops
  induction ops with
  | nil => intro _ _ _; trivial
  | cons op ops ih =>
      intro start hpermitted hproperty
      refine ⟨⟨hpermitted.1, hproperty op List.mem_cons_self⟩, ?_⟩
      exact ih hpermitted.2 fun other hother =>
        hproperty other (List.mem_cons_of_mem op hother)

/-! ## What a run emits -/

section Trace

variable {Event : Type*} {step : State → Op → State} {emit : State → Op → List Event}

/-- The events of a run, in order. -/
def trace (step : State → Op → State) (emit : State → Op → List Event) :
    State → List Op → List Event
  | _, [] => []
  | state, op :: ops => emit state op ++ trace step emit (step state op) ops

@[simp]
theorem trace_nil (start : State) : trace step emit start [] = [] := rfl

@[simp]
theorem trace_cons (start : State) (op : Op) (ops : List Op) :
    trace step emit start (op :: ops) = emit start op ++ trace step emit (step start op) ops :=
  rfl

theorem forall_mem_trace (property : Event → Prop)
    (hemit : ∀ state op, ∀ event ∈ emit state op, property event) :
    ∀ (ops : List Op) (start : State), ∀ event ∈ trace step emit start ops,
      property event := by
  intro ops
  induction ops with
  | nil => exact fun _ event hevent => absurd hevent List.not_mem_nil
  | cons op ops ih =>
      intro start event hevent
      rcases List.mem_append.mp hevent with hfirst | hlater
      · exact hemit start op event hfirst
      · exact ih (step start op) event hlater

/-- The refinement rule: where the events of each step do to the view what the
step does to the state, the events of a run do what the run does. -/
theorem view_run_eq {View : Type*} {view : State → View} {apply : View → Event → View}
    {allowed : State → Op → Prop} (invariant : State → Prop)
    (hstep : ∀ state op, invariant state → allowed state op →
      invariant (step state op) ∧
        view (step state op) = run apply (view state) (emit state op)) :
    ∀ (ops : List Op) (start : State), invariant start → Permitted step allowed start ops →
      view (run step start ops) = run apply (view start) (trace step emit start ops) := by
  intro ops
  induction ops with
  | nil => exact fun _ _ _ => rfl
  | cons op ops ih =>
      intro start hstart hallowed
      obtain ⟨hnext, hview⟩ := hstep start op hstart hallowed.1
      rw [run_cons, ih (step start op) hnext hallowed.2, hview, trace_cons, run, run, run,
        List.foldl_append]

end Trace

end Bibliotheque.Run
