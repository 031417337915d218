import Mathlib.Data.Option.Basic
import Mathlib.Tactic.Common

/-!
# Writing back what changed since it was read

A column is written only if it differs from the value its writer had read.
Two writers that read the same value and then write one after the other end
with a value that one of the two serial orders also gives, but the two orders
may be different ones for different columns.  `none` stands for a writer that
does not mention the column.
-/

namespace Bibliotheque

variable {Column : Type*} [DecidableEq Column]

/-- A column is written only if it differs from the value that was read. -/
def column (loaded managed stored : Column) : Column :=
  if managed = loaded then stored else managed

theorem column_loaded (loaded managed : Column) :
    column loaded managed loaded = managed := by
  unfold column
  split
  · rename_i hsame
    exact hsame.symm
  · rfl

@[simp]
theorem column_unchanged (loaded stored : Column) :
    column loaded loaded stored = stored := by
  simp [column]

section TwoWriters

/-! The column may `store` another value than the one it is given, such as a text
without its excess spaces. -/

/-- The second writer sends the value both had read, and the first one another:
the second write is skipped. -/
def SetBack {Column : Type*} (store : Column → Column) (old : Column)
    (first second : Option Column) : Prop :=
  second = some old ∧ ∃ sent, first = some sent ∧ store sent ≠ old

/-- The two writers send different values, and the second one changes what it
had read: the second write wins. -/
def Contested {Column : Type*} (store : Column → Column) (old : Column)
    (first second : Option Column) : Prop :=
  ∃ sent late, first = some sent ∧ second = some late ∧ late ≠ old ∧
    store late ≠ store sent

variable {store : Column → Column} {old : Column} (hold : store old = old)
variable (hstore : ∀ value, store (store value) = store value)
variable (first second : Option Column)

include hold hstore

/-- The overlapped result is that of the first writer followed by the second,
unless the second write was skipped. -/
theorem column_eq_first_then_second_iff :
    store (column old (second.getD old) (store (first.getD old))) =
      store (second.getD (store (first.getD old))) ↔ ¬ SetBack store old first second := by
  cases second with
  | none => simp [SetBack]
  | some late =>
      by_cases hlate : late = old
      · subst hlate
        cases first with
        | none => simp [SetBack, column, hstore]
        | some sent => simp [SetBack, column, hstore, hold]
      · simp [SetBack, column, hlate]

/-- It is that of the second writer followed by the first, unless the two
disagree on a value that the second one changed. -/
theorem column_eq_second_then_first_iff :
    store (column old (second.getD old) (store (first.getD old))) =
      store (first.getD (store (second.getD old))) ↔
        ¬ Contested store old first second := by
  cases first with
  | none => simp [Contested, column_loaded, hold, hstore]
  | some sent =>
      cases second with
      | none => simp [Contested, hstore]
      | some late =>
          by_cases hlate : late = old
          · simp [Contested, column, hlate, hstore]
          · simp [Contested, column, hlate]

/-- No column can be both skipped and contested. -/
theorem column_eq_serial :
    store (column old (second.getD old) (store (first.getD old))) =
        store (second.getD (store (first.getD old))) ∨
      store (column old (second.getD old) (store (first.getD old))) =
        store (first.getD (store (second.getD old))) := by
  rw [column_eq_first_then_second_iff hold hstore,
    column_eq_second_then_first_iff hold hstore]
  by_contra hboth
  push Not at hboth
  obtain ⟨⟨hback, -⟩, sent, late, -, hlate, hchanged, -⟩ := hboth
  rw [hback] at hlate
  exact hchanged (Option.some.inj hlate).symm

end TwoWriters

/-- What holds of the old value and of the result holds of a value that was
sent. -/
theorem getD_of_column (property : Column → Prop) {old stored : Column}
    {sent : Option Column} (hold : property old)
    (hresult : property (column old (sent.getD old) stored)) {fallback : Column}
    (hfallback : property fallback) : property (sent.getD fallback) := by
  cases sent with
  | none => exact hfallback
  | some value =>
      by_cases hvalue : value = old
      · simpa [hvalue] using hold
      · simpa [column, hvalue] using hresult

/-! ## Any number of writers -/

/-- The value that is written, if it differs from the one that was read. -/
def changed (loaded managed : Column) : Option Column :=
  if managed = loaded then none else some managed

theorem column_eq_getD_changed (loaded managed stored : Column) :
    column loaded managed stored = (changed loaded managed).getD stored := by
  unfold column changed
  split <;> rfl

omit [DecidableEq Column] in
/-- Writers one after the other leave the value of the last one that wrote. -/
theorem foldl_getD_eq_getLastD {Writer : Type*} (write : Writer → Option Column) :
    ∀ (writers : List Writer) (stored : Column),
      writers.foldl (fun found writer => (write writer).getD found) stored =
        (writers.filterMap write).getLastD stored := by
  intro writers
  induction writers with
  | nil => exact fun _ => rfl
  | cons writer writers ih =>
      intro stored
      rw [List.foldl_cons, ih]
      cases hwrite : write writer with
      | none => rw [List.filterMap_cons_none hwrite, Option.getD_none]
      | some sent => rw [List.filterMap_cons_some hwrite, Option.getD_some, List.getLastD_cons]

end Bibliotheque
