import Mathlib.Data.List.Nodup
import Mathlib.Data.List.Range

/-!
# First occurrences

A scan of a list that keeps an item when its key has not been seen before.
Each kept item stays as it is, so in a numbered list the numbers of the kept
items have no gap exactly when nothing new follows a repetition.
-/

namespace Bibliotheque.Distinct

variable {Item Key : Type*} [DecidableEq Key] (key : Item → Key)

/-- The items whose key is new. -/
def distinct (seen : List Key) : List Item → List Item
  | [] => []
  | item :: items =>
      if key item ∈ seen then distinct seen items
      else item :: distinct (key item :: seen) items

theorem distinct_cons_of_mem {seen : List Key} {item : Item}
    (hseen : key item ∈ seen) (items : List Item) :
    distinct key seen (item :: items) = distinct key seen items :=
  if_pos hseen

theorem distinct_cons_of_not_mem {seen : List Key} {item : Item}
    (hnew : key item ∉ seen) (items : List Item) :
    distinct key seen (item :: items) =
      item :: distinct key (key item :: seen) items :=
  if_neg hnew

variable {key}

theorem distinct_sublist (items : List Item) :
    ∀ seen, (distinct key seen items).Sublist items := by
  induction items with
  | nil => exact fun _ => .slnil
  | cons item items ih =>
      intro seen
      by_cases hseen : key item ∈ seen
      · rw [distinct_cons_of_mem key hseen]
        exact (ih seen).cons item
      · rw [distinct_cons_of_not_mem key hseen]
        exact (ih (key item :: seen)).cons_cons item

/-- The kept keys are the keys that were not seen before. -/
theorem mem_map_distinct {value : Key} (items : List Item) :
    ∀ seen, value ∈ (distinct key seen items).map key ↔
      value ∈ items.map key ∧ value ∉ seen := by
  induction items with
  | nil => simp [distinct]
  | cons item items ih =>
      intro seen
      by_cases hseen : key item ∈ seen
      · rw [distinct_cons_of_mem key hseen, ih, List.map_cons, List.mem_cons]
        constructor
        · exact fun hkept => ⟨Or.inr hkept.1, hkept.2⟩
        · rintro ⟨rfl | hlater, hnew⟩
          · exact absurd hseen hnew
          · exact ⟨hlater, hnew⟩
      · rw [distinct_cons_of_not_mem key hseen, List.map_cons, List.map_cons,
          List.mem_cons, List.mem_cons, ih, List.mem_cons]
        by_cases hvalue : value = key item
        · simp [hvalue, hseen]
        · simp [hvalue]

theorem nodup_map_distinct (items : List Item) :
    ∀ seen, ((distinct key seen items).map key).Nodup := by
  induction items with
  | nil => exact fun _ => List.nodup_nil
  | cons item items ih =>
      intro seen
      by_cases hseen : key item ∈ seen
      · rw [distinct_cons_of_mem key hseen]
        exact ih seen
      · rw [distinct_cons_of_not_mem key hseen, List.map_cons, List.nodup_cons,
          mem_map_distinct]
        exact ⟨fun hkept => hkept.2 List.mem_cons_self, ih _⟩

theorem mem_distinct_id {value : Key} (values seen : List Key) :
    value ∈ distinct id seen values ↔ value ∈ values ∧ value ∉ seen := by
  rw [← List.map_id (distinct id seen values), mem_map_distinct, List.map_id]

theorem nodup_distinct_id (values seen : List Key) :
    (distinct id seen values).Nodup := by
  rw [← List.map_id (distinct id seen values)]
  exact nodup_map_distinct values seen

/-- The keys of the kept items are the kept keys. -/
theorem map_distinct (items : List Item) :
    ∀ seen, (distinct key seen items).map key = distinct id seen (items.map key) := by
  induction items with
  | nil => exact fun _ => rfl
  | cons item items ih =>
      intro seen
      rw [List.map_cons]
      by_cases hseen : key item ∈ seen
      · rw [distinct_cons_of_mem key hseen, ih]
        exact (distinct_cons_of_mem id (hseen : id (key item) ∈ seen) _).symm
      · rw [distinct_cons_of_not_mem key hseen, List.map_cons, ih]
        exact (distinct_cons_of_not_mem id (hseen : id (key item) ∉ seen) _).symm

/-- Renaming the items changes nothing in what is kept. -/
theorem distinct_map {Other : Type*} (rename : Other → Item) (items : List Other) :
    ∀ seen, distinct key seen (items.map rename) =
      (distinct (key ∘ rename) seen items).map rename := by
  induction items with
  | nil => exact fun _ => rfl
  | cons item items ih =>
      intro seen
      rw [List.map_cons]
      by_cases hseen : key (rename item) ∈ seen
      · rw [distinct_cons_of_mem key hseen, ih,
          distinct_cons_of_mem (key ∘ rename) (hseen : (key ∘ rename) item ∈ seen)]
      · rw [distinct_cons_of_not_mem key hseen, ih,
          distinct_cons_of_not_mem (key ∘ rename) (hseen : (key ∘ rename) item ∉ seen),
          List.map_cons]
        rfl

/-- Nothing is dropped from a list without repetitions. -/
theorem distinct_of_nodup (items : List Item) :
    ∀ seen, (items.map key).Nodup → (∀ item ∈ items, key item ∉ seen) →
      distinct key seen items = items := by
  induction items with
  | nil => exact fun _ _ _ => rfl
  | cons item items ih =>
      intro seen hnodup hnew
      obtain ⟨hitem, hitems⟩ := List.nodup_cons.mp hnodup
      rw [distinct_cons_of_not_mem key (hnew item List.mem_cons_self)]
      apply congrArg (item :: ·)
      apply ih _ hitems
      intro other hother hseen
      rcases List.mem_cons.mp hseen with hsame | hseen
      · exact hitem (hsame ▸ List.mem_map_of_mem hother)
      · exact hnew other (List.mem_cons_of_mem item hother) hseen

/-- An item whose key occurs before is dropped from the end. -/
theorem distinct_concat_of_mem {last : Item} (items : List Item) :
    ∀ seen, key last ∈ seen ∨ key last ∈ items.map key →
      distinct key seen (items ++ [last]) = distinct key seen items := by
  induction items with
  | nil =>
      intro seen hlast
      have hseen := hlast.resolve_right List.not_mem_nil
      exact distinct_cons_of_mem key hseen []
  | cons item items ih =>
      intro seen hlast
      rw [List.map_cons, List.mem_cons] at hlast
      rw [List.cons_append]
      by_cases hseen : key item ∈ seen
      · rw [distinct_cons_of_mem key hseen, distinct_cons_of_mem key hseen]
        apply ih
        rcases hlast with hlast | hlast | hlast
        · exact Or.inl hlast
        · exact Or.inl (hlast ▸ hseen)
        · exact Or.inr hlast
      · rw [distinct_cons_of_not_mem key hseen, distinct_cons_of_not_mem key hseen]
        apply congrArg (item :: ·)
        apply ih
        rcases hlast with hlast | hlast | hlast
        · exact Or.inl (List.mem_cons_of_mem _ hlast)
        · exact Or.inl (List.mem_cons.mpr (Or.inl hlast))
        · exact Or.inr hlast

/-! ## Gaps -/

/-- Once a value repeats, or occurs among the seen ones, every later value is a
repetition too. -/
def Settled (seen values : List Key) : Prop :=
  ∀ before value after, values = before ++ value :: after →
    value ∈ seen ++ before → ∀ later ∈ after, later ∈ seen ++ before

omit [DecidableEq Key] in
theorem settled_nil (seen : List Key) : Settled seen [] := by
  intro before value after hsplit
  exact absurd hsplit (by simp)

omit [DecidableEq Key] in
theorem settled_cons_of_mem {seen values : List Key} {value : Key}
    (hseen : value ∈ seen) :
    Settled seen (value :: values) ↔ ∀ later ∈ values, later ∈ seen := by
  constructor
  · intro hsettled later hlater
    have hbefore := hsettled [] value values rfl (by rwa [List.append_nil]) later hlater
    rwa [List.append_nil] at hbefore
  · intro hall before repeated after hsplit _ later hlater
    apply List.mem_append_left
    cases before with
    | nil =>
        rw [List.nil_append, List.cons.injEq] at hsplit
        exact hall later (hsplit.2 ▸ hlater)
    | cons first before =>
        rw [List.cons_append, List.cons.injEq] at hsplit
        rw [hsplit.2] at hall
        exact hall later (List.mem_append_right _ (List.mem_cons_of_mem _ hlater))

omit [DecidableEq Key] in
theorem settled_cons_of_not_mem {seen values : List Key} {value : Key}
    (hnew : value ∉ seen) :
    Settled seen (value :: values) ↔ Settled (value :: seen) values := by
  have hperm : ∀ before other, other ∈ value :: seen ++ before ↔
      other ∈ seen ++ value :: before := by
    intro before other
    simp only [List.cons_append, List.mem_cons, List.mem_append]
    tauto
  constructor
  · intro hsettled before repeated after hsplit hrepeated later hlater
    rw [hperm] at hrepeated ⊢
    exact hsettled (value :: before) repeated after (by rw [hsplit]; rfl) hrepeated
      later hlater
  · intro hsettled before repeated after hsplit hrepeated later hlater
    cases before with
    | nil =>
        rw [List.nil_append, List.cons.injEq] at hsplit
        rw [List.append_nil, ← hsplit.1] at hrepeated
        exact absurd hrepeated hnew
    | cons first before =>
        rw [List.cons_append, List.cons.injEq] at hsplit
        obtain ⟨rfl, hsplit⟩ := hsplit
        rw [← hperm] at hrepeated ⊢
        exact hsettled before repeated after hsplit hrepeated later hlater

/-- The numbers of the kept items of a numbered list. -/
def indices (seen values : List Key) (start : ℕ) : List ℕ :=
  (distinct Prod.fst seen (values.zipIdx start)).map Prod.snd

theorem le_of_mem_indices {seen values : List Key} {start index : ℕ}
    (hindex : index ∈ indices seen values start) : start ≤ index := by
  obtain ⟨item, hitem, rfl⟩ := List.mem_map.mp hindex
  exact List.le_snd_of_mem_zipIdx ((distinct_sublist _ seen).subset hitem)

/-- The numbers have no gap exactly when nothing new follows a repetition. -/
theorem indices_eq_range'_iff (values : List Key) :
    ∀ (seen : List Key) (start : ℕ),
      indices seen values start =
          List.range' start (indices seen values start).length ↔
        Settled seen values := by
  induction values with
  | nil =>
      intro seen start
      exact iff_of_true rfl (settled_nil seen)
  | cons value values ih =>
      intro seen start
      by_cases hseen : value ∈ seen
      · have hskip : indices seen (value :: values) start =
            indices seen values (start + 1) := by
          rw [indices, List.zipIdx_cons, distinct_cons_of_mem Prod.fst hseen, indices]
        rw [hskip, settled_cons_of_mem hseen]
        constructor
        · intro hrange later hlater
          by_contra hnew
          -- a new value later on has a number above `start`, which is then missing
          have hkept : later ∈ (distinct Prod.fst seen
              (values.zipIdx (start + 1))).map Prod.fst :=
            (mem_map_distinct _ seen).mpr ⟨by rwa [List.zipIdx_map_fst], hnew⟩
          have hlength : 0 < (indices seen values (start + 1)).length := by
            rw [indices, List.length_map]
            exact List.length_pos_of_mem (List.mem_map.mp hkept).choose_spec.1
          have hstart : start ∈ indices seen values (start + 1) := by
            rw [hrange]
            exact List.mem_range'_1.mpr ⟨le_rfl, by omega⟩
          have := le_of_mem_indices hstart
          omega
        · intro hall
          have hnone : indices seen values (start + 1) = [] := by
            rw [indices, List.map_eq_nil_iff, ← List.map_eq_nil_iff (f := Prod.fst),
              List.eq_nil_iff_forall_not_mem]
            intro later hlater
            obtain ⟨hmem, hnew⟩ := (mem_map_distinct _ seen).mp hlater
            rw [List.zipIdx_map_fst] at hmem
            exact hnew (hall later hmem)
          rw [hnone]
          rfl
      · have hkeep : indices seen (value :: values) start =
            start :: indices (value :: seen) values (start + 1) := by
          rw [indices, List.zipIdx_cons, distinct_cons_of_not_mem Prod.fst hseen, indices]
          rfl
        rw [hkeep, settled_cons_of_not_mem hseen, ← ih (value :: seen) (start + 1),
          List.length_cons, List.range'_succ, List.cons.injEq]
        exact and_iff_right rfl

end Bibliotheque.Distinct
