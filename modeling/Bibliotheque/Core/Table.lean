import Mathlib.Data.List.Nodup
import Mathlib.Data.List.Basic

/-!
# Tables with an auto-incremented primary key

A table is the list of its rows in insertion order, each under a natural
number, together with the next number to give out.  The primary key and the
counter are invariants of the type: no two rows share a number and every
number in use lies below the counter.
-/

namespace Bibliotheque

variable {Row Other : Type*}

structure Table (Row : Type*) where
  rows : List (ℕ × Row)
  next : ℕ
  nodup_ids : (rows.map Prod.fst).Nodup
  lt_next : ∀ row ∈ rows, row.1 < next

namespace Table

def empty : Table Row where
  rows := []
  next := 1
  nodup_ids := List.nodup_nil
  lt_next := by simp

/-- The primary keys in use. -/
def ids (table : Table Row) : List ℕ :=
  table.rows.map Prod.fst

/-- `SELECT ... WHERE id = ?`. -/
def find (table : Table Row) (id : ℕ) : Option Row :=
  table.rows.lookup id

/-- `INSERT`: the row gets the next number. -/
def insert (table : Table Row) (row : Row) : Table Row where
  rows := table.rows ++ [(table.next, row)]
  next := table.next + 1
  nodup_ids := by
    simp only [List.map_append, List.map_cons, List.map_nil]
    refine List.nodup_append.mpr ⟨table.nodup_ids, List.nodup_singleton _, ?_⟩
    intro id hid other hother
    obtain ⟨stored, hstored, rfl⟩ := List.mem_map.mp hid
    have := table.lt_next stored hstored
    rw [List.mem_singleton.mp hother]
    omega
  lt_next := by
    intro stored hstored
    rcases List.mem_append.mp hstored with hstored | hstored
    · exact Nat.lt_succ_of_lt (table.lt_next stored hstored)
    · rw [List.mem_singleton.mp hstored]
      exact Nat.lt_succ_self _

/-- A row is put under its number, unless that is in use. -/
def adopt (table : Table Row) (id : ℕ) (row : Row) : Table Row :=
  if hid : id ∈ table.ids then table
  else {
    rows := table.rows ++ [(id, row)]
    next := max table.next (id + 1)
    nodup_ids := by
      simp only [List.map_append, List.map_cons, List.map_nil]
      refine List.nodup_append.mpr ⟨table.nodup_ids, List.nodup_singleton _, ?_⟩
      intro stored hstored other hother
      rw [List.mem_singleton.mp hother]
      rintro rfl
      exact hid hstored
    lt_next := by
      intro stored hstored
      rcases List.mem_append.mp hstored with hstored | hstored
      · exact Nat.lt_of_lt_of_le (table.lt_next stored hstored) (Nat.le_max_left _ _)
      · rw [List.mem_singleton.mp hstored]
        exact Nat.lt_of_lt_of_le (Nat.lt_succ_self _) (Nat.le_max_right _ _) }

/-- Rewrite every row from its number and its content. -/
def mapRows (table : Table Row) (rewrite : ℕ → Row → Row) : Table Row where
  rows := table.rows.map fun row => (row.1, rewrite row.1 row.2)
  next := table.next
  nodup_ids := by
    simpa [List.map_map, Function.comp_def] using table.nodup_ids
  lt_next := by
    intro stored hstored
    obtain ⟨row, hrow, rfl⟩ := List.mem_map.mp hstored
    exact table.lt_next row hrow

/-- Rewrite every row from its content. -/
def map (table : Table Row) (rewrite : Row → Row) : Table Row :=
  table.mapRows fun _ => rewrite

/-- The next number is lost. -/
def skip (table : Table Row) : Table Row where
  rows := table.rows
  next := table.next + 1
  nodup_ids := table.nodup_ids
  lt_next := fun row hrow => Nat.lt_succ_of_lt (table.lt_next row hrow)

/-- `UPDATE ... WHERE id = ?`. -/
def modify (table : Table Row) (id : ℕ) (rewrite : Row → Row) : Table Row :=
  table.mapRows fun stored row => if stored = id then rewrite row else row

/-- `DELETE`: keep the rows whose number satisfies `keep`. -/
def restrict (table : Table Row) (keep : ℕ → Bool) : Table Row where
  rows := table.rows.filter fun row => keep row.1
  next := table.next
  nodup_ids := table.nodup_ids.sublist (List.filter_sublist.map _)
  lt_next := fun row hrow => table.lt_next row (List.mem_of_mem_filter hrow)

theorem ext_rows {left right : Table Row} (hrows : left.rows = right.rows)
    (hnext : left.next = right.next) : left = right := by
  cases left
  cases right
  simp only at hrows hnext
  subst hrows hnext
  rfl

theorem find_eq_some_iff (table : Table Row) (id : ℕ) (row : Row) :
    table.find id = some row ↔ (id, row) ∈ table.rows := by
  obtain ⟨rows, next, hnodup, hlt⟩ := table
  simp only [find]
  clear hlt
  induction rows with
  | nil => simp
  | cons head tail ih =>
      obtain ⟨stored, content⟩ := head
      simp only [List.map_cons, List.nodup_cons] at hnodup
      by_cases hid : id = stored
      · subst hid
        have habsent : (id, row) ∉ tail := fun hrow =>
          hnodup.1 (List.mem_map.mpr ⟨_, hrow, rfl⟩)
        simp [habsent, eq_comm]
      · have hkey : (id == stored) = false := by simpa using hid
        simp [List.lookup_cons, hkey, ih hnodup.2, hid]

theorem find_isSome_iff (table : Table Row) (id : ℕ) :
    (table.find id).isSome ↔ id ∈ table.ids := by
  rw [Option.isSome_iff_exists, ids, List.mem_map]
  constructor
  · rintro ⟨row, hrow⟩
    exact ⟨(id, row), (find_eq_some_iff table id row).mp hrow, rfl⟩
  · rintro ⟨row, hrow, rfl⟩
    exact ⟨row.2, (find_eq_some_iff table _ _).mpr hrow⟩

theorem mem_ids_of_find {table : Table Row} {id : ℕ} {row : Row}
    (hfind : table.find id = some row) : id ∈ table.ids :=
  (find_isSome_iff table id).mp (by simp [hfind])

theorem mem_ids_of_mem {table : Table Row} {row : ℕ × Row}
    (hrow : row ∈ table.rows) : row.1 ∈ table.ids :=
  List.mem_map_of_mem hrow

theorem exists_find_of_mem_ids {table : Table Row} {id : ℕ}
    (hid : id ∈ table.ids) : ∃ row, table.find id = some row :=
  Option.isSome_iff_exists.mp ((find_isSome_iff table id).mpr hid)

/-- Two rows under one number are one row. -/
theorem eq_of_mem {table : Table Row} {id : ℕ} {left right : Row}
    (hleft : (id, left) ∈ table.rows) (hright : (id, right) ∈ table.rows) :
    left = right := by
  have hfind := (find_eq_some_iff table id left).mpr hleft
  rw [(find_eq_some_iff table id right).mpr hright] at hfind
  exact (Option.some.inj hfind).symm

theorem adopt_of_mem {table : Table Row} {id : ℕ} (hid : id ∈ table.ids) (row : Row) :
    table.adopt id row = table := dif_pos hid

theorem mem_ids_adopt (table : Table Row) (id other : ℕ) (row : Row) :
    other ∈ (table.adopt id row).ids ↔ other ∈ table.ids ∨ other = id := by
  by_cases hid : id ∈ table.ids
  · rw [adopt_of_mem hid]
    refine (or_iff_left_of_imp ?_).symm
    rintro rfl
    exact hid
  · rw [adopt, dif_neg hid]
    change other ∈ (table.rows ++ [(id, row)]).map Prod.fst ↔ _
    rw [List.map_append, List.mem_append]
    exact or_congr Iff.rfl List.mem_singleton

@[simp]
theorem rows_empty : (empty : Table Row).rows = [] := rfl

@[simp]
theorem ids_empty : (empty : Table Row).ids = [] := rfl

@[simp]
theorem rows_insert (table : Table Row) (row : Row) :
    (table.insert row).rows = table.rows ++ [(table.next, row)] := rfl

@[simp]
theorem ids_insert (table : Table Row) (row : Row) :
    (table.insert row).ids = table.ids ++ [table.next] := by
  simp [ids]

theorem mem_rows_insert {table : Table Row} {row : Row} {stored : ℕ × Row} :
    stored ∈ (table.insert row).rows ↔ stored ∈ table.rows ∨ stored = (table.next, row) := by
  simp

/-- A column without repetitions stays without exactly if the new row has a value
of its own. -/
theorem distinct_insert_iff {Column : Type*} {table : Table Row} {row : Row}
    {column : Row → Column}
    (hdistinct : ∀ left ∈ table.rows, ∀ right ∈ table.rows,
      column left.2 = column right.2 → left = right) :
    (∀ left ∈ (table.insert row).rows, ∀ right ∈ (table.insert row).rows,
        column left.2 = column right.2 → left = right) ↔
      ∀ stored ∈ table.rows, column stored.2 ≠ column row := by
  constructor
  · intro hall stored hstored heq
    have hsame : stored = (table.next, row) :=
      hall _ (mem_rows_insert.mpr (Or.inl hstored)) _ (mem_rows_insert.mpr (Or.inr rfl)) heq
    have hlt := table.lt_next stored hstored
    rw [hsame] at hlt
    exact Nat.lt_irrefl _ hlt
  · intro hfree left hleft right hright heq
    rcases mem_rows_insert.mp hleft with hleft | rfl
    · rcases mem_rows_insert.mp hright with hright | rfl
      · exact hdistinct left hleft right hright heq
      · exact absurd heq (hfree left hleft)
    · rcases mem_rows_insert.mp hright with hright | rfl
      · exact absurd heq.symm (hfree right hright)
      · rfl

theorem next_not_mem_ids (table : Table Row) : table.next ∉ table.ids := by
  intro hnext
  obtain ⟨row, hrow, hid⟩ := List.mem_map.mp hnext
  have := table.lt_next row hrow
  omega

theorem find_insert_next (table : Table Row) (row : Row) :
    (table.insert row).find table.next = some row := by
  rw [find_eq_some_iff]
  simp

theorem find_insert_of_ne (table : Table Row) (row : Row) {id : ℕ} (hne : id ≠ table.next) :
    (table.insert row).find id = table.find id := by
  ext found
  rw [find_eq_some_iff, find_eq_some_iff]
  simp [hne]

@[simp]
theorem rows_mapRows (table : Table Row) (rewrite : ℕ → Row → Row) :
    (table.mapRows rewrite).rows =
      table.rows.map fun row => (row.1, rewrite row.1 row.2) := rfl

@[simp]
theorem ids_mapRows (table : Table Row) (rewrite : ℕ → Row → Row) :
    (table.mapRows rewrite).ids = table.ids := by
  simp [ids, Function.comp_def]

@[simp]
theorem next_mapRows (table : Table Row) (rewrite : ℕ → Row → Row) :
    (table.mapRows rewrite).next = table.next := rfl

theorem find_mapRows (table : Table Row) (rewrite : ℕ → Row → Row) (id : ℕ) :
    (table.mapRows rewrite).find id = (table.find id).map (rewrite id) := by
  unfold find
  simp only [rows_mapRows]
  induction table.rows with
  | nil => rfl
  | cons head tail ih =>
      obtain ⟨stored, content⟩ := head
      by_cases hid : id = stored
      · subst hid
        simp
      · have hkey : (id == stored) = false := by simpa using hid
        simp [List.lookup_cons, hkey, ih]

theorem mapRows_congr {table : Table Row} {first second : ℕ → Row → Row}
    (hsame : ∀ row ∈ table.rows, first row.1 row.2 = second row.1 row.2) :
    table.mapRows first = table.mapRows second := by
  apply ext_rows
  · simp only [rows_mapRows]
    apply List.map_congr_left
    intro row hrow
    rw [hsame row hrow]
  · rfl

theorem mapRows_eq_self {table : Table Row} {rewrite : ℕ → Row → Row}
    (hsame : ∀ row ∈ table.rows, rewrite row.1 row.2 = row.2) :
    table.mapRows rewrite = table := by
  apply ext_rows
  · rw [rows_mapRows]
    calc
      table.rows.map (fun row => (row.1, rewrite row.1 row.2)) =
          table.rows.map fun row => row :=
        List.map_congr_left fun row hrow => Prod.ext rfl (hsame row hrow)
      _ = table.rows := List.map_id' table.rows
  · rfl

@[simp]
theorem ids_modify (table : Table Row) (id : ℕ) (rewrite : Row → Row) :
    (table.modify id rewrite).ids = table.ids :=
  ids_mapRows table _

@[simp]
theorem next_modify (table : Table Row) (id : ℕ) (rewrite : Row → Row) :
    (table.modify id rewrite).next = table.next := rfl

theorem find_modify_self (table : Table Row) (id : ℕ) (rewrite : Row → Row) :
    (table.modify id rewrite).find id = (table.find id).map rewrite := by
  simp [modify, find_mapRows]

theorem find_modify_of_ne (table : Table Row) {id other : ℕ}
    (rewrite : Row → Row) (hne : other ≠ id) :
    (table.modify id rewrite).find other = table.find other := by
  simp [modify, find_mapRows, hne]

theorem mem_rows_modify {table : Table Row} {id : ℕ} {rewrite : Row → Row}
    {row : ℕ × Row} (hrow : row ∈ (table.modify id rewrite).rows) :
    row ∈ table.rows ∨
      row.1 = id ∧ ∃ old, table.find id = some old ∧ row.2 = rewrite old := by
  obtain ⟨stored, hstored, rfl⟩ := List.mem_map.mp hrow
  by_cases hid : stored.1 = id
  · subst hid
    exact Or.inr ⟨rfl, stored.2, (find_eq_some_iff _ _ _).mpr hstored, by simp⟩
  · simpa [hid] using hstored

theorem find_replace {table : Table Row} {id : ℕ} (hid : id ∈ table.ids)
    (row : Row) : (table.modify id fun _ => row).find id = some row := by
  obtain ⟨old, hold⟩ := exists_find_of_mem_ids hid
  rw [find_modify_self, hold, Option.map_some]

theorem modify_modify (table : Table Row) (id : ℕ) (first second : Row → Row) :
    (table.modify id first).modify id second =
      table.modify id (second ∘ first) := by
  apply ext_rows
  · simp only [modify, rows_mapRows, List.map_map]
    apply List.map_congr_left
    intro row _
    by_cases hid : row.1 = id <;> simp [hid]
  · rfl

theorem modify_congr {table : Table Row} {id : ℕ} {first second : Row → Row}
    (hsame : ∀ row, table.find id = some row → first row = second row) :
    table.modify id first = table.modify id second := by
  apply mapRows_congr
  rintro ⟨stored, row⟩ hrow
  by_cases hid : stored = id
  · subst hid
    simp [hsame row ((find_eq_some_iff _ _ _).mpr hrow)]
  · simp [hid]

theorem modify_id (table : Table Row) (id : ℕ) :
    (table.modify id fun row => row) = table := by
  apply ext_rows
  · simp [modify]
  · rfl

/-- An update that rewrites the row to itself. -/
theorem modify_eq_self_iff {table : Table Row} {id : ℕ} {rewrite : Row → Row} :
    table.modify id rewrite = table ↔ ∀ row, table.find id = some row → rewrite row = row := by
  constructor
  · intro hsame row hrow
    have hfind := table.find_modify_self id rewrite
    rw [hsame, hrow] at hfind
    exact (Option.some.inj hfind).symm
  · intro hrow
    apply mapRows_eq_self
    intro stored hstored
    by_cases hid : stored.1 = id
    · subst hid
      rw [if_pos rfl]
      exact hrow stored.2 ((find_eq_some_iff _ _ _).mpr hstored)
    · rw [if_neg hid]

@[simp]
theorem ids_map (table : Table Row) (rewrite : Row → Row) :
    (table.map rewrite).ids = table.ids :=
  ids_mapRows table _

@[simp]
theorem next_map (table : Table Row) (rewrite : Row → Row) :
    (table.map rewrite).next = table.next := rfl

theorem mem_rows_map {table : Table Row} {rewrite : Row → Row} {row : ℕ × Row} :
    row ∈ (table.map rewrite).rows ↔ ∃ old ∈ table.rows, (old.1, rewrite old.2) = row :=
  List.mem_map

theorem map_eq_self {table : Table Row} {rewrite : Row → Row}
    (hsame : ∀ row ∈ table.rows, rewrite row.2 = row.2) : table.map rewrite = table :=
  mapRows_eq_self hsame

/-- Where the other rows are kept, rewriting all rows concerns the new one. -/
theorem map_insert {table : Table Row} {rewrite : Row → Row}
    (hsame : ∀ row ∈ table.rows, rewrite row.2 = row.2) (row : Row) :
    (table.insert row).map rewrite = table.insert (rewrite row) := by
  apply ext_rows
  · have hrows := congrArg rows (map_eq_self hsame)
    simp only [map, rows_mapRows] at hrows
    simp only [map, rows_mapRows, rows_insert, List.map_append, hrows, List.map_cons,
      List.map_nil]
  · rfl

theorem map_modify {table : Table Row} {rewrite : Row → Row}
    (hsame : ∀ row ∈ table.rows, rewrite row.2 = row.2) (id : ℕ) (change : Row → Row) :
    (table.modify id change).map rewrite = table.modify id (rewrite ∘ change) := by
  apply ext_rows
  · simp only [map, modify, rows_mapRows, List.map_map]
    apply List.map_congr_left
    intro row hrow
    by_cases hid : row.1 = id
    · simp [hid]
    · simp [hid, hsame row hrow]
  · rfl

@[simp]
theorem rows_skip (table : Table Row) : table.skip.rows = table.rows := rfl

@[simp]
theorem ids_skip (table : Table Row) : table.skip.ids = table.ids := rfl

@[simp]
theorem find_skip (table : Table Row) (id : ℕ) : table.skip.find id = table.find id := rfl

@[simp]
theorem next_skip (table : Table Row) : table.skip.next = table.next + 1 := rfl

@[simp]
theorem rows_restrict (table : Table Row) (keep : ℕ → Bool) :
    (table.restrict keep).rows = table.rows.filter fun row => keep row.1 := rfl

theorem mem_ids_restrict (table : Table Row) (keep : ℕ → Bool) (id : ℕ) :
    id ∈ (table.restrict keep).ids ↔ id ∈ table.ids ∧ keep id = true := by
  simp only [ids, rows_restrict, List.mem_map, List.mem_filter]
  constructor
  · rintro ⟨row, ⟨hrow, hkeep⟩, rfl⟩
    exact ⟨⟨row, hrow, rfl⟩, hkeep⟩
  · rintro ⟨⟨row, hrow, rfl⟩, hkeep⟩
    exact ⟨row, ⟨hrow, hkeep⟩, rfl⟩

theorem find_restrict (table : Table Row) (keep : ℕ → Bool) (id : ℕ) :
    (table.restrict keep).find id = if keep id then table.find id else none := by
  ext row
  rw [find_eq_some_iff, rows_restrict, List.mem_filter]
  split
  · rename_i hkeep
    simp [find_eq_some_iff, hkeep]
  · rename_i hkeep
    simp [hkeep]

theorem restrict_restrict (table : Table Row) (first second : ℕ → Bool) :
    (table.restrict first).restrict second =
      table.restrict fun id => first id && second id := by
  apply ext_rows
  · simp [List.filter_filter, Bool.and_comm]
  · rfl

/-- Writing, row by row, what a second table with the same numbers holds gives
that second table. -/
theorem mapRows_find_eq {left right : Table Row} (hids : left.ids = right.ids)
    (hnext : left.next = right.next) :
    (left.mapRows fun id row => (right.find id).getD row) = right := by
  apply ext_rows
  · simp only [rows_mapRows]
    apply List.ext_getElem?
    intro index
    have hindex : (left.rows[index]?).map Prod.fst =
        (right.rows[index]?).map Prod.fst := by
      rw [← List.getElem?_map, ← List.getElem?_map]
      exact congrArg (fun keys => keys[index]?) hids
    rw [List.getElem?_map]
    cases hleft : left.rows[index]? with
    | none =>
        rw [hleft] at hindex
        cases hright : right.rows[index]? with
        | none => rfl
        | some row => simp [hright] at hindex
    | some stored =>
        cases hright : right.rows[index]? with
        | none => simp [hleft, hright] at hindex
        | some row =>
            simp only [hleft, hright, Option.map_some, Option.some.injEq]
              at hindex ⊢
            have hmem : (stored.1, row.2) ∈ right.rows := by
              rw [hindex]
              exact List.mem_of_getElem? hright
            rw [(find_eq_some_iff right stored.1 row.2).mpr hmem, hindex]
            rfl
  · exact hnext

private theorem find?_eq_some_iff_takeWhile {Row : Type*} {test : ℕ × Row → Bool} {row : ℕ × Row} :
    ∀ {rows : List (ℕ × Row)}, (rows.map Prod.fst).Nodup → row ∈ rows →
      (rows.find? test = some row ↔
        test row ∧ ∀ other ∈ rows.takeWhile (fun other => other.1 ≠ row.1),
          test other = false) := by
  intro rows
  induction rows with
  | nil => exact fun _ hrow => absurd hrow List.not_mem_nil
  | cons head tail ih =>
      intro hnodup hrow
      obtain ⟨hhead, htail⟩ := List.nodup_cons.mp hnodup
      by_cases hsame : head.1 = row.1
      · -- the row is the head, which does not occur again
        have habsent : row ∉ tail := fun hmem =>
          hhead (hsame ▸ List.mem_map_of_mem hmem)
        obtain rfl : row = head := (List.mem_cons.mp hrow).resolve_right habsent
        rw [List.takeWhile_cons_of_neg (by simp)]
        cases htest : test row with
        | true => simp [htest]
        | false =>
            have hlater : tail.find? test ≠ some row := fun hfind =>
              habsent (List.mem_of_find?_eq_some hfind)
            simpa [htest] using hlater
      · have hmem : row ∈ tail := (List.mem_cons.mp hrow).resolve_left fun heq =>
          hsame (congrArg Prod.fst heq).symm
        rw [List.takeWhile_cons_of_pos (by simpa using hsame)]
        cases htest : test head with
        | true =>
            have hne : head ≠ row := fun heq => hsame (congrArg Prod.fst heq)
            simp [htest, hne]
        | false => simp [htest, ih htail hmem]

/-- A row is the first that passes a test iff it passes and no row before it
does. -/
theorem find?_rows_eq_some_iff (table : Table Row) {row : ℕ × Row}
    (hrow : row ∈ table.rows) (test : ℕ × Row → Bool) :
    table.rows.find? test = some row ↔
      test row ∧ ∀ other ∈ table.rows.takeWhile (fun other => other.1 ≠ row.1),
        test other = false :=
  find?_eq_some_iff_takeWhile table.nodup_ids hrow

end Table

end Bibliotheque
