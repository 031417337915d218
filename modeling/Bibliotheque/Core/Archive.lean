import Mathlib.Data.Set.Basic
import Mathlib.Logic.Function.Basic
import Mathlib.Order.SetNotation

/-!
# Archives whose keys are issued once

An archive files contents of several classes under keys and holds links between
the files of two of the classes.  It changes by entries: a new file under a key
that was never issued, a rewritten file, or the removal of any set of files.  A
link lives exactly as long as both of its ends are filed.  Keys may also be issued
and lost, with nothing ever filed under them.  What an archive holds after any
number of entries can then be told from its first state and the entries alone,
because no removed file ever comes back under its key.
-/

namespace Bibliotheque

variable {Class Key : Type*} {Content : Class → Type*} {left right : Class}

structure Archive (Content : Class → Type*) (Key : Type*) (left right : Class) where
  file : (sort : Class) → Key → Option (Content sort)
  /-- The keys in use and those of removed files. -/
  issued : Class → Set Key
  links : Set (Key × Key)
  issued_of_filed : ∀ sort key, (file sort key).isSome → key ∈ issued sort
  filed_of_link : ∀ link ∈ links, (file left link.1).isSome ∧ (file right link.2).isSome

namespace Archive

/-- An entry comes with the links it asks for. -/
inductive Entry (Content : Class → Type*) (Key : Type*) where
  | add (sort : Class) (key : Key) (content : Content sort) (links : Set (Key × Key))
  | change (sort : Class) (key : Key) (rewrite : Content sort → Content sort)
      (links : Set (Key × Key))
  | remove (gone : Class → Set Key)

namespace Entry

def links : Entry Content Key → Set (Key × Key)
  | add _ _ _ links | change _ _ _ links => links
  | remove _ => ∅

section Effects

variable [DecidableEq Class] [DecidableEq Key]

open Classical in
/-- The files after an entry. -/
noncomputable def apply (file : (sort : Class) → Key → Option (Content sort)) :
    Entry Content Key → (sort : Class) → Key → Option (Content sort)
  | add sort key content _ =>
      Function.update file sort (Function.update (file sort) key (some content))
  | change sort key rewrite _ =>
      Function.update file sort (Function.update (file sort) key ((file sort key).map rewrite))
  | remove gone => fun sort key => if key ∈ gone sort then none else file sort key

/-- What an entry makes of a file that stays. -/
def rewriting :
    Entry Content Key → (sort : Class) → Key → Content sort → Content sort
  | change sort key rewrite _ =>
      Function.update (fun _ _ content => content) sort
        (Function.update (fun _ content => content) key rewrite)
  | add _ _ _ _ | remove _ => fun _ _ content => content

end Effects

/-- The entry files something under `key`. -/
def Adds (sort : Class) (key : Key) : Entry Content Key → Prop
  | add sort' key' _ _ => sort' = sort ∧ key' = key
  | change _ _ _ _ | remove _ => False

def Removes (sort : Class) (key : Key) : Entry Content Key → Prop
  | remove gone => key ∈ gone sort
  | add _ _ _ _ | change _ _ _ _ => False

def Changes (sort : Class) (key : Key) : Entry Content Key → Prop
  | change sort' key' _ _ => sort' = sort ∧ key' = key
  | add _ _ _ _ | remove _ => False

end Entry

variable [DecidableEq Class] [DecidableEq Key]

/-- `entry` leads from one archive to the next. -/
structure Step (before : Archive Content Key left right) (entry : Entry Content Key)
    (after : Archive Content Key left right) : Prop where
  fresh : ∀ sort key, entry.Adds sort key → key ∉ before.issued sort
  file : after.file = entry.apply before.file
  issued : ∀ sort key, key ∈ after.issued sort ↔ key ∈ before.issued sort ∨ entry.Adds sort key
  filed : ∀ link ∈ entry.links,
    (after.file left link.1).isSome ∧ (after.file right link.2).isSome
  links : ∀ link, link ∈ after.links ↔ (link ∈ before.links ∨ link ∈ entry.links) ∧
    (after.file left link.1).isSome ∧ (after.file right link.2).isSome

/-- Nothing changed, but some keys are no longer free. -/
structure Lost (before after : Archive Content Key left right) : Prop where
  file : after.file = before.file
  links : after.links = before.links
  issued : ∀ sort, before.issued sort ⊆ after.issued sort

/-- The entries of the list lead from one archive to the other. -/
inductive Path : Archive Content Key left right → List (Entry Content Key) →
    Archive Content Key left right → Prop where
  | nil (archive) : Path archive [] archive
  | cons {before middle after entry entries} : Step before entry middle →
      Path middle entries after → Path before (entry :: entries) after
  | lose {before middle after entries} : Lost before middle →
      Path middle entries after → Path before entries after

/-- A path whose entries rewrite and remove under issued keys only. -/
inductive Grounded : Archive Content Key left right → List (Entry Content Key) →
    Archive Content Key left right → Prop where
  | nil (archive) : Grounded archive [] archive
  | cons {before middle after entry entries} : Step before entry middle →
      (∀ sort key, entry.Removes sort key ∨ entry.Changes sort key →
        key ∈ before.issued sort) →
      Grounded middle entries after → Grounded before (entry :: entries) after
  | lose {before middle after entries} : Lost before middle →
      Grounded middle entries after → Grounded before entries after

variable {before middle after : Archive Content Key left right}
variable {entry : Entry Content Key} {entries : List (Entry Content Key)}
variable {sort : Class} {key : Key}

/-! ## One entry -/

theorem Step.issued_mono (hstep : Step before entry after)
    (hissued : key ∈ before.issued sort) : key ∈ after.issued sort :=
  (hstep.issued sort key).mpr (Or.inl hissued)

open Classical in
/-- A file under an issued key is removed, rewritten or left alone. -/
theorem Step.file_of_issued (hstep : Step before entry after)
    (hissued : key ∈ before.issued sort) :
    after.file sort key = if entry.Removes sort key then none
      else (before.file sort key).map (entry.rewriting sort key) := by
  rw [hstep.file]
  cases entry with
  | add sort' key' content links =>
      simp only [Entry.Removes, ↓reduceIte, Entry.rewriting, Option.map_id', Entry.apply]
      by_cases hsort : sort = sort'
      · subst hsort
        have hkey : key ≠ key' := fun heq =>
          hstep.fresh sort key' ⟨rfl, rfl⟩ (heq ▸ hissued)
        rw [Function.update_self, Function.update_of_ne hkey]
      · rw [Function.update_of_ne hsort]
  | change sort' key' rewrite links =>
      simp only [Entry.Removes, ↓reduceIte, Entry.apply, Entry.rewriting]
      by_cases hsort : sort = sort'
      · subst hsort
        rw [Function.update_self, Function.update_self]
        by_cases hkey : key = key'
        · subst hkey
          rw [Function.update_self, Function.update_self]
        · rw [Function.update_of_ne hkey, Function.update_of_ne hkey, Option.map_id']
      · rw [Function.update_of_ne hsort, Function.update_of_ne hsort, Option.map_id']
  | remove gone =>
      simp only [Entry.Removes, Entry.apply, Entry.rewriting, Option.map_id']

theorem Step.filed_of_issued (hstep : Step before entry after)
    (hissued : key ∈ before.issued sort) (hfiled : (after.file sort key).isSome) :
    (before.file sort key).isSome := by
  rw [hstep.file_of_issued hissued] at hfiled
  split at hfiled
  · cases hfiled
  · rwa [Option.isSome_map] at hfiled

/-! ## Any number of entries -/

theorem Path.append {others : List (Entry Content Key)} {last : Archive Content Key left right}
    (hpath : Path before entries after) (hothers : Path after others last) :
    Path before (entries ++ others) last := by
  induction hpath with
  | nil archive => exact hothers
  | cons hstep _ ih => exact .cons hstep (ih hothers)
  | lose hlost _ ih => exact .lose hlost (ih hothers)

theorem Path.issued_mono (hpath : Path before entries after)
    (hissued : key ∈ before.issued sort) : key ∈ after.issued sort := by
  induction hpath with
  | nil => exact hissued
  | cons hstep _ ih => exact ih (hstep.issued_mono hissued)
  | lose hlost _ ih => exact ih (hlost.issued sort hissued)

open Classical in
/-- A file under an issued key is gone if one of the entries removed it, and has
else been rewritten by the entries in their order. -/
theorem Path.file_of_issued (hpath : Path before entries after)
    (hissued : key ∈ before.issued sort) :
    after.file sort key = if ∃ entry ∈ entries, entry.Removes sort key then none
      else (before.file sort key).map fun content =>
        entries.foldl (fun found entry => entry.rewriting sort key found) content := by
  induction hpath with
  | nil archive =>
      rw [if_neg (by simp)]
      exact Option.map_id'.symm
  | @cons before middle after entry entries hstep _ ih =>
      rw [ih (hstep.issued_mono hissued), hstep.file_of_issued hissued]
      simp only [List.mem_cons, exists_eq_or_imp]
      by_cases hremoves : entry.Removes sort key
      · simp [hremoves]
      · simp only [hremoves, if_false, false_or, Option.map_map]
        rfl
  | lose hlost _ ih => rw [ih (hlost.issued sort hissued), hlost.file]

/-- A removed file never comes back. -/
theorem Path.filed_of_issued (hpath : Path before entries after)
    (hissued : key ∈ before.issued sort) (hfiled : (after.file sort key).isSome) :
    (before.file sort key).isSome := by
  rw [hpath.file_of_issued hissued] at hfiled
  split at hfiled
  · cases hfiled
  · rwa [Option.isSome_map] at hfiled

/-- The key of a new file was never issued before. -/
theorem Path.not_issued_of_adds (hpath : Path before entries after)
    (hentry : entry ∈ entries) (hadds : entry.Adds sort key) : key ∉ before.issued sort := by
  induction hpath with
  | nil => cases hentry
  | cons hstep _ ih =>
      rcases List.mem_cons.mp hentry with rfl | hentry
      · exact hstep.fresh sort key hadds
      · exact fun hissued => ih hentry (hstep.issued_mono hissued)
  | lose hlost _ ih => exact fun hissued => ih hentry (hlost.issued sort hissued)

/-- The links are the old ones and those asked for on the way, as far as both of
their ends are still filed. -/
theorem Path.mem_links_iff (hpath : Path before entries after) (link : Key × Key) :
    link ∈ after.links ↔
      (link ∈ before.links ∨ ∃ entry ∈ entries, link ∈ entry.links) ∧
        (after.file left link.1).isSome ∧ (after.file right link.2).isSome := by
  induction hpath with
  | nil archive =>
      simp only [List.not_mem_nil, false_and, exists_false, or_false]
      exact ⟨fun hlink => ⟨hlink, archive.filed_of_link link hlink⟩, fun hboth => hboth.1⟩
  | @cons before middle after entry entries hstep hrest ih =>
      rw [ih]
      refine and_congr_left fun hfiled => ?_
      -- an end that is filed at last and was issued by now is filed now
      have hmiddle : ∀ {sort : Class} {key : Key}, key ∈ middle.issued sort →
          (after.file sort key).isSome → (middle.file sort key).isSome :=
        fun hissued => hrest.filed_of_issued hissued
      simp only [List.mem_cons, exists_eq_or_imp, hstep.links]
      constructor
      · rintro (⟨hold | hnew, -⟩ | hlater)
        · exact Or.inl hold
        · exact Or.inr (Or.inl hnew)
        · exact Or.inr (Or.inr hlater)
      · rintro (hold | hnew | hlater)
        · obtain ⟨hleft, hright⟩ := before.filed_of_link link hold
          refine Or.inl ⟨Or.inl hold, hmiddle ?_ hfiled.1, hmiddle ?_ hfiled.2⟩
          · exact hstep.issued_mono (before.issued_of_filed _ _ hleft)
          · exact hstep.issued_mono (before.issued_of_filed _ _ hright)
        · exact Or.inl ⟨Or.inr hnew, hstep.filed link hnew⟩
        · exact Or.inr hlater
  | lose hlost _ ih => rw [ih, hlost.links]

/-! ## Entries about issued keys -/

theorem Grounded.path (hgrounded : Grounded before entries after) :
    Path before entries after := by
  induction hgrounded with
  | nil archive => exact .nil archive
  | cons hstep _ _ ih => exact .cons hstep ih
  | lose hlost _ ih => exact .lose hlost ih

theorem Entry.rewriting_of_not_changes (hchanges : ¬ entry.Changes sort key) :
    entry.rewriting sort key = fun content => content := by
  cases entry with
  | add sort' key' content links => rfl
  | remove gone => rfl
  | change sort' key' rewrite links =>
      by_cases hsort : sort = sort'
      · subst hsort
        have hkey : key ≠ key' := fun heq => hchanges ⟨rfl, heq.symm⟩
        rw [Entry.rewriting, Function.update_self, Function.update_of_ne hkey]
      · rw [Entry.rewriting, Function.update_of_ne hsort]

omit [DecidableEq Class] [DecidableEq Key] in
theorem not_filed_of_not_issued (hissued : key ∉ before.issued sort) :
    before.file sort key = none :=
  Option.not_isSome_iff_eq_none.mp fun hfiled =>
    hissued (before.issued_of_filed sort key hfiled)

/-- The file under a key that was never issued is added once and then treated like
any other. -/
theorem Grounded.exists_adds (hgrounded : Grounded before entries after)
    (hissued : key ∉ before.issued sort) :
    (¬ (∃ entry ∈ entries, entry.Adds sort key) ∧ after.file sort key = none) ∨
      ∃ content links, Entry.add sort key content links ∈ entries ∧
        ((∃ entry ∈ entries, entry.Removes sort key) ∧ after.file sort key = none ∨
          ¬ (∃ entry ∈ entries, entry.Removes sort key) ∧
            after.file sort key = some (entries.foldl
              (fun found entry => entry.rewriting sort key found) content)) := by
  induction hgrounded with
  | nil archive => exact Or.inl ⟨by simp, not_filed_of_not_issued hissued⟩
  | @cons before middle after entry entries hstep htouched hrest ih =>
      have hremoves : ¬ entry.Removes sort key := fun hremoves =>
        hissued (htouched sort key (Or.inl hremoves))
      have hchanges : ¬ entry.Changes sort key := fun hchanges =>
        hissued (htouched sort key (Or.inr hchanges))
      simp only [List.mem_cons, exists_eq_or_imp, hremoves, false_or, List.foldl_cons,
        Entry.rewriting_of_not_changes hchanges]
      by_cases hadds : entry.Adds sort key
      · have hmiddle : key ∈ middle.issued sort := (hstep.issued sort key).mpr (Or.inr hadds)
        have hfile := hrest.path.file_of_issued hmiddle
        cases entry with
        | change sort' key' rewrite links => exact hadds.elim
        | remove gone => exact hadds.elim
        | add sort' key' content links =>
            obtain ⟨rfl, rfl⟩ := hadds
            have hadded : middle.file sort' key' = some content := by
              rw [hstep.file, Entry.apply, Function.update_self, Function.update_self]
            rw [hadded] at hfile
            refine Or.inr ⟨content, links, Or.inl rfl, ?_⟩
            by_cases hgone : ∃ entry ∈ entries, entry.Removes sort' key'
            · exact Or.inl ⟨hgone, by rw [hfile, if_pos hgone]⟩
            · exact Or.inr ⟨hgone, by rw [hfile, if_neg hgone, Option.map_some]⟩
      · have hmiddle : key ∉ middle.issued sort := fun hmiddle =>
          ((hstep.issued sort key).mp hmiddle).elim hissued hadds
        rcases ih hmiddle with ⟨hnone, hfile⟩ | ⟨content, links, hmember, hfate⟩
        · exact Or.inl ⟨fun hany => hany.elim hadds hnone, hfile⟩
        · exact Or.inr ⟨content, links, Or.inr hmember, hfate⟩
  | @lose before middle after entries hlost hrest ih =>
      by_cases hmiddle : key ∈ middle.issued sort
      · -- a lost key is never added
        have hfile := hrest.path.file_of_issued hmiddle
        rw [hlost.file, not_filed_of_not_issued hissued, Option.map_none, ite_self] at hfile
        exact Or.inl ⟨fun ⟨entry, hentry, hadds⟩ =>
          hrest.path.not_issued_of_adds hentry hadds hmiddle, hfile⟩
      · exact ih hmiddle

/-- What is filed at the end was there or was added, and was not removed. -/
theorem Grounded.filed_iff (hgrounded : Grounded before entries after) (sort : Class)
    (key : Key) :
    (after.file sort key).isSome ↔
      ((before.file sort key).isSome ∨ ∃ entry ∈ entries, entry.Adds sort key) ∧
        ¬ ∃ entry ∈ entries, entry.Removes sort key := by
  by_cases hissued : key ∈ before.issued sort
  · have hadds : ¬ ∃ entry ∈ entries, entry.Adds sort key := fun ⟨entry, hentry, hadds⟩ =>
      hgrounded.path.not_issued_of_adds hentry hadds hissued
    rw [hgrounded.path.file_of_issued hissued]
    by_cases hgone : ∃ entry ∈ entries, entry.Removes sort key
    · simp [hgone]
    · rw [if_neg hgone, Option.isSome_map]
      simp only [hadds, or_false, hgone, not_false_eq_true, and_true]
  · rw [not_filed_of_not_issued hissued]
    rcases hgrounded.exists_adds hissued with
      ⟨hadds, hfile⟩ | ⟨content, links, hmember, ⟨hgone, hfile⟩ | ⟨hgone, hfile⟩⟩
    · simp [hfile, hadds]
    · simp [hfile, hgone]
    · have hadds : ∃ entry ∈ entries, entry.Adds sort key := ⟨_, hmember, rfl, rfl⟩
      simp [hfile, hgone, hadds]

/-- A file holds what the entries about it made of its first content. -/
theorem Grounded.exists_first (hgrounded : Grounded before entries after)
    {content : Content sort} (hfile : after.file sort key = some content) :
    ∃ first, (before.file sort key = some first ∨
        ∃ links, Entry.add sort key first links ∈ entries) ∧
      content = entries.foldl (fun found entry => entry.rewriting sort key found) first := by
  by_cases hissued : key ∈ before.issued sort
  · rw [hgrounded.path.file_of_issued hissued] at hfile
    split at hfile
    · cases hfile
    · obtain ⟨first, hfirst, hfold⟩ := Option.map_eq_some_iff.mp hfile
      exact ⟨first, Or.inl hfirst, hfold.symm⟩
  · rcases hgrounded.exists_adds hissued with
      ⟨-, hnone⟩ | ⟨first, links, hmember, ⟨-, hnone⟩ | ⟨-, hfold⟩⟩
    · cases hnone.symm.trans hfile
    · cases hnone.symm.trans hfile
    · exact ⟨first, Or.inr ⟨links, hmember⟩, Option.some.inj (hfile.symm.trans hfold)⟩

end Archive

end Bibliotheque
