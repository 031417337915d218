import Bibliotheque.Core.Distinct
import Bibliotheque.Api.Reading
import Bibliotheque.Front.Lists

/-!
# The roles of a user

`Utilisateur::getRoles` appends `ROLE_USER` to the stored roles and drops
repetitions with `array_unique`, which leaves the other entries under their
keys.  The clients get a JSON array only when no key is missing.
-/

namespace Bibliotheque

/-- The entries of a PHP list. -/
def phpList (values : List Value) : List (Key × Value) :=
  values.zipIdx.map fun item => (.int item.2, item.1)

/-- `$array[] = $value` on a list uses its length as key, and there is a key for
it also when elements have been taken out of a list. -/
structure Rendering.Appends (rendering : Rendering) : Prop where
  nextKey_phpList : ∀ values,
    rendering.nextKey (phpList values) = some (.int (values.length : ℕ))
  nextKey_sublist : ∀ values entries, entries.Sublist (phpList values) →
    (rendering.nextKey entries).isSome

namespace Utilisateur

def setRoles (utilisateur : Utilisateur) (roles : List (Key × Value)) : Utilisateur :=
  { utilisateur with roles := roles }

end Utilisateur

/-! ## `array_unique` on texts -/

/-- `array_unique` keeps first occurrences. -/
theorem uniqueAfter_eq_distinct (entries : List (Key × Value)) :
    ∀ seen, uniqueAfter seen entries =
      Distinct.distinct (fun entry => entry.2.text) seen entries := by
  induction entries with
  | nil => exact fun _ => rfl
  | cons entry entries ih =>
      intro seen
      rw [uniqueAfter, Distinct.distinct, ih, ih]

/-- A list of texts as numbered texts. -/
theorem phpList_str (texts : List String) :
    phpList (texts.map .str) =
      texts.zipIdx.map fun item => (Key.int item.2, Value.str item.1) := by
  rw [phpList, List.zipIdx_map, List.map_map]
  rfl

theorem phpList_concat (values : List Value) (last : Value) :
    phpList values ++ [(.int (values.length : ℕ), last)] = phpList (values ++ [last]) := by
  simp [phpList, List.zipIdx_append]

/-- On texts `array_unique` warns of nothing. -/
theorem arrayUnique_of_text (runtime : Runtime) {entries : List (Key × Value)}
    (htext : ∀ entry ∈ entries, entry.2.isArray = false) :
    arrayUnique runtime entries = .ok (uniqueAfter [] entries) := by
  have hany : entries.any (·.2.isArray) = false := by
    rw [List.any_eq_false]
    intro entry hentry
    rw [htext entry hentry]
    exact Bool.false_ne_true
  rw [arrayUnique, hany, Bool.and_false]
  rfl

section Roles

variable (texts : List String)

/-- The first occurrences in a list of texts, under their keys. -/
def roleEntries : List (Key × Value) :=
  (Distinct.distinct Prod.fst [] texts.zipIdx).map fun item =>
    (Key.int item.2, Value.str item.1)

theorem uniqueAfter_phpList :
    uniqueAfter [] (phpList (texts.map .str)) = roleEntries texts := by
  rw [uniqueAfter_eq_distinct, phpList_str, Distinct.distinct_map]
  rfl

theorem values_roleEntries :
    (roleEntries texts).map Prod.snd =
      (Distinct.distinct id [] texts).map .str := by
  calc (roleEntries texts).map Prod.snd
    _ = ((Distinct.distinct Prod.fst [] texts.zipIdx).map Prod.fst).map .str := by
        rw [roleEntries, List.map_map, List.map_map]
        rfl
    _ = (Distinct.distinct id [] (texts.zipIdx.map Prod.fst)).map .str := by
        rw [Distinct.map_distinct]
    _ = (Distinct.distinct id [] texts).map .str := by
        rw [List.zipIdx_map_fst]

theorem texts_roleEntries :
    (roleEntries texts).map (fun entry => entry.2.text) =
      Distinct.distinct id [] texts := by
  calc (roleEntries texts).map (fun entry => entry.2.text)
    _ = ((roleEntries texts).map Prod.snd).map Value.text := by
        rw [List.map_map]
        rfl
    _ = Distinct.distinct id [] texts := by
        rw [values_roleEntries, List.map_map]
        exact List.map_id _

theorem keys_roleEntries :
    (roleEntries texts).map Prod.fst =
      (Distinct.indices [] texts 0).map fun index : ℕ => Key.int index := by
  rw [roleEntries, Distinct.indices, List.map_map, List.map_map]
  rfl

theorem roleEntries_sublist : (roleEntries texts).Sublist (phpList (texts.map .str)) := by
  rw [phpList_str]
  exact (Distinct.distinct_sublist _ _).map _

/-- The entries are a list exactly when no text is new after a repetition. -/
theorem isList_roleEntries_iff :
    Front.isList (roleEntries texts) = true ↔ Distinct.Settled [] texts := by
  have hinjective : Function.Injective fun index : ℕ => Key.int index := by
    intro left right heq
    rwa [Key.int.injEq, Int.natCast_inj] at heq
  have hlength : (roleEntries texts).length = (Distinct.indices [] texts 0).length := by
    rw [roleEntries, Distinct.indices, List.length_map, List.length_map]
  rw [Front.isList, decide_eq_true_eq, keys_roleEntries,
    hinjective.list_map.eq_iff, hlength, List.range_eq_range',
    Distinct.indices_eq_range'_iff]

theorem isArray_roleEntries : ∀ entry ∈ roleEntries texts, entry.2.isArray = false := by
  intro entry hentry
  obtain ⟨item, -, rfl⟩ := List.mem_map.mp hentry
  rfl

end Roles

namespace Utilisateur

variable {rendering : Rendering}

/-- What is read after a list of texts has been stored. -/
theorem getRoles_phpList (hrendering : rendering.Appends) (runtime : Runtime)
    (utilisateur : Utilisateur) (roles : List String) :
    (utilisateur.setRoles (phpList (roles.map .str))).getRoles rendering runtime =
      .ok (roleEntries (roles ++ ["ROLE_USER"])) := by
  have happend : phpList (roles.map .str) ++
      [(.int ((roles.map Value.str).length : ℕ), .str "ROLE_USER")] =
        phpList ((roles ++ ["ROLE_USER"]).map .str) := by
    rw [phpList_concat, List.map_append]
    rfl
  have htext : ∀ entry ∈ phpList ((roles ++ ["ROLE_USER"]).map .str),
      entry.2.isArray = false := by
    intro entry hentry
    rw [phpList_str] at hentry
    obtain ⟨item, -, rfl⟩ := List.mem_map.mp hentry
    rfl
  rw [getRoles, setRoles, hrendering.nextKey_phpList]
  dsimp only
  rw [happend, arrayUnique_of_text runtime htext, uniqueAfter_phpList]

/-- Roles that were read before and hold `ROLE_USER` are read again as they
are. -/
theorem getRoles_roleEntries (hrendering : rendering.Appends) (runtime : Runtime)
    (utilisateur : Utilisateur) {texts : List String} (huser : "ROLE_USER" ∈ texts) :
    (utilisateur.setRoles (roleEntries texts)).getRoles rendering runtime =
      .ok (roleEntries texts) := by
  have hmem : "ROLE_USER" ∈ (roleEntries texts).map (fun entry => entry.2.text) := by
    rw [texts_roleEntries]
    exact (Distinct.mem_distinct_id texts []).mpr ⟨huser, List.not_mem_nil⟩
  have hnodup : ((roleEntries texts).map (fun entry => entry.2.text)).Nodup := by
    rw [texts_roleEntries]
    exact Distinct.nodup_distinct_id texts []
  cases hnext : rendering.nextKey (roleEntries texts) with
  | none =>
      have hsome := hrendering.nextKey_sublist _ _ (roleEntries_sublist texts)
      rw [hnext] at hsome
      cases hsome
  | some key =>
      have htext : ∀ entry ∈ roleEntries texts ++ [(key, .str "ROLE_USER")],
          entry.2.isArray = false := by
        intro entry hentry
        rcases List.mem_append.mp hentry with hold | hnew
        · exact isArray_roleEntries texts entry hold
        · rw [List.mem_singleton.mp hnew]
          rfl
      rw [getRoles, setRoles, hnext]
      dsimp only
      rw [arrayUnique_of_text runtime htext, uniqueAfter_eq_distinct,
        Distinct.distinct_concat_of_mem _ _ (Or.inr hmem),
        Distinct.distinct_of_nodup _ _ hnodup fun _ _ => List.not_mem_nil]

/-- A stored list of roles is read with `ROLE_USER` and without repetitions, in
the order of first occurrence; storing what was read and reading again gives
the same.  The keys are those of a list, and JSON has an array, exactly when in
the stored roles followed by `ROLE_USER` nothing new comes after a repetition. -/
theorem getRoles_setRoles (hrendering : rendering.Appends) (runtime : Runtime)
    (utilisateur : Utilisateur) (stored : List String) :
    ∃ roles, (utilisateur.setRoles (phpList (stored.map .str))).getRoles
        rendering runtime = .ok roles ∧
      .str "ROLE_USER" ∈ roles.map Prod.snd ∧
      (roles.map Prod.snd).Nodup ∧
      roles.map Prod.snd =
        (Distinct.distinct id [] (stored ++ ["ROLE_USER"])).map .str ∧
      ((utilisateur.setRoles (phpList (stored.map .str))).setRoles roles).getRoles
        rendering runtime = .ok roles ∧
      (Front.isList roles = true ↔ Distinct.Settled [] (stored ++ ["ROLE_USER"])) := by
  have huser : "ROLE_USER" ∈ stored ++ ["ROLE_USER"] :=
    List.mem_append_right _ (List.mem_singleton_self _)
  have hinjective : Function.Injective Value.str := fun _ _ => Value.str.inj
  refine ⟨_, getRoles_phpList hrendering runtime utilisateur stored, ?_, ?_,
    values_roleEntries _, getRoles_roleEntries hrendering runtime _ huser,
    isList_roleEntries_iff _⟩
  · rw [values_roleEntries]
    apply List.mem_map_of_mem
    exact (Distinct.mem_distinct_id _ []).mpr ⟨huser, List.not_mem_nil⟩
  · rw [values_roleEntries]
    exact (Distinct.nodup_distinct_id _ []).map hinjective

end Utilisateur

/-! ## A server -/

/-- The next free key after one more entry. -/
def nextAfter (free : ℤ) (entry : Key × Value) : ℤ :=
  match entry.1 with
  | .int index => max free (index + 1)
  | .str _ => free

/-- A server in UTC that appends after the largest integer key. -/
def Rendering.largest : Rendering where
  offset _ := "+00:00"
  float := .float
  nextKey entries := some (.int (entries.foldl nextAfter 0))
  offset_form _ := all_offset_utc

theorem foldl_nextAfter (values : List Value) :
    ∀ start : ℕ, ((values.zipIdx start).map fun item =>
        (Key.int item.2, item.1)).foldl nextAfter start = (start + values.length : ℕ) := by
  induction values with
  | nil => exact fun _ => rfl
  | cons value values ih =>
      intro start
      have hnext : nextAfter start (.int start, value) = (start + 1 : ℕ) := by
        simp only [nextAfter]
        omega
      rw [List.zipIdx_cons, List.map_cons, List.foldl_cons, hnext, ih, List.length_cons,
        Nat.add_right_comm, Nat.add_assoc]

theorem Rendering.appends_largest : Rendering.largest.Appends where
  nextKey_phpList values := by
    have hcount := foldl_nextAfter values 0
    rw [Nat.zero_add] at hcount
    exact congrArg (fun free => some (Key.int free)) hcount
  nextKey_sublist _ _ _ := rfl

/-- A user without roles. -/
def lecteur : Utilisateur where
  email := "a@b.fr"
  roles := []
  password := "$2y$10$x"
  dateAdhesion := Date.sample
  nom := "Doe"
  prenom := "Ann"
  dateNaiss := Date.sample
  adressePostale := ""
  numTel := 0
  photo := none

/-- The roles of an administrator are a list. -/
theorem getRoles_setRoles_admin :
    ∃ roles, (lecteur.setRoles (phpList [.str "ROLE_ADMIN"])).getRoles .largest .dev =
        .ok roles ∧ Front.isList roles = true := by
  have hsettled : Distinct.Settled [] (["ROLE_ADMIN"] ++ ["ROLE_USER"]) := by
    rw [List.singleton_append, Distinct.settled_cons_of_not_mem List.not_mem_nil,
      Distinct.settled_cons_of_not_mem (by decide)]
    exact Distinct.settled_nil _
  obtain ⟨roles, hroles, -, -, -, -, hlist⟩ := lecteur.getRoles_setRoles
    Rendering.appends_largest Runtime.dev ["ROLE_ADMIN"]
  exact ⟨roles, hroles, hlist.mpr hsettled⟩

/-- A role stored twice leaves a gap in the keys. -/
theorem repeated_role_leaves_gap :
    (lecteur.setRoles (phpList [.str "ROLE_ADMIN", .str "ROLE_ADMIN"])).getRoles
        .largest .dev =
      .ok [(.int 0, .str "ROLE_ADMIN"), (.int 2, .str "ROLE_USER")] ∧
    ¬ ∀ stored : List String, ∃ roles,
      (lecteur.setRoles (phpList (stored.map .str))).getRoles .largest .dev = .ok roles ∧
        Front.isList roles = true := by
  have hgap : (lecteur.setRoles (phpList [.str "ROLE_ADMIN", .str "ROLE_ADMIN"])).getRoles
      .largest .dev =
        .ok [(.int 0, .str "ROLE_ADMIN"), (.int 2, .str "ROLE_USER")] := by
    decide
  apply And.intro hgap
  intro hall
  obtain ⟨roles, hroles, hlist⟩ := hall ["ROLE_ADMIN", "ROLE_ADMIN"]
  rw [List.map_cons, List.map_cons, List.map_nil, hgap] at hroles
  cases hroles
  exact absurd hlist (by decide)

end Bibliotheque
