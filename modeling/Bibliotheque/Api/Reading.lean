import Bibliotheque.Api.Listing

/-!
# The reading routes of one row

`GET` of a category, an author, a loan, a reservation and a user by its number.
Each controller writes out the keys of its answer by hand: a loan names its
borrower and its book instead of giving their numbers, and a user lists the roles
of `Utilisateur::getRoles` instead of the stored ones.
-/

namespace Bibliotheque

/-- What the reading routes leave to PHP: the time zone offset in a serialised
date, the value that a float of a JSON text is decoded to, and the key of an
element appended to an array, if there is one left. -/
structure Rendering where
  offset : Date → String
  float : PhpFloat → Value
  nextKey : List (Key × Value) → Option Key
  offset_form : ∀ date, (offset date).toList.all
    fun char => Date.isDigit char || char ∈ ['+', '-', ':']

theorem all_offset_utc : "+00:00".toList.all
    (fun char => Date.isDigit char || char ∈ ['+', '-', ':']) = true := by decide

namespace Value

/-- The conversion `(string) $value`, which only warns about an array. -/
def text : Value → String
  | .null => ""
  | .bool value => if value then "1" else ""
  | .int value => ToString.toString value
  | .float value => value.text
  | .str value => value
  | .arr _ => "Array"

def isArray : Value → Bool
  | .arr _ => true
  | _ => false

@[simp]
theorem isArray_str (value : String) : (str value).isArray = false := rfl

variable (float : PhpFloat → Value)

mutual

/-- What a client reads from the JSON text of a value. -/
def transmitted : Value → Value
  | .null => .null
  | .bool value => .bool value
  | .int value => .int value
  | .float value => float value
  | .str value => .str value
  | .arr entries => .arr (transmittedEntries entries)

def transmittedEntries : List (Key × Value) → List (Key × Value)
  | [] => []
  | (key, value) :: entries => (key, transmitted value) :: transmittedEntries entries

end

attribute [simp] transmitted transmittedEntries

theorem transmittedEntries_eq_map (entries : List (Key × Value)) :
    transmittedEntries float entries =
      entries.map fun entry => (entry.1, transmitted float entry.2) := by
  induction entries with
  | nil => rfl
  | cons entry entries ih => rw [transmittedEntries, ih, List.map_cons]

@[simp]
theorem transmitted_object (fields : List (String × Value)) :
    transmitted float (.object fields) =
      .object (fields.map fun entry => (entry.1, transmitted float entry.2)) := by
  simp [object, transmittedEntries_eq_map, Function.comp_def]

@[simp]
theorem transmitted_ofNullable (text : Option String) :
    transmitted float (.ofNullable text) = .ofNullable text := by
  cases text with
  | none => rfl
  | some text => rfl

end Value

/-! ## Roles -/

/-- The entries whose text is new. -/
def uniqueAfter (seen : List String) : List (Key × Value) → List (Key × Value)
  | [] => []
  | entry :: entries =>
      if entry.2.text ∈ seen then uniqueAfter seen entries
      else entry :: uniqueAfter (entry.2.text :: seen) entries

/-- `array_unique($entries)`: of the entries with one text, the first.  The texts
are only taken when there is something to compare. -/
def arrayUnique (runtime : Runtime) (entries : List (Key × Value)) :
    Except Throwable (List (Key × Value)) :=
  if runtime.debug && 1 < entries.length && entries.any (·.2.isArray) then
    .error (.warning "Array to string conversion")
  else .ok (uniqueAfter [] entries)

/-- `Utilisateur::getRoles`. -/
def Utilisateur.getRoles (rendering : Rendering) (runtime : Runtime)
    (utilisateur : Utilisateur) : Except Throwable (List (Key × Value)) :=
  match rendering.nextKey utilisateur.roles with
  | none => .error
      (.error "Cannot add element to the array as the next element is already occupied")
  | some key => arrayUnique runtime (utilisateur.roles ++ [(key, .str "ROLE_USER")])

/-! ## The routes -/

section Show

variable (rendering : Rendering) (runtime : Runtime) (tables : Tables)

def CategorieController.show (id : ℕ) : Response :=
  match tables.categorie.find id with
  | none => ⟨404, .object [("message", .str "Categorie not found")]⟩
  | some categorie =>
      ⟨200, .object [
        ("id", .int id),
        ("nom", .str categorie.nom),
        ("description", .str categorie.description)]⟩

def AuteurController.show (id : ℕ) : Response :=
  match tables.auteur.find id with
  | none => ⟨404, .object [("message", .str "Auteur not found")]⟩
  | some auteur =>
      let livresString := implode ((tables.livresDe id).map (·.titre))
      ⟨200, .object [
        ("id", .int id),
        ("nom", .str auteur.nom),
        ("prenom", .str auteur.prenom),
        ("dateNaiss", .str (auteur.dateNaiss.rfc3339 rendering.offset)),
        ("dateDeces", .ofNullable (auteur.dateDeces.map (·.rfc3339 rendering.offset))),
        ("nationalite", .str auteur.nationalite),
        ("photo", .ofNullable auteur.photo),
        ("description", .str auteur.description),
        ("livres", .str livresString)]⟩

def EmpruntController.getById (id : ℕ) : Response :=
  match tables.emprunt.find id with
  | none => ⟨404, .object [("message", .str "Emprunt not found")]⟩
  | some emprunt =>
      let emprunteur := tables.utilisateur.find emprunt.emprunteur
      let livre := tables.livre.find emprunt.livre
      ⟨200, .object [
        ("id", .int id),
        ("dateEmprunt", .str (emprunt.dateEmprunt.rfc3339 rendering.offset)),
        ("dateRetour", .ofNullable (emprunt.dateRetour.map (·.rfc3339 rendering.offset))),
        ("emprunteur", .ofNullable (emprunteur.map (·.nom))),
        ("livre", .ofNullable (livre.map (·.titre)))]⟩

def ReservationsController.getById (id : ℕ) : Response :=
  match tables.reservations.find id with
  | none => ⟨404, .object [("message", .str "Reservation not found")]⟩
  | some reservation =>
      let reservateur := tables.utilisateur.find reservation.reservateur
      let livre := tables.livre.find reservation.livre
      ⟨200, .object [
        ("id", .int id),
        ("dateResa", .str (reservation.dateResa.rfc3339 rendering.offset)),
        ("reservateur", .ofNullable (reservateur.map (·.nom))),
        ("livre", .ofNullable (livre.map (·.titre)))]⟩

def AdherentController.show (id : ℕ) : Except Throwable Response :=
  match tables.utilisateur.find id with
  | none => .ok ⟨404, .object [("message", .str "Adherent not found")]⟩
  | some adherent => do
      let roles ← adherent.getRoles rendering runtime
      return ⟨200, .object [
        ("id", .int id),
        ("dateAdhesion", .str (adherent.dateAdhesion.rfc3339 rendering.offset)),
        ("nom", .str adherent.nom),
        ("prenom", .str adherent.prenom),
        ("dateNaiss", .str (adherent.dateNaiss.rfc3339 rendering.offset)),
        ("email", .str adherent.email),
        ("adressePostale", .str adherent.adressePostale),
        ("numTel", .int adherent.numTel),
        ("photo", .ofNullable adherent.photo),
        ("roles", .arr roles),
        ("password", .str adherent.password)]⟩

end Show

/-! ## When the roles come back -/

/-- The stored roles are read and sent back as they are: `ROLE_USER` is among
them, no two have one text, and JSON changes none. -/
structure Rendering.KeepsRoles (rendering : Rendering) (runtime : Runtime)
    (roles : List (Key × Value)) : Prop where
  room : (rendering.nextKey roles).isSome = true
  scalar : runtime.debug = true → ∀ entry ∈ roles, entry.2.isArray = false
  user : "ROLE_USER" ∈ roles.map fun entry => entry.2.text
  distinct : (roles.map fun entry => entry.2.text).Nodup
  json : Value.transmittedEntries rendering.float roles = roles

theorem uniqueAfter_append_of_mem (entry : Key × Value) :
    ∀ (entries : List (Key × Value)) (seen : List String),
      entry.2.text ∈ seen ∨ entry.2.text ∈ entries.map (fun entry => entry.2.text) →
        uniqueAfter seen (entries ++ [entry]) = uniqueAfter seen entries := by
  intro entries
  induction entries with
  | nil =>
      intro seen hmem
      have hseen : entry.2.text ∈ seen := by simpa using hmem
      simp [uniqueAfter, hseen]
  | cons head entries ih =>
      intro seen hmem
      simp only [List.cons_append, uniqueAfter]
      by_cases hhead : head.2.text ∈ seen
      · have hrest : entry.2.text ∈ seen ∨
            entry.2.text ∈ entries.map fun entry => entry.2.text := by
          rcases hmem with hseen | hentries
          · exact Or.inl hseen
          · rcases List.mem_cons.mp hentries with heq | hrest
            · exact Or.inl (heq ▸ hhead)
            · exact Or.inr hrest
        rw [if_pos hhead, if_pos hhead, ih seen hrest]
      · have hrest : entry.2.text ∈ head.2.text :: seen ∨
            entry.2.text ∈ entries.map fun entry => entry.2.text := by
          rcases hmem with hseen | hentries
          · exact Or.inl (List.mem_cons_of_mem _ hseen)
          · rcases List.mem_cons.mp hentries with heq | hrest
            · exact Or.inl (heq ▸ List.mem_cons_self)
            · exact Or.inr hrest
        rw [if_neg hhead, if_neg hhead, ih _ hrest]

theorem mem_uniqueAfter_append (entry : Key × Value) :
    ∀ (entries : List (Key × Value)) (seen : List String),
      entry.2.text ∉ seen → entry.2.text ∉ entries.map (fun entry => entry.2.text) →
        entry ∈ uniqueAfter seen (entries ++ [entry]) := by
  intro entries
  induction entries with
  | nil =>
      intro seen hseen _
      simp [uniqueAfter, hseen]
  | cons head entries ih =>
      intro seen hseen hentries
      simp only [List.map_cons, List.mem_cons, not_or] at hentries
      simp only [List.cons_append, uniqueAfter]
      split
      · exact ih seen hseen hentries.2
      · apply List.mem_cons_of_mem
        apply ih _ _ hentries.2
        simpa [hentries.1] using hseen

theorem length_uniqueAfter_le :
    ∀ (entries : List (Key × Value)) (seen : List String),
      (uniqueAfter seen entries).length ≤ entries.length := by
  intro entries
  induction entries with
  | nil => simp [uniqueAfter]
  | cons head entries ih =>
      intro seen
      simp only [uniqueAfter]
      split
      · exact (ih seen).trans (Nat.le_succ _)
      · exact Nat.succ_le_succ (ih _)

/-- Nothing is dropped exactly when all texts are new. -/
theorem length_uniqueAfter_eq_iff :
    ∀ (entries : List (Key × Value)) (seen : List String),
      (uniqueAfter seen entries).length = entries.length ↔
        (entries.map fun entry => entry.2.text).Nodup ∧
          ∀ entry ∈ entries, entry.2.text ∉ seen := by
  intro entries
  induction entries with
  | nil => simp [uniqueAfter]
  | cons head entries ih =>
      intro seen
      simp only [uniqueAfter]
      split
      case isTrue hhead =>
        have hle := length_uniqueAfter_le entries seen
        simp only [List.length_cons, List.map_cons, List.nodup_cons, List.mem_cons,
          forall_eq_or_imp]
        constructor
        · intro hlength
          omega
        · exact fun hnew => absurd hhead hnew.2.1
      case isFalse hhead =>
        simp only [List.length_cons, Nat.add_right_cancel_iff, ih, List.map_cons,
          List.nodup_cons, List.mem_cons, forall_eq_or_imp, List.mem_map, not_or,
          not_exists, not_and]
        constructor
        · rintro ⟨hnodup, hnew⟩
          exact ⟨⟨fun entry hentry => (hnew entry hentry).1, hnodup⟩, hhead,
            fun entry hentry => (hnew entry hentry).2⟩
        · rintro ⟨⟨hother, hnodup⟩, -, hnew⟩
          exact ⟨hnodup, fun entry hentry => ⟨hother entry hentry, hnew entry hentry⟩⟩

theorem uniqueAfter_eq_self :
    ∀ (entries : List (Key × Value)) (seen : List String),
      (entries.map fun entry => entry.2.text).Nodup →
        (∀ entry ∈ entries, entry.2.text ∉ seen) → uniqueAfter seen entries = entries := by
  intro entries
  induction entries with
  | nil => simp [uniqueAfter]
  | cons head entries ih =>
      intro seen hnodup hnew
      simp only [List.map_cons, List.nodup_cons, List.mem_map, not_exists, not_and] at hnodup
      rw [uniqueAfter, if_neg (hnew head List.mem_cons_self), ih _ hnodup.2]
      intro entry hentry
      rw [List.mem_cons, not_or]
      exact ⟨hnodup.1 entry hentry, hnew entry (List.mem_cons_of_mem _ hentry)⟩

theorem transmittedEntries_uniqueAfter_iff (float : PhpFloat → Value) (key : Key)
    (roles : List (Key × Value)) :
    Value.transmittedEntries float
        (uniqueAfter [] (roles ++ [(key, .str "ROLE_USER")])) = roles ↔
      "ROLE_USER" ∈ roles.map (fun entry => entry.2.text) ∧
        (roles.map fun entry => entry.2.text).Nodup ∧
        Value.transmittedEntries float roles = roles := by
  constructor
  · intro hkept
    by_cases huser : "ROLE_USER" ∈ roles.map (fun entry => entry.2.text)
    · rw [uniqueAfter_append_of_mem _ _ _ (Or.inr huser)] at hkept
      have hlength : (uniqueAfter [] roles).length = roles.length := by
        conv_rhs => rw [← hkept, Value.transmittedEntries_eq_map, List.length_map]
      obtain ⟨hnodup, hnew⟩ := (length_uniqueAfter_eq_iff roles []).mp hlength
      rw [uniqueAfter_eq_self roles [] hnodup hnew] at hkept
      exact ⟨huser, hnodup, hkept⟩
    · -- the appended role would have to be among the stored ones
      have hlast := mem_uniqueAfter_append (key, .str "ROLE_USER") roles [] (by simp) huser
      have hmem : (key, Value.str "ROLE_USER") ∈ roles := by
        rw [← hkept, Value.transmittedEntries_eq_map]
        exact List.mem_map.mpr ⟨_, hlast, rfl⟩
      exact absurd (List.mem_map.mpr ⟨_, hmem, rfl⟩) huser
  · rintro ⟨huser, hnodup, hjson⟩
    rw [uniqueAfter_append_of_mem _ _ _ (Or.inr huser),
      uniqueAfter_eq_self roles [] hnodup (by simp), hjson]

/-- The roles of an answer are the stored ones exactly when they are kept. -/
theorem Rendering.keepsRoles_iff {rendering : Rendering} {runtime : Runtime}
    {utilisateur : Utilisateur} :
    (∃ roles, utilisateur.getRoles rendering runtime = .ok roles ∧
        Value.transmittedEntries rendering.float roles = utilisateur.roles) ↔
      rendering.KeepsRoles runtime utilisateur.roles := by
  unfold Utilisateur.getRoles arrayUnique
  cases hkey : rendering.nextKey utilisateur.roles with
  | none =>
      constructor
      · rintro ⟨roles, hroles, -⟩
        cases hroles
      · intro hkeeps
        have hroom := hkeeps.room
        rw [hkey] at hroom
        cases hroom
  | some key =>
      dsimp only
      split
      case isTrue hwarning =>
        constructor
        · rintro ⟨roles, hroles, -⟩
          cases hroles
        · intro hkeeps
          simp only [Bool.and_eq_true, List.any_append, Bool.or_eq_true, List.any_eq_true,
            List.any_cons, List.any_nil, Value.isArray_str, Bool.false_or,
            Bool.false_eq_true, or_false] at hwarning
          obtain ⟨⟨hdebug, -⟩, entry, hentry, harray⟩ := hwarning
          rw [hkeeps.scalar hdebug entry hentry] at harray
          cases harray
      case isFalse hquiet =>
        simp only [Except.ok.injEq, exists_eq_left', transmittedEntries_uniqueAfter_iff]
        constructor
        · rintro ⟨huser, hnodup, hjson⟩
          refine ⟨by simp [hkey], fun hdebug entry hentry => ?_, huser, hnodup, hjson⟩
          by_contra harray
          apply hquiet
          have hpositive := List.length_pos_of_mem hentry
          simp only [hdebug, Bool.true_and, Bool.and_eq_true, decide_eq_true_eq,
            List.length_append, List.length_cons, List.length_nil, List.any_eq_true]
          exact ⟨by omega, entry, List.mem_append_left _ hentry,
            Bool.not_eq_false _ ▸ harray⟩
        · intro hkeeps
          exact ⟨hkeeps.user, hkeeps.distinct, hkeeps.json⟩

end Bibliotheque
