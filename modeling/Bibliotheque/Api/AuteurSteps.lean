import Bibliotheque.Api.AuteurRequests
import Bibliotheque.Api.Commandes

/-!
# A new author in steps

`POST /api/auteur` looks its books up one by one and skips those that it does not
find.  A book that was found stays in the unit of work, even if it leaves the
database before the flush.  Which books the author gets is told from the states that
these reads met.
-/

namespace Bibliotheque

open Program Bibliotheque.Action

namespace AuteurController

/-- The books in the unit of work: those of the database, and those that were found
before. -/
def connus (base : Base) (trouves : List (ℕ × Livre)) : Tables :=
  { base.toTables with
    livre := trouves.foldl (fun table book => table.adopt book.1 book.2) base.livre }

/-- The new author with its books, before the flush. -/
def creatingWith (base : Base) (entity : Entity) (trouves : List (ℕ × Livre)) : Session :=
  { Session.start base with
    loaded := connus base trouves
    managed := connus base trouves
    liens := addLivres (trouves.map Prod.fst) base.liens
    persisted := some entity }

/-- The object of a book that was found, read now or known before. -/
def objet (trouves : List (ℕ × Livre)) (livre : ℕ) : Option Base → Option (ℕ × Livre)
  | some base => (base.livre.find livre).map (livre, ·)
  | none => trouves.find? (·.1 = livre)

/-- The loop over `livres`, with the books that were found. -/
def livresSteps (runtime : Runtime) (suite : List (ℕ × Livre) → Tache) :
    List Value → List (ℕ × Livre) → Tache
  | [], trouves => suite trouves
  | livreId :: livreIds, trouves =>
      .rechercher runtime Tables.livre (trouves.map Prod.fst) livreId fun lu found =>
        livresSteps runtime suite livreIds
          (trouves ++ (found.bind fun livre => objet trouves livre lu).toList)

def createSteps (runtime : Runtime) (data : Value) : Tache :=
  if data.truthy then
    .php ((data.field "nom").getD .null).toString fun nom =>
    .php ((data.field "prenom").getD .null).toString fun prenom =>
    .siPresent (data.field "dateNaiss") parseDate fun dateNaiss =>
    .siPresent (data.field "dateDeces") parseDate fun dateDeces =>
    .php ((data.field "nationalite").getD .null).toString fun nationalite =>
    .php (Value.toNullableString (data.field "photo")) fun photo =>
    .php ((data.field "description").getD .null).toString fun description =>
    let suite := fun trouves => .lecture fun base => .ecriture
      (creatingWith base (.auteur {
        nom := some nom
        prenom := some prenom
        dateNaiss := dateNaiss
        dateDeces := dateDeces
        nationalite := some nationalite
        photo := photo
        description := some description }) trouves)
      fun final => ⟨201, .object [("message", .str "Auteur créé avec succès."),
        ("id", .int final.insertId), ("nom", .str nom), ("prenom", .str prenom)]⟩
    match ((data.field "livres").getD (.arr [])).elements with
    | some items => livresSteps runtime suite items []
    | none =>
        if runtime.debug then
          .terminee (.thrown (.warning "foreach() argument must be of type array|object"))
        else suite []
  else
    .terminee (.response
      ⟨400, .object [("message", .str "Aucune donnée reçue ou données invalides.")]⟩)

variable {base current : Base} {trouves : List (ℕ × Livre)} {entity : Entity}

/-! ## The flush -/

theorem mem_ids_connus (livre : ℕ) :
    livre ∈ (connus base trouves).livre.ids ↔
      livre ∈ base.livre.ids ∨ livre ∈ trouves.map Prod.fst := by
  have hfold : ∀ (trouves : List (ℕ × Livre)) (table : Table Livre),
      livre ∈ (trouves.foldl (fun table book => table.adopt book.1 book.2) table).ids ↔
        livre ∈ table.ids ∨ livre ∈ trouves.map Prod.fst := by
    intro trouves
    induction trouves with
    | nil => exact fun table => by simp
    | cons book trouves ih =>
        intro table
        rw [List.foldl_cons, ih, Table.mem_ids_adopt, or_assoc, List.map_cons, List.mem_cons]
  exact hfold trouves base.livre

/-- Books that are all in the database are no news. -/
theorem connus_eq_self (htrouves : ∀ livre ∈ trouves.map Prod.fst, livre ∈ base.livre.ids) :
    connus base trouves = base.toTables := by
  have hfold : ∀ {trouves : List (ℕ × Livre)},
      (∀ livre ∈ trouves.map Prod.fst, livre ∈ base.livre.ids) →
        trouves.foldl (fun table book => table.adopt book.1 book.2) base.livre =
          base.livre := by
    intro trouves
    induction trouves with
    | nil => exact fun _ => rfl
    | cons book trouves ih =>
        intro hall
        rw [List.map_cons, List.forall_mem_cons] at hall
        rw [List.foldl_cons, Table.adopt_of_mem hall.1, ih hall.2]
  rw [connus, hfold htrouves]

theorem commit_creatingWith {inserted : Tables} {fresh : ℕ}
    (hinsert : entity.insert current.toTables = some (inserted, fresh)) :
    Session.commit { creatingWith base entity trouves with base := current } =
      .ok ({ inserted with
        livreAuteur := inserted.livreAuteur ++
          Session.newLinks { creatingWith base entity trouves with base := current } fresh },
        fresh) := by
  have hwritten : Tables.write (connus base trouves) (connus base trouves) current.toTables =
      current.toTables := Tables.write_unchanged _ _
  simp only [Session.commit, creatingWith, hwritten, hinsert]
  rfl

theorem commit_creatingWith_none (hinsert : entity.insert current.toTables = none) :
    Session.commit { creatingWith base entity trouves with base := current } =
      .error .integrityViolation := by
  have hwritten : Tables.write (connus base trouves) (connus base trouves) current.toTables =
      current.toTables := Tables.write_unchanged _ _
  simp only [Session.commit, creatingWith, hwritten, hinsert]
  rfl

theorem adds_creatingWith_iff (livre auteur : Ref) :
    Session.Adds { creatingWith base entity trouves with base := current } livre auteur ↔
      auteur = .fresh ∧ ∃ number ∈ trouves.map Prod.fst, livre = .managed number := by
  change auteur ∈ (addLivres (trouves.map Prod.fst) base.liens).auteurs livre ∧
    auteur ∉ base.liens.auteurs livre ↔ _
  rw [(coherent_addLivres _ base.valid.coherent_liens).2]
  constructor
  · rintro ⟨hold | hnew, habsent⟩
    · exact absurd hold habsent
    · exact hnew
  · rintro ⟨rfl, number, hnumber, rfl⟩
    refine ⟨Or.inr ⟨rfl, number, hnumber, rfl⟩, fun hold => ?_⟩
    obtain ⟨other, -, heq⟩ := (Tables.mem_liens_auteurs _ _ _).mp hold
    cases heq

/-- The new author gets the books that were found. -/
theorem mem_newLinks_creatingWith (fresh : ℕ) (link : ℕ × ℕ) :
    link ∈ Session.newLinks { creatingWith base entity trouves with base := current } fresh ↔
      link.2 = fresh ∧ link.1 ∈ trouves.map Prod.fst := by
  simp only [Session.mem_newLinks_iff, adds_creatingWith_iff]
  constructor
  · rintro ⟨-, -, -, ⟨rfl, number, hnumber, rfl⟩, rfl⟩
    exact ⟨rfl, hnumber⟩
  · obtain ⟨livre, auteur⟩ := link
    rintro ⟨rfl, hlivre⟩
    have hid : livre ∈ (connus base trouves).livre.ids :=
      (mem_ids_connus livre).mpr (Or.inr hlivre)
    exact ⟨.managed livre, .fresh, Or.inr ⟨livre, hid, rfl⟩, ⟨rfl, livre, hlivre, rfl⟩, rfl⟩

/-! ## Which books are found -/

/-- The books that the loop finds if its reads meet these states. -/
def livresTrouves (runtime : Runtime) : List Value → List Base → List ℕ → List ℕ
  | [], _, livres => livres
  | livreId :: livreIds, lus, livres =>
      match runtime.rowId livreId with
      | .error _ => livres
      | .ok number =>
          if number.any (Tache.connu livres livreId) then
            livresTrouves runtime livreIds lus (livres ++ number.toList)
          else
            match lus with
            | [] => livres
            | lu :: lus => livresTrouves runtime livreIds lus
                (livres ++ (number.filter fun livre => livre ∈ lu.livre.ids).toList)

section Trouves

variable {runtime : Runtime} {item : Value} {items : List Value} {livres : List ℕ}

/-- A book whose object is there needs no `SELECT`. -/
theorem livresTrouves_connu {livre : ℕ} (hrowId : runtime.rowId item = .ok (some livre))
    (hconnu : Tache.connu livres item livre = true) (lus : List Base) :
    livresTrouves runtime (item :: items) lus livres =
      livresTrouves runtime items lus (livres ++ [livre]) := by
  rw [livresTrouves, hrowId]
  dsimp only
  rw [Option.any_some, if_pos hconnu, Option.toList_some]

theorem livresTrouves_lu {number : Option ℕ} (hrowId : runtime.rowId item = .ok number)
    (hinconnu : ¬ number.any (Tache.connu livres item) = true) (lu : Base) (lus : List Base) :
    livresTrouves runtime (item :: items) (lu :: lus) livres =
      livresTrouves runtime items lus
        (livres ++ (number.filter fun livre => livre ∈ lu.livre.ids).toList) := by
  rw [livresTrouves, hrowId]
  dsimp only
  rw [if_neg hinconnu]

theorem exists_objet_connu {livre : ℕ} (hlivre : livre ∈ trouves.map Prod.fst) :
    ∃ row, (livre, row) ∈ trouves ∧ objet trouves livre none = some (livre, row) := by
  obtain ⟨book, hbook, hsame⟩ := List.mem_map.mp hlivre
  obtain ⟨⟨number, row⟩, hfound⟩ := Option.isSome_iff_exists.mp
    (List.find?_isSome (p := fun other => other.1 = livre) |>.mpr ⟨book, hbook, by simpa⟩)
  have hnumber : number = livre := by simpa using List.find?_some hfound
  subst hnumber
  exact ⟨row, List.mem_of_find?_eq_some hfound, hfound⟩

/-- What a `SELECT` finds becomes an object. -/
theorem objet_lu (base : Base) (trouves : List (ℕ × Livre)) (number : Option ℕ) :
    ((number.filter fun livre => livre ∈ base.livre.ids).bind fun livre =>
        objet trouves livre (some base)).toList.map Prod.fst =
      (number.filter fun livre => livre ∈ base.livre.ids).toList := by
  cases hfound : number.filter fun livre => livre ∈ base.livre.ids with
  | none => rfl
  | some livre =>
      have hmember : livre ∈ base.livre.ids := by
        simpa using (Option.filter_eq_some_iff.mp hfound).2
      obtain ⟨row, hrow⟩ := Table.exists_find_of_mem_ids hmember
      rw [Option.bind_some, objet, hrow]
      rfl

end Trouves

/-! ## Alone -/

section Alone

open Commande

variable {runtime : Runtime}

theorem serve_optionalDate {value : Option Value} {next : Option Date → Action Response}
    {suite : Option Date → Tache}
    (hnext : ∀ out, serve (next out) base = (suite out).seule base) :
    serve (optionalDate value >>= next) base =
      (Tache.siPresent value parseDate suite).seule base := by
  cases value with
  | none => exact hnext none
  | some given =>
      have hread : (optionalDate (some given) >>= next) =
          (Action.php (parseDate given) >>= fun date => next (some date)) := by
        simp only [optionalDate, readDate_eq, bind_assoc, pure_bind]
      rw [hread]
      exact serve_php fun date => hnext (some date)

/-- The session of `create` within the loop. -/
def linkingLivres (base : Base) (livres : List ℕ) : Session :=
  { Session.start base with liens := addLivres livres base.liens }

/-- Every object is the one of the database. -/
def Actuels (base : Base) (trouves : List (ℕ × Livre)) : Prop :=
  ∀ book ∈ trouves, base.livre.find book.1 = some book.2

theorem Actuels.mem_ids (hactuels : Actuels base trouves) :
    ∀ livre ∈ trouves.map Prod.fst, livre ∈ base.livre.ids := by
  intro livre hlivre
  obtain ⟨book, hbook, rfl⟩ := List.mem_map.mp hlivre
  exact Table.mem_ids_of_find (hactuels book hbook)

/-- A book that is found is known now or was before. -/
theorem exists_objet {lu : Option Base} {livre : ℕ} (hactuels : Actuels base trouves)
    (hlivre : livre ∈ base.livre.ids) (hlu : ∀ other ∈ lu, other = base)
    (hconnu : lu = none → livre ∈ trouves.map Prod.fst) :
    ∃ row, objet trouves livre lu = some (livre, row) ∧ base.livre.find livre = some row := by
  obtain ⟨row, hrow⟩ := Table.exists_find_of_mem_ids hlivre
  refine ⟨row, ?_, hrow⟩
  cases lu with
  | some other =>
      cases hlu other rfl
      rw [objet, hrow, Option.map_some]
  | none =>
      obtain ⟨found, hfound, hobjet⟩ := exists_objet_connu (hconnu rfl)
      have hsame := hactuels _ hfound
      rw [hrow] at hsame
      rw [hobjet, Option.some.inj hsame]

/-- The loop over the books. -/
theorem conclure_forM_linkLivre {next : Unit → Action Response}
    {suite : List (ℕ × Livre) → Tache}
    (hnext : ∀ trouves, Actuels base trouves →
      conclure (next () (linkingLivres base (trouves.map Prod.fst))) =
        (suite trouves).seule base) :
    ∀ (items : List Value) (trouves : List (ℕ × Livre)), Actuels base trouves →
      conclure ((items.forM (linkLivre runtime) >>= next)
        (linkingLivres base (trouves.map Prod.fst))) =
          (livresSteps runtime suite items trouves).seule base := by
  intro items
  induction items with
  | nil => exact hnext
  | cons item items ih =>
      intro trouves hactuels
      have hloop : ((item :: items).forM (linkLivre runtime) >>= next) = _ :=
        (bind_assoc (linkLivre runtime item) _ _).trans
          (bind_assoc (find runtime Tables.livre item) _ _)
      rw [hloop, livresSteps]
      refine conclure_rechercher rfl rfl hactuels.mem_ids fun found lu hfound hlu => ?_
      cases found with
      | none =>
          rw [Option.bind_none, Option.toList_none, List.append_nil, ← ih trouves hactuels]
          rfl
      | some livre =>
          obtain ⟨hlivre, hconnu⟩ := hfound livre rfl
          obtain ⟨row, hobjet, hrow⟩ := exists_objet hactuels hlivre hlu hconnu
          have hboth : Actuels base (trouves ++ [(livre, row)]) := by
            intro book hbook
            rcases List.mem_append.mp hbook with hold | hnew
            · exact hactuels book hold
            · rw [List.mem_singleton.mp hnew, hrow]
          have hlinked : linkingLivres base ((trouves ++ [(livre, row)]).map Prod.fst) =
              { linkingLivres base (trouves.map Prod.fst) with
                liens := (linkingLivres base (trouves.map Prod.fst)).liens.addLivre
                  .fresh (.managed livre) } := by
            simp [linkingLivres, addLivres]
          rw [Option.bind_some, hobjet, Option.toList_some, ← ih _ hboth, hlinked]
          rfl

theorem conclure_persistAuteur {after : Unit → Action Response}
    {answer : Session → Response} (hactuels : Actuels base trouves)
    (hafter : ∀ final, after () final = .ok (answer final) final) :
    conclure ((persist entity >>= fun _ => flush >>= after)
        (linkingLivres base (trouves.map Prod.fst))) =
      (Tache.ecriture (creatingWith base entity trouves) answer).seule base := by
  have hsession : creatingWith base entity trouves =
      { linkingLivres base (trouves.map Prod.fst) with persisted := some entity } := by
    rw [creatingWith, connus_eq_self hactuels.mem_ids]
    rfl
  rw [hsession]
  exact conclure_flush rfl hafter

/-- Alone, the steps do what the handler does. -/
theorem serve_auteurCreate (data : Value) :
    serve (create runtime data) base = (createSteps runtime data).seule base := by
  unfold create createSteps
  rw [Operation.serve_answerIf]
  cases data.truthy with
  | false => rfl
  | true =>
      refine serve_php fun nom => serve_php fun prenom => ?_
      refine serve_optionalDate fun dateNaiss => serve_optionalDate fun dateDeces => ?_
      refine serve_php fun nationalite => serve_php fun photo => serve_php fun description => ?_
      dsimp only
      rw [foreach]
      cases ((data.field "livres").getD (.arr [])).elements with
      | some items =>
          rw [serve_eq_conclure]
          exact conclure_forM_linkLivre
            (fun trouves hactuels => conclure_persistAuteur hactuels fun _ => rfl) items []
            fun _ hbook => absurd hbook List.not_mem_nil
      | none =>
          dsimp only
          split
          · rfl
          · rw [serve_eq_conclure]
            exact @conclure_persistAuteur base [] _ _ _
              (fun _ hbook => absurd hbook List.not_mem_nil) fun _ => rfl

end Alone

end AuteurController

end Bibliotheque
