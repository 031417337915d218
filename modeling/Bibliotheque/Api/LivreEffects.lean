import Bibliotheque.Api.LivreUpdate
import Bibliotheque.Api.Router

/-!
# What a successful `PUT /api/livre/{id}` changes

Which bodies are answered with 200, what becomes of each column and of the
author links of the book, and that the same request sent again finds nothing
left to do.
-/

namespace Bibliotheque

open Program Bibliotheque.Action

/-- The same server at another time: the clock moved, and with it what a
relative date means. -/
def Runtime.Later (runtime later : Runtime) : Prop :=
  later = { runtime with today := later.today, strtotime := later.strtotime }

theorem Runtime.Later.rowId_eq {runtime later : Runtime}
    (hlater : runtime.Later later) : later.rowId = runtime.rowId := by
  funext value
  rw [hlater]
  cases value <;> rfl

namespace LivreController

variable {runtime : Runtime} {base : Base} {id : ℕ} {data : Value} {old : Livre}

/-- The text of a key, as a column of 255 characters takes it. -/
def texte (given : Value) : Except Throwable String :=
  given.toString.map (Varchar.store 255)

/-- One of the `auteurIds` of the body designates the author. -/
def Names (runtime : Runtime) (data : Value) (auteur : ℕ) : Prop :=
  ∃ items, (data.field "auteurIds").bind Value.elements = some items ∧
    ∃ item ∈ items, runtime.rowId item = .ok (some auteur)

theorem mem_sent_auteurs_iff (auteur : ℕ) :
    auteur ∈ (sent runtime data).auteurs ↔ Names runtime data auteur := by
  have hread : ∀ item, (runtime.rowId item).toOption.join = some auteur ↔
      runtime.rowId item = .ok (some auteur) := by
    intro item
    cases runtime.rowId item with
    | ok number => simp [Except.toOption]
    | error throwable => simp [Except.toOption]
  simp only [sent, Names, List.mem_filterMap, hread]
  cases (data.field "auteurIds").bind Value.elements with
  | none => simp
  | some items => simp

theorem refuses_update : Refuses (update runtime id data) :=
  stops_updateFields.bind fun _ => refuses_flush.bind fun _ => stops_pure _

/-- A book is updated exactly by an accepted body whose outcome the server
accepts. -/
theorem completes_update_iff {property : Response → Base → Prop} :
    Completes (update runtime id data) (fun sent final => property sent final.base)
        (Session.start base) ↔
      Accepted runtime base.toTables id data ∧
        ∃ hvalid : (committed runtime id data base base).Valid,
          property ⟨200, .object [("message", .str "Livre updated"), ("id", .int id)]⟩
            ⟨committed runtime id data base base, hvalid⟩ := by
  have hcommit : (applied runtime id data (Session.start base)).commit =
      .ok ((pending runtime id data base base).updated, 0) := commit_pending
  rw [Completes, update, wp_bind, wp_updateFields_iff]
  apply and_congr Iff.rfl
  rw [wp_bind]
  exact completes_flush_of_commit hcommit rfl

/-- The server accepts the outcome exactly if the columns take the new row. -/
theorem Accepted.valid_committed_iff (haccepted : Accepted runtime base.toTables id data)
    (hold : base.livre.find id = some old) :
    (committed runtime id data base base).Valid ↔
      ((sent runtime data).onRow old).store.Fits := by
  constructor
  · intro hvalid
    apply hvalid.livre_fits (id, ((sent runtime data).onRow old).store)
    rw [← Table.find_eq_some_iff, livre_find_committed hold]
  · exact valid_committed haccepted hold

theorem mem_livreAuteur_committed (hold : base.livre.find id = some old)
    (link : ℕ × ℕ) :
    link ∈ (committed runtime id data base base).livreAuteur ↔
      link ∈ base.livreAuteur ∨ link.1 = id ∧ Names runtime data link.2 := by
  rw [committed_eq hold, List.mem_append,
    mem_newLinks_pending (Table.mem_ids_of_find hold), mem_sent_auteurs_iff]
  tauto

/-- A request that finds the columns set and the authors linked changes
nothing. -/
theorem committed_eq_self (hold : base.livre.find id = some old)
    (hset : ((sent runtime data).onRow old).store = old)
    (hlinked : ∀ auteur, Names runtime data auteur → (id, auteur) ∈ base.livreAuteur) :
    committed runtime id data base base = base.toTables := by
  have hlinks : (pending runtime id data base base).newLinks 0 = [] := by
    apply List.eq_nil_iff_forall_not_mem.mpr
    rintro ⟨livre, auteur⟩ hlink
    obtain ⟨rfl, hauteur, hnew⟩ :=
      (mem_newLinks_pending (Table.mem_ids_of_find hold) _).mp hlink
    exact hnew (hlinked auteur ((mem_sent_auteurs_iff auteur).mp hauteur))
  have hlivre : base.livre.modify id
      (Livre.store ∘ Livre.write old ((sent runtime data).onRow old)) = base.livre := by
    rw [Table.modify_eq_self_iff]
    intro row hrow
    cases hold.symm.trans hrow
    rw [Function.comp_apply, Livre.write_loaded, hset]
  rw [committed_eq hold, hlinks, hlivre, List.append_nil]

theorem Accepted.later (haccepted : Accepted runtime base.toTables id data)
    {later : Runtime} (hlater : runtime.Later later)
    (habsolute : ∀ given, data.field "dateSortie" = some given →
      later.newDateTime given = runtime.newDateTime given) :
    Accepted later base.toTables id data where
  livre := haccepted.livre
  titre := haccepted.titre
  dateSortie := by
    intro given hfield
    rw [habsolute given hfield]
    exact haccepted.dateSortie given hfield
  langue := haccepted.langue
  photoCouverture := haccepted.photoCouverture
  categorie := by
    rw [hlater.rowId_eq]
    exact haccepted.categorie
  auteurs := by
    have hdebug : later.debug = runtime.debug := by rw [hlater]
    rw [hlater.rowId_eq, hdebug]
    exact haccepted.auteurs

/-- A request that finds everything done is answered and leaves the state as it
is. -/
theorem serve_update_of_done (haccepted : Accepted runtime base.toTables id data)
    (hold : base.livre.find id = some old)
    (hset : ((sent runtime data).onRow old).store = old)
    (hlinked : ∀ auteur, Names runtime data auteur → (id, auteur) ∈ base.livreAuteur) :
    serve (update runtime id data) base =
      (.response ⟨200, .object [("message", .str "Livre updated"), ("id", .int id)]⟩,
        base) := by
  have hfits : ((sent runtime data).onRow old).store.Fits := by
    rw [hset]
    exact base.valid.livre_fits _ ((Table.find_eq_some_iff _ _ _).mp hold)
  rw [serve_update haccepted hold hfits]
  simp only [committed_eq_self hold hset hlinked]

end LivreController

/-- A new title and date, and the linked author once more, twice. -/
def Value.persuasion : Value :=
  .object [("titre", .str "Persuasion"), ("dateSortie", .str "12/20/1817"),
    ("auteurIds", .list [.int 1, .str "1"])]

end Bibliotheque
