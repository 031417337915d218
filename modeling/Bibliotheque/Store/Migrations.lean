import Bibliotheque.Core.Ddl
import Bibliotheque.Store.Schema

/-!
# The migrations

The `up` methods of the six migrations, statement by statement.  The first one
creates the schema with the table `adherent`; the five later ones replace it by
`utilisateur`.  Indexes that are not unique constrain nothing and are left out.
-/

namespace Bibliotheque.Migration

open Ddl Database

inductive Nom where
  | adherent
  | auteur
  | categorie
  | emprunt
  | livre
  | livreAuteur
  | reservations
  | utilisateur
  deriving DecidableEq

inductive Colonne where
  | id
  | dateAdhesion
  | nom
  | prenom
  | dateNaiss
  | email
  | adressePostale
  | numTel
  | photo
  | roles
  | password
  | dateDeces
  | nationalite
  | description
  | emprunteurId
  | livreId
  | dateEmprunt
  | dateRetour
  | categorieId
  | titre
  | dateSortie
  | langue
  | photoCouverture
  | auteurId
  | reservateurId
  | dateResa
  deriving DecidableEq

inductive Kind where
  | int
  | varchar (size : ℕ)
  | date
  | json

inductive Donnee where
  | int (value : ℤ)
  | text (value : String)
  | date (value : Date)
  | json (value : Value)
  deriving DecidableEq

/-- The values a column type holds. -/
def fits : Kind → Donnee → Bool
  | .int, .int value => -2 ^ 31 ≤ value && value < 2 ^ 31
  | .varchar size, .text value => decide (Varchar size value)
  | .date, .date value => decide (DateColumn value)
  | .json, .json _ => true
  | _, _ => false

abbrev Contenu := Database Nom Colonne Kind Donnee

/-! ## Tables and foreign keys -/

def notNull (name : Colonne) (kind : Kind) : ColumnDef Colonne Kind := ⟨name, kind, false⟩

def defaultNull (name : Colonne) (kind : Kind) : ColumnDef Colonne Kind := ⟨name, kind, true⟩

def adherentTable : TableDef Colonne Kind where
  columns := [notNull .id .int, notNull .dateAdhesion .date, notNull .nom (.varchar 255),
    notNull .prenom (.varchar 255), notNull .dateNaiss .date, notNull .email (.varchar 255),
    notNull .adressePostale (.varchar 255), notNull .numTel .int,
    defaultNull .photo (.varchar 255), notNull .roles .json, notNull .password (.varchar 255)]
  primaryKey := [.id]
  uniqueIndexes := []

def auteurTable : TableDef Colonne Kind where
  columns := [notNull .id .int, notNull .nom (.varchar 255), notNull .prenom (.varchar 255),
    notNull .dateNaiss .date, defaultNull .dateDeces .date,
    notNull .nationalite (.varchar 255), defaultNull .photo (.varchar 255),
    notNull .description (.varchar 255)]
  primaryKey := [.id]
  uniqueIndexes := []

def categorieTable : TableDef Colonne Kind where
  columns := [notNull .id .int, notNull .nom (.varchar 255),
    notNull .description (.varchar 255)]
  primaryKey := [.id]
  uniqueIndexes := []

def empruntTable : TableDef Colonne Kind where
  columns := [notNull .id .int, notNull .emprunteurId .int, notNull .livreId .int,
    notNull .dateEmprunt .date, defaultNull .dateRetour .date]
  primaryKey := [.id]
  uniqueIndexes := []

def livreTable : TableDef Colonne Kind where
  columns := [notNull .id .int, notNull .categorieId .int, notNull .titre (.varchar 255),
    notNull .dateSortie .date, notNull .langue (.varchar 255),
    defaultNull .photoCouverture (.varchar 255)]
  primaryKey := [.id]
  uniqueIndexes := []

def livreAuteurTable : TableDef Colonne Kind where
  columns := [notNull .livreId .int, notNull .auteurId .int]
  primaryKey := [.livreId, .auteurId]
  uniqueIndexes := []

def reservationsTable : TableDef Colonne Kind where
  columns := [notNull .id .int, notNull .livreId .int, notNull .reservateurId .int,
    notNull .dateResa .date]
  primaryKey := [.id]
  uniqueIndexes := [("UNIQ_4DA23937D925CB", .livreId), ("UNIQ_4DA239FF6F3098", .reservateurId)]

def utilisateurTable : TableDef Colonne Kind where
  columns := [notNull .id .int, notNull .email (.varchar 180), notNull .roles .json,
    notNull .password (.varchar 255), notNull .dateAdhesion .date, notNull .nom (.varchar 255),
    notNull .prenom (.varchar 255), notNull .dateNaiss .date,
    notNull .adressePostale (.varchar 255), notNull .numTel .int,
    defaultNull .photo (.varchar 255)]
  primaryKey := [.id]
  uniqueIndexes := [("UNIQ_1D1C63B3E7927C74", .email)]

/-- `FK_364071D7F0840037`, whose target changes. -/
def empruntEmprunteur (target : Nom) : ForeignKey Nom Colonne :=
  ⟨"FK_364071D7F0840037", .emprunt, .emprunteurId, target, .id, false⟩

def empruntLivre : ForeignKey Nom Colonne :=
  ⟨"FK_364071D737D925CB", .emprunt, .livreId, .livre, .id, false⟩

def livreCategorie : ForeignKey Nom Colonne :=
  ⟨"FK_AC634F99BCF5E72D", .livre, .categorieId, .categorie, .id, false⟩

def livreAuteurLivre : ForeignKey Nom Colonne :=
  ⟨"FK_A11876B537D925CB", .livreAuteur, .livreId, .livre, .id, true⟩

def livreAuteurAuteur : ForeignKey Nom Colonne :=
  ⟨"FK_A11876B560BB6FE6", .livreAuteur, .auteurId, .auteur, .id, true⟩

def reservationsLivre : ForeignKey Nom Colonne :=
  ⟨"FK_4DA23937D925CB", .reservations, .livreId, .livre, .id, false⟩

/-- `FK_4DA239FF6F3098`, whose target changes. -/
def reservationsReservateur (target : Nom) : ForeignKey Nom Colonne :=
  ⟨"FK_4DA239FF6F3098", .reservations, .reservateurId, target, .id, false⟩

/-- The columns of `utilisateur` that two migrations change. -/
def utilisateurChange : Statement Nom Colonne Kind :=
  .changeColumns .utilisateur
    [notNull .email (.varchar 180), notNull .roles .json, notNull .password (.varchar 255),
      notNull .nom (.varchar 255), notNull .prenom (.varchar 255),
      notNull .adressePostale (.varchar 255), defaultNull .photo (.varchar 255)]
    [.id]

/-! ## The `up` methods -/

namespace Version20240205090850

def up : List (Statement Nom Colonne Kind) :=
  [.createTable .adherent adherentTable,
    .createTable .auteur auteurTable,
    .createTable .categorie categorieTable,
    .createTable .emprunt empruntTable,
    .createTable .livre livreTable,
    .createTable .livreAuteur livreAuteurTable,
    .createTable .reservations reservationsTable,
    .addForeignKey (empruntEmprunteur .adherent),
    .addForeignKey empruntLivre,
    .addForeignKey livreCategorie,
    .addForeignKey livreAuteurLivre,
    .addForeignKey livreAuteurAuteur,
    .addForeignKey reservationsLivre,
    .addForeignKey (reservationsReservateur .adherent)]

/-- The schema this migration creates. -/
def schema : Schema Nom Colonne Kind := (Schema.empty.migrate up).1

/-- It runs on an empty database. -/
example : (Schema.empty.migrate up).2 = none := by decide

end Version20240205090850

def Version20240205140858.up : List (Statement Nom Colonne Kind) :=
  [.createTable .utilisateur utilisateurTable,
    .dropForeignKey .emprunt "FK_364071D7F0840037",
    .addForeignKey (empruntEmprunteur .utilisateur),
    .dropForeignKey .reservations "FK_4DA239FF6F3098",
    .addForeignKey (reservationsReservateur .utilisateur)]

def Version20240206091636.up : List (Statement Nom Colonne Kind) :=
  [.dropForeignKey .emprunt "FK_364071D7F0840037",
    .dropForeignKey .reservations "FK_4DA239FF6F3098",
    .dropTable .adherent,
    .dropForeignKey .emprunt "FK_364071D7F0840037",
    .addForeignKey (empruntEmprunteur .utilisateur),
    .dropForeignKey .reservations "FK_4DA239FF6F3098",
    .addForeignKey (reservationsReservateur .utilisateur),
    utilisateurChange,
    .createUniqueIndex "UNIQ_1D1C63B3E7927C74" .utilisateur .email]

def Version20240206092558.up : List (Statement Nom Colonne Kind) :=
  [.dropForeignKey .reservations "FK_4DA239FF6F3098",
    .dropTable .adherent,
    .addForeignKey (empruntEmprunteur .utilisateur),
    .dropForeignKey .reservations "FK_4DA239FF6F3098",
    .addForeignKey (reservationsReservateur .utilisateur)]

def Version20240208134951.up : List (Statement Nom Colonne Kind) :=
  [.dropForeignKey .emprunt "FK_364071D7F0840037",
    .dropForeignKey .reservations "FK_4DA239FF6F3098",
    .dropTable .adherent,
    .dropForeignKey .emprunt "FK_364071D7F0840037",
    .addForeignKey (empruntEmprunteur .utilisateur),
    .dropForeignKey .reservations "FK_4DA239FF6F3098",
    .addForeignKey (reservationsReservateur .utilisateur),
    utilisateurChange,
    .createUniqueIndex "UNIQ_1D1C63B3E7927C74" .utilisateur .email]

def Version20240208144338.up : List (Statement Nom Colonne Kind) :=
  [.createTable .auteur auteurTable,
    .createTable .categorie categorieTable,
    .createTable .emprunt empruntTable,
    .createTable .livre livreTable,
    .createTable .livreAuteur livreAuteurTable,
    .createTable .reservations reservationsTable,
    .createTable .utilisateur utilisateurTable,
    .addForeignKey (empruntEmprunteur .utilisateur),
    .addForeignKey empruntLivre,
    .addForeignKey livreCategorie,
    .addForeignKey livreAuteurLivre,
    .addForeignKey livreAuteurAuteur,
    .addForeignKey reservationsLivre,
    .addForeignKey (reservationsReservateur .utilisateur)]

/-- The five migrations after the first, in version order. -/
def later : List (Statement Nom Colonne Kind) :=
  Version20240205140858.up ++ Version20240206091636.up ++ Version20240206092558.up ++
    Version20240208134951.up ++ Version20240208144338.up

/-! ## Running the later migrations -/

/-- A content the server accepts under the schema of the first migration. -/
structure Ancienne where
  rows : Nom → List (Row Colonne Donnee)
  consistent : Consistent fits ⟨Version20240205090850.schema, rows⟩

/-- Every row of `table` survives, and `column` designates a user with the name
and the address of the member it designated before. -/
def Designates (before after : Contenu) (table : Nom) (column : Colonne) : Prop :=
  ∀ row ∈ before.rows table, ∃ kept ∈ after.rows table,
    (∀ other, other ≠ column → kept other = row other) ∧
    ∀ adherent ∈ before.rows .adherent, adherent .id = row column →
      ∃ utilisateur ∈ after.rows .utilisateur, utilisateur .id = kept column ∧
        utilisateur .nom = adherent .nom ∧ utilisateur .prenom = adherent .prenom ∧
        utilisateur .email = adherent .email

namespace Ancienne

def contenu (ancienne : Ancienne) : Contenu :=
  ⟨Version20240205090850.schema, ancienne.rows⟩

def migrer (ancienne : Ancienne) : Contenu × Option SqlError :=
  ancienne.contenu.migrate fits later

/-- The chain completes, and loans and reservations keep their meaning. -/
def Preserved (ancienne : Ancienne) : Prop :=
  ancienne.migrer.2 = none ∧
    Designates ancienne.contenu ancienne.migrer.1 .emprunt .emprunteurId ∧
    Designates ancienne.contenu ancienne.migrer.1 .reservations .reservateurId

end Ancienne

/-! ## Where the chain stops -/

/-- `Version20240206091636` drops `FK_364071D7F0840037` twice. -/
theorem later_stuck :
    (Version20240205090850.schema.migrate later).2 = some .unknownForeignKey := by
  decide

/-- Whatever the rows, the chain of the later migrations ends with an error. -/
theorem Ancienne.not_preserved (ancienne : Ancienne) : ¬ ancienne.Preserved := by
  intro hpreserved
  have hschema : (Version20240205090850.schema.migrate later).2 = none :=
    schema_of_migrate later ancienne.contenu hpreserved.1
  rw [later_stuck] at hschema
  cases hschema

/-- The content once `Version20240205140858` has created `utilisateur`. -/
def Ancienne.avecUtilisateur (ancienne : Ancienne) : Nom → List (Row Colonne Donnee) :=
  Function.update ancienne.rows .utilisateur []

theorem Ancienne.satisfied_emprunteur (ancienne : Ancienne) :
    (empruntEmprunteur .utilisateur).satisfied ancienne.avecUtilisateur =
      (ancienne.rows .emprunt).isEmpty :=
  ForeignKey.satisfied_of_target_nil rfl fun _ hrow =>
    TableDef.isSome_of_accepts (ancienne.consistent.accepts .emprunt empruntTable rfl)
      (by simp [empruntTable] : notNull .emprunteurId .int ∈ empruntTable.columns) rfl hrow

theorem Ancienne.satisfied_reservateur (ancienne : Ancienne) :
    (reservationsReservateur .utilisateur).satisfied ancienne.avecUtilisateur =
      (ancienne.rows .reservations).isEmpty :=
  ForeignKey.satisfied_of_target_nil rfl fun _ hrow =>
    TableDef.isSome_of_accepts (ancienne.consistent.accepts .reservations reservationsTable rfl)
      (by simp [reservationsTable] :
        notNull .reservateurId .int ∈ reservationsTable.columns) rfl hrow

/-- With a loan or a reservation the chain stops in `Version20240205140858`, which
redirects the foreign keys to the new, empty table.  Without any it stops in
`Version20240206091636`. -/
theorem Ancienne.migrer_error (ancienne : Ancienne) :
    ancienne.migrer.2 =
      some (if (ancienne.rows .emprunt).isEmpty && (ancienne.rows .reservations).isEmpty then
        .unknownForeignKey
      else .foreignKeyViolation) := by
  have hemprunt := ancienne.satisfied_emprunteur
  have hreservations := ancienne.satisfied_reservateur
  rw [migrer, later, Version20240205140858.up]
  simp only [List.cons_append, List.nil_append]
  rw [migrate_cons_of_ok _ rfl rfl, migrate_cons_of_ok _ rfl rfl]
  cases hloans : (ancienne.rows .emprunt).isEmpty with
  | false =>
      rw [hloans] at hemprunt
      rw [migrate_cons_of_violation _ rfl (Statement.violation_of_not_satisfied hemprunt)]
      rfl
  | true =>
      rw [hloans] at hemprunt
      rw [migrate_cons_of_ok _ rfl (Statement.violation_of_satisfied hemprunt),
        migrate_cons_of_ok _ rfl rfl]
      cases hbookings : (ancienne.rows .reservations).isEmpty with
      | false =>
          rw [hbookings] at hreservations
          rw [migrate_cons_of_violation _ rfl (Statement.violation_of_not_satisfied hreservations)]
          rfl
      | true =>
          rw [hbookings] at hreservations
          rw [migrate_cons_of_ok _ rfl (Statement.violation_of_satisfied hreservations),
            Version20240206091636.up]
          simp only [List.cons_append]
          rw [migrate_cons_of_ok _ rfl rfl, migrate_cons_of_ok _ rfl rfl,
            migrate_cons_of_ok _ rfl rfl, migrate_cons_of_error _ rfl]
          rfl

/-! ## One member with one loan -/

def unEmpruntRows : Nom → List (Row Colonne Donnee)
  | .adherent => [fun
      | .id => some (.int 1)
      | .dateAdhesion | .dateNaiss => some (.date Date.sample)
      | .nom => some (.text "Doe")
      | .prenom => some (.text "Ann")
      | .email => some (.text "a@b.fr")
      | .adressePostale | .password => some (.text "")
      | .numTel => some (.int 0)
      | .roles => some (.json (.list []))
      | _ => none]
  | .categorie => [fun
      | .id => some (.int 1)
      | .nom => some (.text "Roman")
      | .description => some (.text "")
      | _ => none]
  | .livre => [fun
      | .id | .categorieId => some (.int 1)
      | .titre => some (.text "Emma")
      | .dateSortie => some (.date Date.sample)
      | .langue => some (.text "EN")
      | _ => none]
  | .emprunt => [fun
      | .id | .emprunteurId | .livreId => some (.int 1)
      | .dateEmprunt => some (.date Date.sample)
      | _ => none]
  | _ => []

def unEmprunt : Ancienne where
  rows := unEmpruntRows
  consistent :=
    { accepts := by
        intro table definition hdefinition
        cases table <;> cases hdefinition <;> decide
      satisfied := by decide
      absent := by
        intro table habsent
        cases table <;> first | rfl | cases habsent }

/-- The loan is refused its new foreign key: no user has the number of the
member. -/
theorem unEmprunt_refused :
    unEmprunt.migrer.2 = some .foreignKeyViolation ∧ ¬ unEmprunt.Preserved := by
  have herror : unEmprunt.migrer.2 = some .foreignKeyViolation := by decide +kernel
  refine ⟨herror, ?_⟩
  intro hpreserved
  have hnone := hpreserved.1
  rw [herror] at hnone
  cases hnone

end Bibliotheque.Migration
