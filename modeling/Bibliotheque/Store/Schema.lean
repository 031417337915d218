import Bibliotheque.Core.Table
import Bibliotheque.Php.Value
import Mathlib.Logic.Relation

/-!
# The relational schema

The seven tables of the last migration with their columns, foreign keys and
unique indexes.  A foreign key column holds the number of the row it
references.  `Tables` is any content the column types allow, and `Base` is a
content that the database server accepts: MariaDB enforces the constraints, so
these are the only committed states.
-/

namespace Bibliotheque

structure Livre where
  titre : String
  dateSortie : Date
  langue : String
  photoCouverture : Option String
  categorie : ℕ
  deriving DecidableEq

structure Auteur where
  nom : String
  prenom : String
  dateNaiss : Date
  dateDeces : Option Date
  nationalite : String
  photo : Option String
  description : String
  deriving DecidableEq

structure Categorie where
  nom : String
  description : String
  deriving DecidableEq

structure Emprunt where
  dateEmprunt : Date
  dateRetour : Option Date
  emprunteur : ℕ
  livre : ℕ
  deriving DecidableEq

structure Reservations where
  dateResa : Date
  livre : ℕ
  reservateur : ℕ
  deriving DecidableEq

structure Utilisateur where
  email : String
  roles : List (Key × Value)
  password : String
  dateAdhesion : Date
  nom : String
  prenom : String
  dateNaiss : Date
  adressePostale : String
  numTel : ℤ
  photo : Option String
  deriving DecidableEq

structure Tables where
  livre : Table Livre
  auteur : Table Auteur
  categorie : Table Categorie
  emprunt : Table Emprunt
  reservations : Table Reservations
  utilisateur : Table Utilisateur
  livreAuteur : List (ℕ × ℕ)

/-! ## Column types -/

/-- What a `VARCHAR(size)` column can hold. -/
def Varchar (size : ℕ) (text : String) : Prop := text.length ≤ size

/-- What the column makes of a text that is written.  Excess spaces are cut with a
warning; any other excess is an error, and such a text stays too long. -/
def Varchar.store (size : ℕ) (text : String) : String :=
  if (text.toList.drop size).all (· = ' ') then .ofList (text.toList.take size) else text

/-- A `DATE` column has no year past 9999 and none before year 0. -/
def DateColumn (date : Date) : Prop := 0 ≤ date.year ∧ date.year ≤ 9999

instance (size : ℕ) (text : String) : Decidable (Varchar size text) :=
  inferInstanceAs (Decidable (_ ≤ _))

instance (date : Date) : Decidable (DateColumn date) :=
  inferInstanceAs (Decidable (_ ∧ _))

theorem Varchar.store_eq_self {size : ℕ} {text : String} (hfits : Varchar size text) :
    store size text = text := by
  have hlength : text.toList.length ≤ size := by rwa [String.length_toList]
  rw [store, List.drop_eq_nil_of_le hlength, List.take_of_length_le hlength]
  simp

/-- The texts that can be written: past the size there are at most spaces. -/
def Varchar.Takes (size : ℕ) (text : String) : Prop :=
  ∀ excess ∈ text.toList.drop size, excess = ' '

theorem Varchar.store_iff {size : ℕ} {text : String} :
    Varchar size (store size text) ↔ Takes size text := by
  unfold store Takes
  split
  · rename_i hblank
    have hlength : (String.ofList (text.toList.take size)).length ≤ size := by
      rw [String.length_ofList, List.length_take]
      exact Nat.min_le_left _ _
    simpa [Varchar, hlength] using hblank
  · rename_i hblank
    refine ⟨fun hfits => ?_, fun hspaces => ?_⟩
    · have hlength : text.toList.length ≤ size := by rwa [String.length_toList]
      simp [List.drop_eq_nil_of_le hlength]
    · exact absurd (by simpa using hspaces) hblank

theorem Varchar.takes {size : ℕ} {text : String} (hfits : Varchar size text) :
    Takes size text := by
  rw [← store_iff, store_eq_self hfits]
  exact hfits

/-- What has been stored can be stored again. -/
theorem Varchar.store_store (size : ℕ) (text : String) :
    store size (store size text) = store size text := by
  by_cases hspaces : Takes size text
  · exact store_eq_self (store_iff.mpr hspaces)
  · have hkept : store size text = text := if_neg (by simpa [Takes] using hspaces)
    rw [hkept, hkept]

theorem Varchar.store_ne_empty {size : ℕ} (hsize : size ≠ 0) {text : String}
    (htext : text ≠ "") : store size text ≠ "" := by
  unfold store
  split
  · intro hempty
    have hlist := congrArg String.toList hempty
    simp [hsize, htext] at hlist
  · exact htext

def Livre.Fits (livre : Livre) : Prop :=
  Varchar 255 livre.titre ∧ DateColumn livre.dateSortie ∧
    Varchar 255 livre.langue ∧ ∀ photo ∈ livre.photoCouverture, Varchar 255 photo

def Auteur.Fits (auteur : Auteur) : Prop :=
  Varchar 255 auteur.nom ∧ Varchar 255 auteur.prenom ∧
    DateColumn auteur.dateNaiss ∧ (∀ date ∈ auteur.dateDeces, DateColumn date) ∧
    Varchar 255 auteur.nationalite ∧ (∀ photo ∈ auteur.photo, Varchar 255 photo) ∧
    Varchar 255 auteur.description

def Categorie.Fits (categorie : Categorie) : Prop :=
  Varchar 255 categorie.nom ∧ Varchar 255 categorie.description

def Emprunt.Fits (emprunt : Emprunt) : Prop :=
  DateColumn emprunt.dateEmprunt ∧ ∀ date ∈ emprunt.dateRetour, DateColumn date

def Reservations.Fits (reservation : Reservations) : Prop :=
  DateColumn reservation.dateResa

def Utilisateur.Fits (utilisateur : Utilisateur) : Prop :=
  Varchar 180 utilisateur.email ∧ Varchar 255 utilisateur.password ∧
    DateColumn utilisateur.dateAdhesion ∧ Varchar 255 utilisateur.nom ∧
    Varchar 255 utilisateur.prenom ∧ DateColumn utilisateur.dateNaiss ∧
    Varchar 255 utilisateur.adressePostale ∧
    (-2 ^ 31 ≤ utilisateur.numTel ∧ utilisateur.numTel < 2 ^ 31) ∧
    ∀ photo ∈ utilisateur.photo, Varchar 255 photo

instance (livre : Livre) : Decidable livre.Fits :=
  inferInstanceAs (Decidable (_ ∧ _))

instance (auteur : Auteur) : Decidable auteur.Fits :=
  inferInstanceAs (Decidable (_ ∧ _))

instance (categorie : Categorie) : Decidable categorie.Fits :=
  inferInstanceAs (Decidable (_ ∧ _))

instance (emprunt : Emprunt) : Decidable emprunt.Fits :=
  inferInstanceAs (Decidable (_ ∧ _))

instance (reservation : Reservations) : Decidable reservation.Fits :=
  inferInstanceAs (Decidable (DateColumn _))

instance (utilisateur : Utilisateur) : Decidable utilisateur.Fits :=
  inferInstanceAs (Decidable (_ ∧ _))

/-! ### What the columns make of a row

The other columns take a value as it is or refuse it. -/

def Livre.store (livre : Livre) : Livre :=
  { livre with
    titre := Varchar.store 255 livre.titre
    langue := Varchar.store 255 livre.langue
    photoCouverture := livre.photoCouverture.map (Varchar.store 255) }

def Auteur.store (auteur : Auteur) : Auteur :=
  { auteur with
    nom := Varchar.store 255 auteur.nom
    prenom := Varchar.store 255 auteur.prenom
    nationalite := Varchar.store 255 auteur.nationalite
    photo := auteur.photo.map (Varchar.store 255)
    description := Varchar.store 255 auteur.description }

def Categorie.store (categorie : Categorie) : Categorie where
  nom := Varchar.store 255 categorie.nom
  description := Varchar.store 255 categorie.description

def Utilisateur.store (utilisateur : Utilisateur) : Utilisateur :=
  { utilisateur with
    email := Varchar.store 180 utilisateur.email
    password := Varchar.store 255 utilisateur.password
    nom := Varchar.store 255 utilisateur.nom
    prenom := Varchar.store 255 utilisateur.prenom
    adressePostale := Varchar.store 255 utilisateur.adressePostale
    photo := utilisateur.photo.map (Varchar.store 255) }

theorem Varchar.map_store_store (size : ℕ) (text : Option String) :
    (text.map (store size)).map (store size) = text.map (store size) := by
  cases text with
  | none => rfl
  | some text => exact congrArg some (store_store size text)

theorem Varchar.map_store_eq_self {size : ℕ} {text : Option String}
    (hfits : ∀ given ∈ text, Varchar size given) : text.map (store size) = text := by
  cases text with
  | none => rfl
  | some given => exact congrArg some (store_eq_self (hfits given rfl))

/-- A row that fits is stored as it is. -/
theorem Livre.Fits.store_eq {livre : Livre} (hfits : livre.Fits) : livre.store = livre := by
  obtain ⟨htitre, -, hlangue, hphoto⟩ := hfits
  simp only [Livre.store, Varchar.store_eq_self htitre, Varchar.store_eq_self hlangue,
    Varchar.map_store_eq_self hphoto]

theorem Auteur.Fits.store_eq {auteur : Auteur} (hfits : auteur.Fits) :
    auteur.store = auteur := by
  obtain ⟨hnom, hprenom, -, -, hnationalite, hphoto, hdescription⟩ := hfits
  simp only [Auteur.store, Varchar.store_eq_self hnom, Varchar.store_eq_self hprenom,
    Varchar.store_eq_self hnationalite, Varchar.map_store_eq_self hphoto,
    Varchar.store_eq_self hdescription]

theorem Categorie.Fits.store_eq {categorie : Categorie} (hfits : categorie.Fits) :
    categorie.store = categorie := by
  obtain ⟨hnom, hdescription⟩ := hfits
  simp only [Categorie.store, Varchar.store_eq_self hnom, Varchar.store_eq_self hdescription]

theorem Utilisateur.Fits.store_eq {utilisateur : Utilisateur} (hfits : utilisateur.Fits) :
    utilisateur.store = utilisateur := by
  obtain ⟨hemail, hpassword, -, hnom, hprenom, -, hadresse, -, hphoto⟩ := hfits
  simp only [Utilisateur.store, Varchar.store_eq_self hemail, Varchar.store_eq_self hpassword,
    Varchar.store_eq_self hnom, Varchar.store_eq_self hprenom,
    Varchar.store_eq_self hadresse, Varchar.map_store_eq_self hphoto]

theorem Livre.Fits.store {livre : Livre} (hfits : livre.Fits) : livre.store.Fits := by
  rwa [hfits.store_eq]

/-- The columns of a book take all texts without excess but spaces. -/
theorem Livre.fits_store_iff {livre : Livre} :
    livre.store.Fits ↔ Varchar.Takes 255 livre.titre ∧ DateColumn livre.dateSortie ∧
      Varchar.Takes 255 livre.langue ∧
        ∀ photo ∈ livre.photoCouverture, Varchar.Takes 255 photo := by
  have hphoto : (∀ photo ∈ livre.photoCouverture.map (Varchar.store 255), Varchar 255 photo) ↔
      ∀ photo ∈ livre.photoCouverture, Varchar.Takes 255 photo := by
    cases livre.photoCouverture with
    | none => simp
    | some photo => simpa using Varchar.store_iff
  exact and_congr Varchar.store_iff (and_congr Iff.rfl (and_congr Varchar.store_iff hphoto))

theorem Auteur.Fits.store {auteur : Auteur} (hfits : auteur.Fits) : auteur.store.Fits := by
  rwa [hfits.store_eq]

theorem Categorie.Fits.store {categorie : Categorie} (hfits : categorie.Fits) :
    categorie.store.Fits := by
  rwa [hfits.store_eq]

theorem Utilisateur.Fits.store {utilisateur : Utilisateur} (hfits : utilisateur.Fits) :
    utilisateur.store.Fits := by
  rwa [hfits.store_eq]

/-! ## Rows and foreign keys -/

/-- A row of some table, by its primary key. -/
inductive Ligne where
  | livre (id : ℕ)
  | auteur (id : ℕ)
  | categorie (id : ℕ)
  | emprunt (id : ℕ)
  | reservations (id : ℕ)
  | utilisateur (id : ℕ)
  | livreAuteur (livre auteur : ℕ)
  deriving DecidableEq

namespace Tables

def empty : Tables where
  livre := .empty
  auteur := .empty
  categorie := .empty
  emprunt := .empty
  reservations := .empty
  utilisateur := .empty
  livreAuteur := []

/-- All rows of the database. -/
def lignes (tables : Tables) : List Ligne :=
  tables.livre.ids.map .livre ++ tables.auteur.ids.map .auteur ++
    tables.categorie.ids.map .categorie ++ tables.emprunt.ids.map .emprunt ++
    tables.reservations.ids.map .reservations ++
    tables.utilisateur.ids.map .utilisateur ++
    tables.livreAuteur.map fun link => .livreAuteur link.1 link.2

/-- The rows a row points to through its foreign key columns. -/
def targets (tables : Tables) : Ligne → List Ligne
  | .livre id =>
      (tables.livre.find id).toList.map fun livre => .categorie livre.categorie
  | .emprunt id =>
      (tables.emprunt.find id).toList.flatMap fun emprunt =>
        [.utilisateur emprunt.emprunteur, .livre emprunt.livre]
  | .reservations id =>
      (tables.reservations.find id).toList.flatMap fun reservation =>
        [.livre reservation.livre, .utilisateur reservation.reservateur]
  | .livreAuteur livre auteur => [.livre livre, .auteur auteur]
  | .auteur _ | .categorie _ | .utilisateur _ => []

/-- `source` holds a foreign key to `target`. -/
def References (tables : Tables) (source target : Ligne) : Prop :=
  source ∈ tables.lignes ∧ target ∈ tables.targets source

/-- A chain of foreign keys leads from `source` to `target`. -/
def DependsOn (tables : Tables) : Ligne → Ligne → Prop :=
  Relation.TransGen tables.References

/-- The rows as the columns take them. -/
def store (tables : Tables) : Tables :=
  { tables with
    livre := tables.livre.map Livre.store
    auteur := tables.auteur.map Auteur.store
    categorie := tables.categorie.map Categorie.store
    utilisateur := tables.utilisateur.map Utilisateur.store }

/-- The constraints of the schema. -/
structure Valid (tables : Tables) : Prop where
  livre_fits : ∀ row ∈ tables.livre.rows, row.2.Fits
  auteur_fits : ∀ row ∈ tables.auteur.rows, row.2.Fits
  categorie_fits : ∀ row ∈ tables.categorie.rows, row.2.Fits
  emprunt_fits : ∀ row ∈ tables.emprunt.rows, row.2.Fits
  reservations_fits : ∀ row ∈ tables.reservations.rows, row.2.Fits
  utilisateur_fits : ∀ row ∈ tables.utilisateur.rows, row.2.Fits
  livre_categorie : ∀ row ∈ tables.livre.rows,
    row.2.categorie ∈ tables.categorie.ids
  emprunt_emprunteur : ∀ row ∈ tables.emprunt.rows,
    row.2.emprunteur ∈ tables.utilisateur.ids
  emprunt_livre : ∀ row ∈ tables.emprunt.rows, row.2.livre ∈ tables.livre.ids
  reservations_livre : ∀ row ∈ tables.reservations.rows,
    row.2.livre ∈ tables.livre.ids
  reservations_reservateur : ∀ row ∈ tables.reservations.rows,
    row.2.reservateur ∈ tables.utilisateur.ids
  livreAuteur_livre : ∀ link ∈ tables.livreAuteur, link.1 ∈ tables.livre.ids
  livreAuteur_auteur : ∀ link ∈ tables.livreAuteur, link.2 ∈ tables.auteur.ids
  /-- The primary key of `livre_auteur`. -/
  livreAuteur_nodup : tables.livreAuteur.Nodup
  /-- `UNIQ_4DA23937D925CB`. -/
  livre_unique : (tables.reservations.rows.map (·.2.livre)).Nodup
  /-- `UNIQ_4DA239FF6F3098`. -/
  reservateur_unique : (tables.reservations.rows.map (·.2.reservateur)).Nodup
  /-- `UNIQ_1D1C63B3E7927C74`.  The collation `utf8mb4_unicode_ci` of the column
  also refuses two emails that differ only in case, accents or trailing spaces. -/
  email_unique : (tables.utilisateur.rows.map (·.2.email)).Nodup

instance (tables : Tables) : Decidable tables.Valid :=
  decidable_of_iff
    ((((∀ row ∈ tables.livre.rows, row.2.Fits) ∧
        (∀ row ∈ tables.auteur.rows, row.2.Fits) ∧
        (∀ row ∈ tables.categorie.rows, row.2.Fits) ∧
        (∀ row ∈ tables.emprunt.rows, row.2.Fits) ∧
        (∀ row ∈ tables.reservations.rows, row.2.Fits) ∧
        (∀ row ∈ tables.utilisateur.rows, row.2.Fits)) ∧
      ((∀ row ∈ tables.livre.rows, row.2.categorie ∈ tables.categorie.ids) ∧
        (∀ row ∈ tables.emprunt.rows,
          row.2.emprunteur ∈ tables.utilisateur.ids) ∧
        (∀ row ∈ tables.emprunt.rows, row.2.livre ∈ tables.livre.ids) ∧
        (∀ row ∈ tables.reservations.rows, row.2.livre ∈ tables.livre.ids) ∧
        (∀ row ∈ tables.reservations.rows,
          row.2.reservateur ∈ tables.utilisateur.ids) ∧
        (∀ link ∈ tables.livreAuteur, link.1 ∈ tables.livre.ids) ∧
        (∀ link ∈ tables.livreAuteur, link.2 ∈ tables.auteur.ids))) ∧
      (tables.livreAuteur.Nodup ∧
        (tables.reservations.rows.map (·.2.livre)).Nodup ∧
        (tables.reservations.rows.map (·.2.reservateur)).Nodup ∧
        (tables.utilisateur.rows.map (·.2.email)).Nodup))
    ⟨fun ⟨⟨⟨f1, f2, f3, f4, f5, f6⟩, r1, r2, r3, r4, r5, r6, r7⟩, u1, u2, u3, u4⟩ =>
      ⟨f1, f2, f3, f4, f5, f6, r1, r2, r3, r4, r5, r6, r7, u1, u2, u3, u4⟩,
      fun ⟨f1, f2, f3, f4, f5, f6, r1, r2, r3, r4, r5, r6, r7, u1, u2, u3, u4⟩ =>
      ⟨⟨⟨f1, f2, f3, f4, f5, f6⟩, r1, r2, r3, r4, r5, r6, r7⟩, u1, u2, u3, u4⟩⟩

@[simp]
theorem mem_lignes_livre (tables : Tables) (id : ℕ) :
    Ligne.livre id ∈ tables.lignes ↔ id ∈ tables.livre.ids := by
  simp [lignes]

@[simp]
theorem mem_lignes_auteur (tables : Tables) (id : ℕ) :
    Ligne.auteur id ∈ tables.lignes ↔ id ∈ tables.auteur.ids := by
  simp [lignes]

@[simp]
theorem mem_lignes_categorie (tables : Tables) (id : ℕ) :
    Ligne.categorie id ∈ tables.lignes ↔ id ∈ tables.categorie.ids := by
  simp [lignes]

@[simp]
theorem mem_lignes_emprunt (tables : Tables) (id : ℕ) :
    Ligne.emprunt id ∈ tables.lignes ↔ id ∈ tables.emprunt.ids := by
  simp [lignes]

@[simp]
theorem mem_lignes_reservations (tables : Tables) (id : ℕ) :
    Ligne.reservations id ∈ tables.lignes ↔ id ∈ tables.reservations.ids := by
  simp [lignes]

@[simp]
theorem mem_lignes_utilisateur (tables : Tables) (id : ℕ) :
    Ligne.utilisateur id ∈ tables.lignes ↔ id ∈ tables.utilisateur.ids := by
  simp [lignes]

@[simp]
theorem mem_lignes_livreAuteur (tables : Tables) (livre auteur : ℕ) :
    Ligne.livreAuteur livre auteur ∈ tables.lignes ↔
      (livre, auteur) ∈ tables.livreAuteur := by
  simp [lignes]

/-- A valid content is stored as it is. -/
theorem Valid.store_eq {tables : Tables} (hvalid : tables.Valid) : tables.store = tables := by
  simp only [store,
    Table.map_eq_self fun row hrow => (hvalid.livre_fits row hrow).store_eq,
    Table.map_eq_self fun row hrow => (hvalid.auteur_fits row hrow).store_eq,
    Table.map_eq_self fun row hrow => (hvalid.categorie_fits row hrow).store_eq,
    Table.map_eq_self fun row hrow => (hvalid.utilisateur_fits row hrow).store_eq]

/-- The foreign keys of a valid content lead to existing rows. -/
theorem Valid.target_mem {tables : Tables} (hvalid : tables.Valid)
    {source target : Ligne} (hreference : tables.References source target) :
    target ∈ tables.lignes := by
  obtain ⟨hsource, htarget⟩ := hreference
  cases source with
  | livre id =>
      simp only [targets, List.mem_map, Option.mem_toList] at htarget
      obtain ⟨livre, hfind, rfl⟩ := htarget
      have hrow := (Table.find_eq_some_iff _ _ _).mp hfind
      simpa using hvalid.livre_categorie _ hrow
  | emprunt id =>
      simp only [targets, List.mem_flatMap, Option.mem_toList] at htarget
      obtain ⟨emprunt, hfind, htarget⟩ := htarget
      have hrow := (Table.find_eq_some_iff _ _ _).mp hfind
      simp only [List.mem_cons, List.not_mem_nil, or_false] at htarget
      rcases htarget with rfl | rfl
      · simpa using hvalid.emprunt_emprunteur _ hrow
      · simpa using hvalid.emprunt_livre _ hrow
  | reservations id =>
      simp only [targets, List.mem_flatMap, Option.mem_toList] at htarget
      obtain ⟨reservation, hfind, htarget⟩ := htarget
      have hrow := (Table.find_eq_some_iff _ _ _).mp hfind
      simp only [List.mem_cons, List.not_mem_nil, or_false] at htarget
      rcases htarget with rfl | rfl
      · simpa using hvalid.reservations_livre _ hrow
      · simpa using hvalid.reservations_reservateur _ hrow
  | livreAuteur livre auteur =>
      have hlink := (mem_lignes_livreAuteur tables livre auteur).mp hsource
      simp only [targets, List.mem_cons, List.not_mem_nil, or_false] at htarget
      rcases htarget with rfl | rfl
      · simpa using hvalid.livreAuteur_livre _ hlink
      · simpa using hvalid.livreAuteur_auteur _ hlink
  | auteur id => simp [targets] at htarget
  | categorie id => simp [targets] at htarget
  | utilisateur id => simp [targets] at htarget

end Tables

/-- A committed database state. -/
structure Base extends Tables where
  valid : toTables.Valid

namespace Base

def empty : Base where
  toTables := Tables.empty
  valid := by
    constructor <;> simp [Tables.empty]

end Base

end Bibliotheque
