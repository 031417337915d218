import Bibliotheque.Store.Session

/-!
# Writers of the user table

The create, update and delete methods of `AdherentController`, the admin forms
of `UtilisateurCrudController` and `UtilisateurRepository::upgradePassword`.
`Adherent` is read as `Utilisateur` and `AdherentRepository` as its repository.
-/

namespace Bibliotheque

open Bibliotheque.Action

namespace AdherentController

/-- A date key of the body: parsed with `format`, and the result given to the
`DateTime` constructor once more. -/
def readDate (runtime : Runtime) (format : List DateTime.Format)
    (value : Value) : Action Date := do
  let date ← php (Runtime.createFromFormat format value)
  php (runtime.reparse date)

def update (runtime : Runtime) (id : ℕ) (data : Value) : Action Response := do
  let some adherent ← find runtime Tables.utilisateur (.int id)
    | answer 404 [("message", .str "Adherent not found")]
  ifSet (data.field "dateAdhesion") fun dateAdhesion => do
    let dateAdhesion ← readDate runtime DateTime.dmY dateAdhesion
    setUtilisateur adherent ({ · with dateAdhesion := dateAdhesion })
  ifSet (data.field "nom") fun nom => do
    let nom ← php nom.toString
    setUtilisateur adherent ({ · with nom := nom })
  ifSet (data.field "prenom") fun prenom => do
    let prenom ← php prenom.toString
    setUtilisateur adherent ({ · with prenom := prenom })
  ifSet (data.field "dateNaiss") fun dateNaiss => do
    let dateNaiss ← readDate runtime DateTime.dmy dateNaiss
    setUtilisateur adherent ({ · with dateNaiss := dateNaiss })
  ifSet (data.field "email") fun email => do
    let email ← php email.toString
    setUtilisateur adherent ({ · with email := email })
  ifSet (data.field "adressePostale") fun adressePostale => do
    let adressePostale ← php adressePostale.toString
    setUtilisateur adherent ({ · with adressePostale := adressePostale })
  ifSet (data.field "numTel") fun numTel => do
    let numTel ← php (runtime.toInt numTel)
    setUtilisateur adherent ({ · with numTel := numTel })
  ifSet (data.field "photo") fun photo => do
    let photo ← php photo.toString
    setUtilisateur adherent ({ · with photo := some photo })
  ifSet (data.field "roles") fun roles => do
    let roles ← php roles.toArray
    setUtilisateur adherent ({ · with roles := roles })
  ifSet (data.field "password") fun password => do
    let password ← php password.toString
    setUtilisateur adherent ({ · with password := password })
  flush
  return ⟨200, .object [("message", .str "Adherent updated")]⟩

/-- A setter of `create` that only runs when the key is present. -/
def whenSet {Out : Type} (value : Option Value) (read : Value → Action Out) :
    Action (Option Out) :=
  match value with
  | some value => do return some (← read value)
  | none => pure none

/-- `salt` is the randomness `password_hash` draws. -/
def create (runtime : Runtime) (salt : ℕ) (data : Value) : Action Response := do
  let dateAdhesion ← whenSet (data.field "dateAdhesion")
    (readDate runtime DateTime.dmY)
  let nom ← whenSet (data.field "nom") fun nom => php nom.toString
  let prenom ← whenSet (data.field "prenom") fun prenom => php prenom.toString
  let dateNaiss ← whenSet (data.field "dateNaiss") (readDate runtime DateTime.dmy)
  let email ← whenSet (data.field "email") fun email => php email.toString
  let adressePostale ← whenSet (data.field "adressePostale")
    fun adressePostale => php adressePostale.toString
  let numTel ← whenSet (data.field "numTel") fun numTel => php (runtime.toInt numTel)
  let photo ← whenSet (data.field "photo") fun photo => php photo.toString
  let roles ← whenSet (data.field "roles") fun roles => php roles.toArray
  let password ← whenSet (data.field "password") fun password => do
    let password ← php password.toString
    php (runtime.password_hash salt password)
  persist (.utilisateur {
    email := email
    roles := roles.getD []
    password := password
    dateAdhesion := dateAdhesion
    nom := nom
    prenom := prenom
    dateNaiss := dateNaiss
    adressePostale := adressePostale
    numTel := numTel
    photo := photo })
  flush
  return ⟨201, .object [("message", .str "Adherent created"), ("id", ← insertedId)]⟩

def delete (runtime : Runtime) (id : ℕ) : Action Response := do
  let some adherent ← find runtime Tables.utilisateur (.int id)
    | answer 404 [("message", .str "Adherent not found")]
  remove (.utilisateur adherent)
  flush
  return ⟨200, .object [("message", .str "Adherent deleted")]⟩

end AdherentController

namespace UtilisateurCrudController

/-- A submitted admin form: the mapped fields as the form types convert them,
the two password inputs, and whether the other fields pass validation. -/
structure Form where
  dateAdhesion : Option Date
  nom : Option String
  prenom : Option String
  dateNaiss : Option Date
  email : Option String
  adressePostale : Option String
  numTel : Option ℤ
  photo : Option String
  roles : List (Key × Value)
  first : String
  second : String
  fieldsValid : Bool

/-- `RepeatedType` accepts two equal inputs. -/
def Form.isValid (form : Form) : Bool :=
  form.fieldsValid && form.first == form.second

/-- `$form->get('password')->getData()`: two blank inputs are null. -/
def Form.password (form : Form) : Option String :=
  if form.first = "" then none else some form.first

/-- The listener added by `addPasswordEventListener`: the hash to store, or
null when nothing is to be set. -/
def hashPassword (runtime : Runtime) (salt : ℕ) (form : Form) :
    Action (Option String) :=
  if !form.isValid then pure none
  else
    match form.password with
    | none => pure none
    | some password => do return some (← php (runtime.password_hash salt password))

def createNew (runtime : Runtime) (salt : ℕ) (form : Form) : Action Response := do
  let hash ← hashPassword runtime salt form
  -- the page of the form again, with its errors
  answerIf (!form.isValid) 422 []
  persist (.utilisateur {
    email := form.email
    roles := form.roles
    password := hash
    dateAdhesion := form.dateAdhesion
    nom := form.nom
    prenom := form.prenom
    dateNaiss := form.dateNaiss
    adressePostale := form.adressePostale
    numTel := form.numTel
    photo := form.photo })
  flush
  return ⟨302, .null⟩

/-- A blank required field of the edit form reaches the non-nullable parameter
of its setter as null. -/
def required {Out : Type} : Option Out → Action Out
  | some value => pure value
  | none => throw (.thrown (.typeError "setter"))

def edit (runtime : Runtime) (salt : ℕ) (id : ℕ) (form : Form) :
    Action Response := do
  let some utilisateur ← find runtime Tables.utilisateur (.int id)
    | answer 404 []
  let dateAdhesion ← required form.dateAdhesion
  let nom ← required form.nom
  let prenom ← required form.prenom
  let dateNaiss ← required form.dateNaiss
  let email ← required form.email
  let adressePostale ← required form.adressePostale
  let numTel ← required form.numTel
  setUtilisateur utilisateur ({ · with
    dateAdhesion := dateAdhesion
    nom := nom
    prenom := prenom
    dateNaiss := dateNaiss
    email := email
    adressePostale := adressePostale
    numTel := numTel
    photo := form.photo
    roles := form.roles })
  let hash ← hashPassword runtime salt form
  -- the page of the form again, with its errors
  answerIf (!form.isValid) 422 []
  ifSet hash fun hash => setUtilisateur utilisateur ({ · with password := hash })
  flush
  return ⟨302, .null⟩

end UtilisateurCrudController

namespace UtilisateurRepository

/-- `upgradePassword` of a managed user. -/
def upgradePassword (id : ℕ) (newHashedPassword : String) : Action Response := do
  setUtilisateur id ({ · with password := newHashedPassword })
  flush
  return ⟨200, .null⟩

end UtilisateurRepository

end Bibliotheque
