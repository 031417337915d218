import Bibliotheque.Php.DateTime

/-!
# PHP values, coercions and the runtime of a request

The body of a request is whatever `json_decode` returns for it, so a handler
must be followed on every PHP value and not only on well-formed objects.  This
module has the values, the truth test, the reads `$data['key'] ?? null` and
`isset($data['key'])`, and the conversions a scalar parameter performs.
-/

namespace Bibliotheque

/-- The errors and exceptions a handler can end with. -/
inductive Throwable where
  | typeError (function : String)
  | valueError (function : String)
  | error (message : String)
  | warning (message : String)
  | exception (message : String)
  | missingIdentifier
  | integrityViolation
  | foreignKeyViolation
  deriving DecidableEq

/-- A float, as far as the handlers can observe it: its string conversion, its
conversion to an integer when there is one, and whether it is zero. -/
structure PhpFloat where
  text : String
  integer : Option ℤ
  zero : Bool
  text_ne_empty : text ≠ ""
  deriving DecidableEq

inductive Key where
  | int (value : ℤ)
  | str (value : String)
  deriving DecidableEq

/-- A decoded JSON value.  Lists and objects both become PHP arrays. -/
inductive Value where
  | null
  | bool (value : Bool)
  | int (value : ℤ)
  | float (value : PhpFloat)
  | str (value : String)
  | arr (entries : List (Key × Value))

namespace Value

mutual

def decEq : (left right : Value) → Decidable (left = right)
  | .null, .null => .isTrue rfl
  | .bool left, .bool right => decidable_of_iff (left = right) (by simp)
  | .int left, .int right => decidable_of_iff (left = right) (by simp)
  | .float left, .float right => decidable_of_iff (left = right) (by simp)
  | .str left, .str right => decidable_of_iff (left = right) (by simp)
  | .arr left, .arr right =>
      have := decEqEntries left right
      decidable_of_iff (left = right) (by simp)
  | .null, .bool _ | .null, .int _ | .null, .float _ | .null, .str _
  | .null, .arr _ => .isFalse (by simp)
  | .bool _, .null | .bool _, .int _ | .bool _, .float _ | .bool _, .str _
  | .bool _, .arr _ => .isFalse (by simp)
  | .int _, .null | .int _, .bool _ | .int _, .float _ | .int _, .str _
  | .int _, .arr _ => .isFalse (by simp)
  | .float _, .null | .float _, .bool _ | .float _, .int _ | .float _, .str _
  | .float _, .arr _ => .isFalse (by simp)
  | .str _, .null | .str _, .bool _ | .str _, .int _ | .str _, .float _
  | .str _, .arr _ => .isFalse (by simp)
  | .arr _, .null | .arr _, .bool _ | .arr _, .int _ | .arr _, .float _
  | .arr _, .str _ => .isFalse (by simp)

def decEqEntries : (left right : List (Key × Value)) → Decidable (left = right)
  | [], [] => .isTrue rfl
  | [], _ :: _ => .isFalse (by simp)
  | _ :: _, [] => .isFalse (by simp)
  | (leftKey, left) :: leftRest, (rightKey, right) :: rightRest =>
      have := decEq left right
      have := decEqEntries leftRest rightRest
      decidable_of_iff ((leftKey = rightKey ∧ left = right) ∧
        leftRest = rightRest) (by simp)

end

instance : DecidableEq Value := decEq

/-- The array a JSON list decodes to. -/
def list (values : List Value) : Value :=
  .arr (values.zipIdx.map fun item => (.int item.2, item.1))

/-- The array a JSON object decodes to. -/
def object (fields : List (String × Value)) : Value :=
  .arr (fields.map fun field => (.str field.1, field.2))

/-- `$data[$name] ?? null`, with `none` for `null`.  It is also the value
`isset($data[$name])` tests for.  A body that is not an array has no key. -/
def field (data : Value) (name : String) : Option Value :=
  match data with
  | .arr entries =>
      match entries.lookup (.str name) with
      | some .null => none
      | found => found
  | _ => none

/-- The truth value of a condition. -/
def truthy : Value → Bool
  | .null => false
  | .bool value => value
  | .int value => value != 0
  | .float value => !value.zero
  | .str value => value != "" && value != "0"
  | .arr entries => !entries.isEmpty

/-- `!$value` on the result of a `?? null` read. -/
def missing (value : Option Value) : Bool :=
  !(value.any truthy)

/-- What `foreach` iterates over, or `none` when it only warns. -/
def elements : Value → Option (List Value)
  | .arr entries => some (entries.map Prod.snd)
  | _ => none

/-- A parameter declared `string`, in coercive typing mode. -/
def toString : Value → Except Throwable String
  | .null => .error (.typeError "string")
  | .bool value => .ok (if value then "1" else "")
  | .int value => .ok (ToString.toString value)
  | .float value => .ok value.text
  | .str value => .ok value
  | .arr _ => .error (.typeError "string")

/-- A parameter declared `?string`. -/
def toNullableString : Option Value → Except Throwable (Option String)
  | none => .ok none
  | some value => (toString value).map some

/-- A parameter declared `array`. -/
def toArray : Value → Except Throwable (List (Key × Value))
  | .arr entries => .ok entries
  | _ => .error (.typeError "array")

@[simp]
theorem elements_list (items : List Value) :
    (list items).elements = some items := by
  simp only [list, elements, List.map_map, Option.some.injEq]
  exact List.zipIdx_map_fst 0 items

/-- A true value never becomes an empty string. -/
theorem toString_ne_empty {value : Value} {text : String}
    (htruthy : value.truthy = true) (htext : value.toString = .ok text) :
    text ≠ "" := by
  cases value with
  | null => simp [truthy] at htruthy
  | bool value =>
      simp only [truthy] at htruthy
      simp only [toString, htruthy, if_true, Except.ok.injEq] at htext
      subst htext
      decide
  | int value =>
      simp only [toString, Except.ok.injEq] at htext
      subst htext
      intro hempty
      have hlength := congrArg String.length hempty
      cases value with
      | ofNat value =>
          simp [ToString.toString, Int.repr] at hlength
      | negSucc value =>
          simp [ToString.toString, Int.repr] at hlength
  | float value =>
      simp only [toString, Except.ok.injEq] at htext
      subst htext
      exact value.text_ne_empty
  | str value =>
      simp only [toString, Except.ok.injEq] at htext
      subst htext
      simp only [truthy, Bool.and_eq_true, bne_iff_ne] at htruthy
      exact htruthy.1
  | arr entries => simp [toString] at htext

end Value

/-! ## The runtime -/

/-- What a request observes of the machine it runs on. -/
structure Runtime where
  /-- `kernel.debug`: a PHP warning is raised as an exception. -/
  debug : Bool
  today : Date
  /-- The grammar of `new DateTime` beyond the shapes of `DateTime.construct`. -/
  strtotime : String → Option Date
  /-- How the driver reads an identifier that is neither an integer nor made of
  decimal digits; `none` designates no row. -/
  identifier : Value → Except Throwable (Option ℕ)
  /-- The integer a numeric string denotes for a parameter declared `int`. -/
  numeric : String → Option ℤ
  /-- `password_hash` and the password hasher of the admin forms, with the
  random salt each call draws. -/
  password_hash : ℕ → String → Except Throwable String
  /-- A hash has at most the 255 characters that PHP recommends a column for. -/
  length_password_hash : ∀ salt password hash,
    password_hash salt password = .ok hash → hash.length ≤ 255

namespace Runtime

/-- A parameter declared `int`. -/
def toInt (runtime : Runtime) : Value → Except Throwable ℤ
  | .null => .error (.typeError "int")
  | .bool value => .ok (if value then 1 else 0)
  | .int value => .ok value
  | .float value =>
      match value.integer with
      | some integer => .ok integer
      | none => .error (.typeError "int")
  | .str value =>
      match runtime.numeric value with
      | some integer => .ok integer
      | none => .error (.typeError "int")
  | .arr _ => .error (.typeError "int")

/-- The row number an argument of `find` designates. -/
def rowId (runtime : Runtime) : Value → Except Throwable (Option ℕ)
  | .null => .error .missingIdentifier
  | .int (.ofNat value) => .ok (some value)
  | .int (.negSucc _) => .ok none
  | .str value =>
      if value ≠ "" ∧ value.toList.all Date.isDigit then
        .ok (some (Date.number value.toList))
      else runtime.identifier (.str value)
  | value => runtime.identifier value

@[simp]
theorem rowId_int (runtime : Runtime) (id : ℕ) :
    runtime.rowId (.int id) = .ok (some id) := rfl

/-- `new \DateTime($value)`. -/
def newDateTime (runtime : Runtime) (value : Value) : Except Throwable Date := do
  let text ← value.toString
  match DateTime.construct runtime.today runtime.strtotime text with
  | some date => .ok date
  | none => .error (.exception "Failed to parse time string")

/-- `\DateTime::createFromFormat($format, $value)`; `none` is `false`. -/
def createFromFormat (format : List DateTime.Format) (value : Value) :
    Except Throwable (Option Date) := do
  let text ← value.toString
  if text.toList.contains '\x00' then .error (.valueError "createFromFormat")
  else .ok (DateTime.createFromFormat format text)

/-- `new \DateTime($date)` where `$date` is the result of `createFromFormat`:
an object is no string, and `false` becomes the empty string. -/
def reparse (runtime : Runtime) : Option Date → Except Throwable Date
  | some _ => .error (.typeError "DateTime::__construct")
  | none => runtime.newDateTime (.bool false)

/-- What `createFromFormat` answers on a text. -/
theorem createFromFormat_str_eq_ok_iff {format : List DateTime.Format} {texte : String}
    {read : Option Date} :
    createFromFormat format (.str texte) = .ok read ↔
      '\x00' ∉ texte.toList ∧ DateTime.createFromFormat format texte = read := by
  have hunfold : createFromFormat format (.str texte) =
      if texte.toList.contains '\x00' then .error (.valueError "createFromFormat")
      else .ok (DateTime.createFromFormat format texte) := rfl
  rw [hunfold, List.contains_eq_mem]
  by_cases hzero : '\x00' ∈ texte.toList
  · simp [hzero]
  · simp [hzero]

/-! ## Written dates -/

theorem zero_ne_digit (value : ℕ) : '\x00' ≠ Date.digit value := by
  intro hzero
  have hisDigit := Date.isDigit_digit value
  rw [← hzero] at hisDigit
  exact absurd hisDigit (by decide)

theorem createFromFormat_write {format : List DateTime.Format} (date : Date) :
    createFromFormat format (.str date.write) =
      .ok (DateTime.createFromFormat format date.write) := by
  refine createFromFormat_str_eq_ok_iff.mpr ⟨?_, rfl⟩
  simp [Date.chars, zero_ne_digit]

theorem createFromFormat_dmY_write {date : Date} (hyear : date.FourDigitYear) :
    createFromFormat DateTime.dmY (.str date.write) = .ok (some date) := by
  rw [createFromFormat_write, DateTime.createFromFormat_dmY_write date hyear]

theorem createFromFormat_dmy_write (date : Date) :
    createFromFormat DateTime.dmy (.str date.write) = .ok none := by
  rw [createFromFormat_write, DateTime.createFromFormat_dmy_write]

/-- `new \DateTime` given a written date. -/
theorem newDateTime_write_of_le (runtime : Runtime) {date : Date}
    (hyear : date.FourDigitYear) (hday : date.day ≤ 12) :
    runtime.newDateTime (.str date.write) = .ok (DateTime.swapped date hday) := by
  have hread := DateTime.construct_write_swapped runtime.today runtime.strtotime date
    hyear hday
  simp [newDateTime, Value.toString, bind, Except.bind, hread]

theorem newDateTime_write_of_lt (runtime : Runtime) {date : Date}
    (hyear : date.FourDigitYear) (hday : 12 < date.day) :
    runtime.newDateTime (.str date.write) =
      .error (.exception "Failed to parse time string") := by
  have hread := DateTime.construct_write runtime.today runtime.strtotime date hyear
  simp [newDateTime, Value.toString, bind, Except.bind, hread,
    not_le.mpr hday]

end Runtime

/-- A written date is true in a condition. -/
theorem Value.truthy_write (date : Date) : (Value.str date.write).truthy = true := by
  have hlength : ∀ text : String, text.toList.length ≠ 10 → date.write ≠ text := by
    intro text hlength heq
    apply hlength
    rw [← heq]
    simp [Date.chars]
  simp [Value.truthy, hlength "" (by decide), hlength "0" (by decide)]

end Bibliotheque
