import Mathlib.Data.Int.Basic
import Mathlib.Tactic

/-!
# Calendar dates and the two date readers of PHP

Every date column of the schema is a `DATE`, so a PHP date object is modelled
by its calendar day.  The controllers read dates in two ways.
`DateTime::createFromFormat` follows a format character by character, answers
`false` on a mismatch and rolls an impossible day or month over into a later
date.  The constructor `new DateTime` reads slash dates month first and the
empty string as the current day.
-/

namespace Bibliotheque

def isLeapYear (year : ℤ) : Bool :=
  year % 4 == 0 && (year % 100 != 0 || year % 400 == 0)

def daysInMonth (year : ℤ) : ℕ → ℕ
  | 2 => if isLeapYear year then 29 else 28
  | 4 | 6 | 9 | 11 => 30
  | _ => 31

theorem le_daysInMonth (year : ℤ) (month : ℕ) : 28 ≤ daysInMonth year month := by
  unfold daysInMonth
  split
  · split <;> omega
  all_goals omega

theorem daysInMonth_le (year : ℤ) (month : ℕ) : daysInMonth year month ≤ 31 := by
  unfold daysInMonth
  split
  · split <;> omega
  all_goals omega

/-- A day of the proleptic Gregorian calendar. -/
structure Date where
  year : ℤ
  month : ℕ
  day : ℕ
  month_pos : 1 ≤ month
  month_le : month ≤ 12
  day_pos : 1 ≤ day
  day_le : day ≤ daysInMonth year month
  deriving DecidableEq

namespace Date

theorem day_lt (date : Date) : date.day < 100 := by
  have := date.day_le
  have := daysInMonth_le date.year date.month
  omega

/-- Carry the days past the end of a month into the following months.  Each
carry takes at least 28 days off, which bounds their number. -/
def carryDays : (steps : ℕ) → (year : ℤ) → (month day : ℕ) →
    1 ≤ month → month ≤ 12 → 1 ≤ day → day ≤ 28 * (steps + 1) → Date
  | 0, year, month, day, hpos, hle, hday, hbound =>
      ⟨year, month, day, hpos, hle, hday,
        (by omega : day ≤ 28).trans (le_daysInMonth year month)⟩
  | steps + 1, year, month, day, hpos, hle, hday, hbound =>
      if hfits : day ≤ daysInMonth year month then
        ⟨year, month, day, hpos, hle, hday, hfits⟩
      else
        have hshort := le_daysInMonth year month
        if hyear : month = 12 then
          carryDays steps (year + 1) 1 (day - daysInMonth year month)
            (by omega) (by omega) (by omega) (by omega)
        else
          carryDays steps year (month + 1) (day - daysInMonth year month)
            (by omega) (by omega) (by omega) (by omega)

/-- The last day of the month before the given one: what a day number `0`
denotes. -/
def endOfPrevious (year : ℤ) (month : ℕ) (hle : month ≤ 12) : Date :=
  if hfirst : month ≤ 1 then
    ⟨year - 1, 12, 31, by omega, by omega, by omega, by simp [daysInMonth]⟩
  else
    ⟨year, month - 1, daysInMonth year (month - 1), by omega, by omega,
      le_trans (by omega) (le_daysInMonth year (month - 1)), le_rfl⟩

/-- The day PHP understands by a year, a month number and a day number that
need not exist. -/
def rollover (year : ℤ) (month day : ℕ) : Date :=
  let index : ℤ := month - 1
  let carried := (index % 12).toNat + 1
  have hmonth : carried ≤ 12 := by omega
  if hday : day = 0 then
    endOfPrevious (year + index / 12) carried hmonth
  else
    carryDays day (year + index / 12) carried day (by omega) hmonth
      (by omega) (by omega)

/-- An existing day is read as itself. -/
theorem rollover_self (date : Date) :
    rollover date.year date.month date.day = date := by
  obtain ⟨year, month, day, hpos, hle, hday, hfits⟩ := date
  have hcarry : ((month : ℤ) - 1) / 12 = 0 := by omega
  have hmonth : (((month : ℤ) - 1) % 12).toNat + 1 = month := by omega
  obtain ⟨steps, rfl⟩ : ∃ steps, day = steps + 1 := ⟨day - 1, by omega⟩
  simp [rollover, hcarry, hmonth, carryDays, hfits]

/-- The year is written with exactly four digits. -/
def FourDigitYear (date : Date) : Prop :=
  1000 ≤ date.year ∧ date.year ≤ 9999

instance (date : Date) : Decidable date.FourDigitYear :=
  inferInstanceAs (Decidable (_ ∧ _))

/-! ## Decimal digits -/

def digit (value : ℕ) : Char :=
  Char.ofNat (48 + value % 10)

def digitValue (char : Char) : ℕ :=
  char.toNat - 48

def isDigit (char : Char) : Bool :=
  48 ≤ char.toNat && char.toNat ≤ 57

private theorem digit_table : ∀ value < 10,
    isDigit (digit value) = true ∧ digitValue (digit value) = value := by
  decide

theorem isDigit_digit (value : ℕ) : isDigit (digit value) = true := by
  have hmod : digit value = digit (value % 10) := by simp [digit]
  rw [hmod]
  exact (digit_table _ (Nat.mod_lt _ (by omega))).1

theorem digitValue_digit (value : ℕ) : digitValue (digit value) = value % 10 := by
  have hmod : digit value = digit (value % 10) := by simp [digit]
  rw [hmod]
  exact (digit_table _ (Nat.mod_lt _ (by omega))).2

def number (digits : List Char) : ℕ :=
  digits.foldl (fun value char => 10 * value + digitValue char) 0

/-- The date written `dd/mm/yyyy`. -/
def chars (date : Date) : List Char :=
  let year := date.year.toNat
  [digit (date.day / 10), digit date.day, '/',
    digit (date.month / 10), digit date.month, '/',
    digit (year / 1000), digit (year / 100), digit (year / 10), digit year]

def write (date : Date) : String :=
  String.ofList date.chars

@[simp]
theorem toList_write (date : Date) : date.write.toList = date.chars := by
  simp [write]

/-- 9 February 2024, the date of the sample rows. -/
def sample : Date := ⟨2024, 2, 9, by decide, by decide, by decide, by decide⟩

/-- 21 July 1969, another day. -/
def autreSample : Date := ⟨1969, 7, 21, by decide, by decide, by decide, by decide⟩

end Date

/-! ## `DateTime::createFromFormat` -/

namespace DateTime

open Date

/-- The format characters used by the controllers. -/
inductive Format where
  | d
  | m
  | Y
  | y
  | slash
  deriving DecidableEq

/-- `'d/m/Y'`. -/
def dmY : List Format := [.d, .slash, .m, .slash, .Y]

/-- `'d/m/y'`. -/
def dmy : List Format := [.d, .slash, .m, .slash, .y]

/-- What a format has read so far. -/
structure Parts where
  day : ℕ
  month : ℕ
  year : ℤ

/-- Read between one and `limit` digits. -/
def takeNumber (limit : ℕ) (input : List Char) : Option (ℕ × List Char) :=
  match (input.take limit).takeWhile isDigit with
  | [] => none
  | head :: tail =>
      some (number (head :: tail), input.drop (tail.length + 1))

/-- A two-digit year stands for a year between 1970 and 2069. -/
def expandYear (year : ℕ) : ℤ :=
  if year < 70 then 2000 + year else 1900 + year

def readChar (parts : Parts) (input : List Char) :
    Format → Option (Parts × List Char)
  | .d => do
      let (day, rest) ← takeNumber 2 input
      return ({ parts with day }, rest)
  | .m => do
      let (month, rest) ← takeNumber 2 input
      return ({ parts with month }, rest)
  | .Y => do
      let (year, rest) ← takeNumber 4 input
      return ({ parts with year }, rest)
  | .y => do
      let (year, rest) ← takeNumber 2 input
      -- a single digit is not a two-digit year
      if input.length < rest.length + 2 then none
      else return ({ parts with year := expandYear year }, rest)
  | .slash =>
      match input with
      | '/' :: rest => some (parts, rest)
      | _ => none

def readFormat : List Format → Parts → List Char → Option Parts
  | [], parts, [] => some parts
  | [], _, _ :: _ => none
  | char :: format, parts, input => do
      let (parts, rest) ← readChar parts input char
      readFormat format parts rest

/-- `DateTime::createFromFormat($format, $datetime)`; `none` is `false`.  The
parts a format does not set are today's, and every format here sets all
three. -/
def createFromFormat (format : List Format) (datetime : String) : Option Date :=
  (readFormat format ⟨0, 0, 0⟩ datetime.toList).map fun parts =>
    rollover parts.year parts.month parts.day

theorem takeNumber_two (tens units : ℕ) (rest : List Char) :
    takeNumber 2 (digit tens :: digit units :: rest) =
      some (10 * (tens % 10) + units % 10, rest) := by
  simp [takeNumber, isDigit_digit, number, digitValue_digit]

theorem takeNumber_four (thousands hundreds tens units : ℕ) (rest : List Char) :
    takeNumber 4 (digit thousands :: digit hundreds :: digit tens ::
        digit units :: rest) =
      some (10 * (10 * (10 * (thousands % 10) + hundreds % 10) + tens % 10) +
        units % 10, rest) := by
  simp [takeNumber, isDigit_digit, number, digitValue_digit]

/-- The leading `dd/mm/` of a written date is read back by both formats. -/
theorem readFormat_day_month (date : Date) (format : List Format) :
    readFormat (.d :: .slash :: .m :: .slash :: format) ⟨0, 0, 0⟩ date.chars =
      readFormat format ⟨date.day, date.month, 0⟩
        (date.chars.drop 6) := by
  have hday := date.day_lt
  have hmonth := date.month_le
  have hdayEq : 10 * (date.day / 10 % 10) + date.day % 10 = date.day := by omega
  have hmonthEq : 10 * (date.month / 10 % 10) + date.month % 10 = date.month := by
    omega
  simp [readFormat, readChar, Date.chars, takeNumber_two, hdayEq, hmonthEq]

/-- The format `d/m/Y` reads a written date back exactly. -/
theorem createFromFormat_dmY_write (date : Date) (hyear : date.FourDigitYear) :
    createFromFormat dmY date.write = some date := by
  have hvalue : ((10 * (10 * (10 * (date.year.toNat / 1000 % 10) +
      date.year.toNat / 100 % 10) + date.year.toNat / 10 % 10) +
      date.year.toNat % 10 : ℕ) : ℤ) = date.year := by
    obtain ⟨hlow, hhigh⟩ := hyear
    omega
  rw [createFromFormat, toList_write, dmY, readFormat_day_month]
  simp only [Date.chars, List.drop_succ_cons, List.drop_zero, readFormat,
    readChar, takeNumber_four, Option.bind_eq_bind, Option.bind_some,
    Option.pure_def, Option.map_some, hvalue, rollover_self]

/-- The format `d/m/y` stops after two digits of the year and rejects the
other two as trailing data. -/
theorem createFromFormat_dmy_write (date : Date) :
    createFromFormat dmy date.write = none := by
  rw [createFromFormat, toList_write, dmy, readFormat_day_month]
  simp [Date.chars, readFormat, readChar, takeNumber_two]

/-! ## `new DateTime` -/

/-- The shape `nn/nn/nnnn`, as its three numbers. -/
def slashParts : List Char → Option (ℕ × ℕ × ℕ)
  | [a, b, '/', c, d, '/', e, f, g, h] =>
      if [a, b, c, d, e, f, g, h].all isDigit then
        some (number [a, b], number [c, d], number [e, f, g, h])
      else none
  | _ => none

/-- `new DateTime($datetime)` for a string argument; `none` is the exception
the constructor raises.  A slash date is read month first.  Texts of other
shapes follow the general grammar `strtotime`. -/
def construct (today : Date) (strtotime : String → Option Date)
    (datetime : String) : Option Date :=
  if datetime = "" then some today
  else
    match slashParts datetime.toList with
    | some (month, day, year) =>
        if month ≤ 12 ∧ day ≤ 31 then some (rollover year month day) else none
    | none => strtotime datetime

theorem slashParts_write (date : Date) (hyear : date.FourDigitYear) :
    slashParts date.chars = some (date.day, date.month, date.year.toNat) := by
  have hday := date.day_lt
  have hmonth := date.month_le
  obtain ⟨hlow, hhigh⟩ := hyear
  simp only [Date.chars, slashParts, List.all_cons, isDigit_digit, List.all_nil,
    Bool.and_self, if_true, number, List.foldl_cons, List.foldl_nil,
    digitValue_digit, Option.some.injEq, Prod.mk.injEq]
  omega

theorem write_ne_empty (date : Date) : date.write ≠ "" := by
  intro hempty
  have := congrArg String.toList hempty
  simp [Date.chars] at this

/-- On a written date the constructor swaps day and month, and raises an
exception when the day cannot be a month. -/
theorem construct_write (today : Date) (strtotime : String → Option Date)
    (date : Date) (hyear : date.FourDigitYear) :
    construct today strtotime date.write =
      if date.day ≤ 12 then some (rollover date.year date.day date.month)
      else none := by
  have hmonth := date.month_le
  have hcast : ((date.year.toNat : ℕ) : ℤ) = date.year := by
    have := hyear.1
    omega
  have hthirtyOne : date.month ≤ 31 := by omega
  simp [construct, write_ne_empty, slashParts_write date hyear, hthirtyOne, hcast]

/-- The date with day and month exchanged: no month is shorter than twelve
days. -/
def swapped (date : Date) (hday : date.day ≤ 12) : Date where
  year := date.year
  month := date.day
  day := date.month
  month_pos := date.day_pos
  month_le := hday
  day_pos := date.month_pos
  day_le := by
    have hmonth := date.month_le
    have hshort := le_daysInMonth date.year date.day
    omega

/-- Exchanging day and month is only harmless when they carry one number. -/
theorem swapped_eq_iff (date : Date) (hday : date.day ≤ 12) :
    swapped date hday = date ↔ date.day = date.month := by
  constructor
  · intro heq
    exact congrArg Date.month heq
  · intro hsame
    cases date
    simp only [swapped] at hsame ⊢
    subst hsame
    rfl

/-- What the constructor reads from a written date. -/
theorem construct_write_swapped (today : Date) (strtotime : String → Option Date)
    (date : Date) (hyear : date.FourDigitYear) (hday : date.day ≤ 12) :
    construct today strtotime date.write = some (swapped date hday) := by
  rw [construct_write today strtotime date hyear, if_pos hday]
  exact congrArg some (rollover_self (swapped date hday))

end DateTime

end Bibliotheque
