import Mathlib.Data.List.TakeWhile
import Bibliotheque.Php.DateTime

/-!
# The texts that the date formats accept

`DateTime::createFromFormat` reads its text character by character.  Here its
two formats are compared with a plain description of the same texts: three
groups of digits with slashes between them.  The day written in such a text need
not exist; `denoted` is the calendar day where it does.
-/

namespace Bibliotheque

namespace DateTime

open Date

/-! ## Groups of digits -/

/-- Between `shortest` and `longest` digits. -/
def Digits (shortest longest : ℕ) (group : List Char) : Prop :=
  shortest ≤ group.length ∧ group.length ≤ longest ∧ group.all isDigit = true

instance (shortest longest : ℕ) (group : List Char) :
    Decidable (Digits shortest longest group) :=
  inferInstanceAs (Decidable (_ ∧ _ ∧ _))

theorem Digits.isDigit {shortest longest : ℕ} {group : List Char}
    (hdigits : Digits shortest longest group) {char : Char} (hchar : char ∈ group) :
    Date.isDigit char = true :=
  List.all_eq_true.mp hdigits.2.2 char hchar

theorem Digits.not_mem {shortest longest : ℕ} {group : List Char}
    (hdigits : Digits shortest longest group) {char : Char}
    (hchar : Date.isDigit char = false) : char ∉ group := by
  intro hmem
  rw [hdigits.isDigit hmem] at hchar
  cases hchar

/-- The day, month and year numbers of a text; the year has between `shortest`
and `longest` digits. -/
def slashGroups (shortest longest : ℕ) (datetime : String) : Option (ℕ × ℕ × ℕ) :=
  match datetime.toList.splitOn '/' with
  | [day, month, year] =>
      if Digits 1 2 day ∧ Digits 1 2 month ∧ Digits shortest longest year then
        some (number day, number month, number year)
      else none
  | _ => none

/-- The calendar day with the given numbers, if there is one. -/
def calendarDay (day month year : ℕ) : Option Date :=
  if hday : (1 ≤ month ∧ month ≤ 12) ∧ 1 ≤ day ∧ day ≤ daysInMonth year month then
    some ⟨year, month, day, hday.1.1, hday.1.2, hday.2.1, hday.2.2⟩
  else none

/-- The calendar day that a text of the form day/month/year denotes. -/
def denoted (datetime : String) : Option Date :=
  (slashGroups 1 4 datetime).bind fun (day, month, year) => calendarDay day month year

/-- Rolling over leaves a day that exists as it is. -/
theorem rollover_calendarDay {day month year : ℕ} {date : Date}
    (hdate : calendarDay day month year = some date) : rollover year month day = date := by
  unfold calendarDay at hdate
  split at hdate
  case isTrue hday =>
    obtain ⟨⟨hpos, hle⟩, hdayPos, hdayLe⟩ := hday
    rw [← Option.some.inj hdate]
    exact rollover_self ⟨year, month, day, hpos, hle, hdayPos, hdayLe⟩
  case isFalse => cases hdate

theorem splitOn_slash_eq_iff (input day month year : List Char)
    (hday : '/' ∉ day) (hmonth : '/' ∉ month) (hyear : '/' ∉ year) :
    input.splitOn '/' = [day, month, year] ↔
      input = day ++ '/' :: (month ++ '/' :: year) := by
  have hjoin : ['/'].intercalate [day, month, year] =
      day ++ '/' :: (month ++ '/' :: year) := by
    simp [List.intercalate]
  constructor
  · intro hsplit
    rw [← hjoin, ← hsplit, List.intercalate_splitOn]
  · rintro rfl
    rw [← hjoin]
    apply List.splitOn_intercalate
    · simp [hday, hmonth, hyear]
    · simp

theorem isDigit_slash : isDigit '/' = false := by decide

theorem slashGroups_eq_some_iff {shortest longest : ℕ} {datetime : String}
    {numbers : ℕ × ℕ × ℕ} :
    slashGroups shortest longest datetime = some numbers ↔
      ∃ day month year, datetime.toList = day ++ '/' :: (month ++ '/' :: year) ∧
        Digits 1 2 day ∧ Digits 1 2 month ∧ Digits shortest longest year ∧
        numbers = (number day, number month, number year) := by
  unfold slashGroups
  constructor
  · intro hread
    split at hread
    case h_1 day month year hsplit =>
      split at hread
      case isTrue hdigits =>
        obtain ⟨hday, hmonth, hyear⟩ := hdigits
        have hinput := (splitOn_slash_eq_iff _ day month year (hday.not_mem isDigit_slash)
          (hmonth.not_mem isDigit_slash) (hyear.not_mem isDigit_slash)).mp hsplit
        exact ⟨day, month, year, hinput, hday, hmonth, hyear, (Option.some.inj hread).symm⟩
      case isFalse => cases hread
    case h_2 => cases hread
  · rintro ⟨day, month, year, hinput, hday, hmonth, hyear, rfl⟩
    have hsplit := (splitOn_slash_eq_iff _ day month year (hday.not_mem isDigit_slash)
      (hmonth.not_mem isDigit_slash) (hyear.not_mem isDigit_slash)).mpr hinput
    rw [hsplit]
    simp [hday, hmonth, hyear]

/-! ## Reading a group -/

theorem digits_of_takeNumber {limit value : ℕ} {input rest : List Char}
    (hread : takeNumber limit input = some (value, rest)) :
    ∃ group, input = group ++ rest ∧ Digits 1 limit group ∧ value = number group := by
  unfold takeNumber at hread
  split at hread
  case h_1 => cases hread
  case h_2 head tail hgroup =>
    obtain ⟨rfl, rfl⟩ := Prod.mk.inj (Option.some.inj hread)
    have hstart : head :: tail <+: input.take limit := by
      rw [← hgroup]
      exact List.takeWhile_prefix _
    refine ⟨head :: tail, ?_, ⟨by simp, ?_, ?_⟩, rfl⟩
    · exact (List.prefix_iff_eq_append.mp
        (hstart.trans (List.take_prefix limit input))).symm
    · exact hstart.length_le.trans (List.length_take_le limit input)
    · rw [← hgroup]
      exact List.all_takeWhile

/-- A group is read whole when no digit follows it. -/
theorem takeNumber_append {limit : ℕ} {group rest : List Char}
    (hgroup : Digits 1 limit group) (hrest : ∀ char ∈ rest.head?, isDigit char = false) :
    takeNumber limit (group ++ rest) = some (number group, rest) := by
  have hshort := hgroup.1
  have hlong := hgroup.2.1
  have htail : (rest.take (limit - group.length)).takeWhile isDigit = [] := by
    cases rest with
    | nil => simp
    | cons head tail =>
        cases limit - group.length with
        | zero => simp
        | succ more => simp [hrest head rfl]
  have htake : ((group ++ rest).take limit).takeWhile isDigit = group := by
    rw [List.take_append, List.take_of_length_le hlong,
      List.takeWhile_append_of_pos fun _ => hgroup.isDigit, htail, List.append_nil]
  unfold takeNumber
  rw [htake]
  cases group with
  | nil => simp at hshort
  | cons head tail => simp

/-! ## Reading a format -/

theorem readFormat_cons_eq_some_iff {char : Format} {format : List Format}
    {parts read : Parts} {input : List Char} :
    readFormat (char :: format) parts input = some read ↔
      ∃ next rest, readChar parts input char = some (next, rest) ∧
        readFormat format next rest = some read := by
  simp [readFormat, Option.bind_eq_some_iff]

theorem readChar_slash_eq_some_iff {parts next : Parts} {input rest : List Char} :
    readChar parts input .slash = some (next, rest) ↔
      input = '/' :: rest ∧ next = parts := by
  rw [readChar.eq_def]
  dsimp only
  split
  case h_1 => simp [eq_comm, and_comm]
  case h_2 hother =>
    simp only [reduceCtorEq, false_iff]
    rintro ⟨rfl, -⟩
    exact hother rest rfl

theorem readChar_d_eq_some_iff {parts next : Parts} {input rest : List Char} :
    readChar parts input .d = some (next, rest) ↔
      ∃ day, takeNumber 2 input = some (day, rest) ∧ { parts with day } = next := by
  simp [readChar, Option.bind_eq_some_iff]

theorem readChar_m_eq_some_iff {parts next : Parts} {input rest : List Char} :
    readChar parts input .m = some (next, rest) ↔
      ∃ month, takeNumber 2 input = some (month, rest) ∧ { parts with month } = next := by
  simp [readChar, Option.bind_eq_some_iff]

/-- The two formats up to the year. -/
theorem readFormat_groups_iff {format : List Format} {read : Parts} {input : List Char} :
    readFormat (.d :: .slash :: .m :: .slash :: format) ⟨0, 0, 0⟩ input = some read ↔
      ∃ day month rest, input = day ++ '/' :: (month ++ '/' :: rest) ∧
        Digits 1 2 day ∧ Digits 1 2 month ∧
        readFormat format ⟨number day, number month, 0⟩ rest = some read := by
  simp only [readFormat_cons_eq_some_iff, readChar_slash_eq_some_iff,
    readChar_d_eq_some_iff, readChar_m_eq_some_iff]
  constructor
  · rintro ⟨_, _, ⟨dayNumber, hday, rfl⟩, _, afterDay, ⟨rfl, rfl⟩, _, _,
      ⟨monthNumber, hmonth, rfl⟩, _, rest, ⟨rfl, rfl⟩, hread⟩
    obtain ⟨day, rfl, hdayDigits, rfl⟩ := digits_of_takeNumber hday
    obtain ⟨month, rfl, hmonthDigits, rfl⟩ := digits_of_takeNumber hmonth
    exact ⟨day, month, rest, rfl, hdayDigits, hmonthDigits, hread⟩
  · rintro ⟨day, month, rest, rfl, hday, hmonth, hread⟩
    have hslash : ∀ rest : List Char, ∀ char ∈ ('/' :: rest).head?, isDigit char = false := by
      rintro rest char hchar
      cases hchar
      exact isDigit_slash
    exact ⟨_, _, ⟨_, takeNumber_append hday (hslash _), rfl⟩, _, _, ⟨rfl, rfl⟩, _, _,
      ⟨_, takeNumber_append hmonth (hslash _), rfl⟩, _, _, ⟨rfl, rfl⟩, hread⟩

theorem readFormat_nil_eq_some_iff {parts read : Parts} {input : List Char} :
    readFormat [] parts input = some read ↔ input = [] ∧ parts = read := by
  cases input with
  | nil => simp [readFormat]
  | cons head tail => simp [readFormat]

/-- `Y` at the end of a format takes one to four digits. -/
theorem readFormat_Y_eq_some_iff {parts read : Parts} {input : List Char} :
    readFormat [.Y] parts input = some read ↔
      Digits 1 4 input ∧ read = { parts with year := number input } := by
  rw [readFormat]
  simp only [readChar, Option.bind_eq_bind, Option.bind_eq_some_iff, Option.pure_def,
    Option.some.injEq, Prod.exists, Prod.mk.injEq, readFormat_nil_eq_some_iff]
  constructor
  · rintro ⟨_, _, ⟨value, rest, hvalue, rfl, rfl⟩, rfl, rfl⟩
    obtain ⟨group, rfl, hgroup, rfl⟩ := digits_of_takeNumber hvalue
    rw [List.append_nil]
    exact ⟨hgroup, rfl⟩
  · rintro ⟨hinput, rfl⟩
    have hvalue := @takeNumber_append 4 input [] hinput (by simp)
    rw [List.append_nil] at hvalue
    exact ⟨_, _, ⟨_, _, hvalue, rfl, rfl⟩, rfl, rfl⟩

/-- `y` at the end of a format takes exactly two digits. -/
theorem readFormat_y_eq_some_iff {parts read : Parts} {input : List Char} :
    readFormat [.y] parts input = some read ↔
      Digits 2 2 input ∧ read = { parts with year := expandYear (number input) } := by
  rw [readFormat]
  simp only [readChar, Option.bind_eq_bind, Option.bind_eq_some_iff, Option.pure_def,
    Prod.exists, readFormat_nil_eq_some_iff]
  constructor
  · rintro ⟨_, _, ⟨value, rest, hvalue, hyear⟩, rfl, rfl⟩
    obtain ⟨group, rfl, hgroup, rfl⟩ := digits_of_takeNumber hvalue
    split at hyear
    case isTrue => cases hyear
    case isFalse hlength =>
      obtain ⟨rfl, rfl⟩ := Prod.mk.inj (Option.some.inj hyear)
      rw [List.append_nil] at hlength ⊢
      simp only [List.length_nil, not_lt] at hlength
      exact ⟨⟨hlength, hgroup.2⟩, rfl⟩
  · rintro ⟨hinput, rfl⟩
    have hvalue := @takeNumber_append 2 input [] ⟨le_trans (by omega) hinput.1, hinput.2⟩ (by simp)
    rw [List.append_nil] at hvalue
    refine ⟨_, _, ⟨_, _, hvalue, ?_⟩, rfl, rfl⟩
    have hlength := hinput.1
    simp [show ¬ input.length < 2 by omega]

/-- `d/m/Y` accepts exactly three groups of digits, and rolls over what they
say. -/
theorem createFromFormat_dmY (datetime : String) :
    createFromFormat dmY datetime =
      (slashGroups 1 4 datetime).map fun (day, month, year) =>
        rollover year month day := by
  ext date
  simp only [createFromFormat, dmY, Option.map_eq_some_iff, readFormat_groups_iff,
    readFormat_Y_eq_some_iff, slashGroups_eq_some_iff]
  constructor
  · rintro ⟨_, ⟨day, month, year, hinput, hday, hmonth, hyear, rfl⟩, rfl⟩
    exact ⟨_, ⟨day, month, year, hinput, hday, hmonth, hyear, rfl⟩, rfl⟩
  · rintro ⟨_, ⟨day, month, year, hinput, hday, hmonth, hyear, rfl⟩, rfl⟩
    exact ⟨_, ⟨day, month, year, hinput, hday, hmonth, hyear, rfl⟩, rfl⟩

/-- `d/m/y` accepts those with a year of two digits. -/
theorem createFromFormat_dmy (datetime : String) :
    createFromFormat dmy datetime =
      (slashGroups 2 2 datetime).map fun (day, month, year) =>
        rollover (expandYear year) month day := by
  ext date
  simp only [createFromFormat, dmy, Option.map_eq_some_iff, readFormat_groups_iff,
    readFormat_y_eq_some_iff, slashGroups_eq_some_iff]
  constructor
  · rintro ⟨_, ⟨day, month, year, hinput, hday, hmonth, hyear, rfl⟩, rfl⟩
    exact ⟨_, ⟨day, month, year, hinput, hday, hmonth, hyear, rfl⟩, rfl⟩
  · rintro ⟨_, ⟨day, month, year, hinput, hday, hmonth, hyear, rfl⟩, rfl⟩
    exact ⟨_, ⟨day, month, year, hinput, hday, hmonth, hyear, rfl⟩, rfl⟩

/-- A text with the three groups has no other character than digits and
slashes. -/
theorem mem_of_slashGroups {shortest longest : ℕ} {datetime : String}
    (hgroups : (slashGroups shortest longest datetime).isSome = true) {char : Char}
    (hchar : char ∈ datetime.toList) : isDigit char = true ∨ char = '/' := by
  obtain ⟨numbers, hnumbers⟩ := Option.isSome_iff_exists.mp hgroups
  obtain ⟨day, month, year, hinput, hday, hmonth, hyear, -⟩ :=
    slashGroups_eq_some_iff.mp hnumbers
  rw [hinput] at hchar
  simp only [List.mem_append, List.mem_cons] at hchar
  rcases hchar with hchar | rfl | hchar | rfl | hchar
  · exact Or.inl (hday.isDigit hchar)
  · exact Or.inr rfl
  · exact Or.inl (hmonth.isDigit hchar)
  · exact Or.inr rfl
  · exact Or.inl (hyear.isDigit hchar)

end DateTime

end Bibliotheque
