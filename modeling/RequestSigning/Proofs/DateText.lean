import RequestSigning.Proofs.Calendar
import RequestSigning.Proofs.TextReading
import RequestSigning.Text.Utf8
import Mathlib.Algebra.Ring.Nat

/-!
# The text of a timestamp

The text of a timestamp is read from left to right, in the one form it has: a weekday, a day in two
digits, a month, a year in four digits or with a sign, and a time of day in two digits each
(`DateFields.read?`). What is read **tells** the timestamp by the calendar (`DateFields.Tells`): the
second that it lies in, and behind a leap second's number the second after the one it runs on from.
The main statement, `httpDate_tells`, is that the text of every timestamp reads as fields that tell it.
So timestamps have the same text exactly if they lie in the same second, a leap second being one of
its own, or if one lies in a leap second within a minute and the other in the second after it
(`Timestamp.RunsInto`).
-/

namespace RequestSigning

/-! ### Numbers -/

/-- The number that digits write. -/
def digits? (text : List Char) : Option Nat :=
  if text.all Char.isDigit then some (Nat.ofDigitChars 10 text 0) else none

/-- A number in two digits. -/
def twoDigits? (text : List Char) : Option Nat :=
  if text.length = 2 then digits? text else none

/-- A number in four digits, or in as many more as it needs. -/
def fourDigits? (text : List Char) : Option Nat :=
  if text.length = 4 ∨ 4 < text.length ∧ text.head? ≠ some '0' then digits? text else none

/-- A year: without a sign from 0 to 9999, and with a sign outside. -/
def year? : List Char → Option Int
  | '-' :: text => (fourDigits? text).bind fun n => if 0 < n then some (-n) else none
  | '+' :: text => (fourDigits? text).bind fun n => if 9999 < n then some n else none
  | text => (fourDigits? text).bind fun n => if n ≤ 9999 then some n else none

theorem toList_paddedDecimal (width n : Nat) : (paddedDecimal width n).toList =
    List.replicate (width - (Nat.toDigits 10 n).length) '0' ++ Nat.toDigits 10 n := by
  rw [paddedDecimal, String.toList_ofList]

theorem isDigit_of_mem_paddedDecimal {width n : Nat} {c : Char}
    (h : c ∈ (paddedDecimal width n).toList) : c.isDigit = true := by
  rw [toList_paddedDecimal, List.mem_append] at h
  rcases h with hzero | hdigit
  · obtain rfl := List.eq_of_mem_replicate hzero
    decide
  · exact Nat.isDigit_of_mem_toDigits (by decide) (by decide) hdigit

theorem notMem_paddedDecimal {stop : Char} (h : stop.isDigit = false) (width n : Nat) :
    stop ∉ (paddedDecimal width n).toList := fun hmem => by
  rw [isDigit_of_mem_paddedDecimal hmem] at h
  contradiction

/-- Leading zeros do not change the number read. -/
theorem digits?_paddedDecimal (width n : Nat) : digits? (paddedDecimal width n).toList = some n := by
  have hdigits : (paddedDecimal width n).toList.all Char.isDigit = true :=
    List.all_eq_true.mpr fun _ => isDigit_of_mem_paddedDecimal
  rw [digits?, if_pos hdigits, toList_paddedDecimal, Nat.ofDigitChars_append,
    Nat.ofDigitChars_replicate_zero, Nat.mul_zero, Nat.ofDigitChars_ten_toDigits]

theorem length_paddedDecimal (width n : Nat) :
    (paddedDecimal width n).toList.length = max width (Nat.toDigits 10 n).length := by
  rw [toList_paddedDecimal, List.length_append, List.length_replicate]
  omega

/-- A number keeps to its width exactly as long as its digits do. -/
theorem length_paddedDecimal_eq_iff {width n : Nat} (hwidth : 0 < width) :
    (paddedDecimal width n).toList.length = width ↔ n < 10 ^ width := by
  have hfits : (Nat.toDigits 10 n).length ≤ width ↔ n < 10 ^ width :=
    Nat.length_toDigits_le_iff (by decide) hwidth
  rw [length_paddedDecimal]
  omega

/-- A number's own digits do not begin with a zero. -/
theorem head?_toDigits_ne_zero {n : Nat} (h : 0 < n) : (Nat.toDigits 10 n).head? ≠ some '0' := by
  induction n using Nat.strongRecOn with
  | ind n ih =>
    by_cases hlast : n < 10
    · have hall : ∀ n < 10, 0 < n → Nat.digitChar n ≠ '0' := by decide
      rw [Nat.toDigits_of_lt_base hlast, List.head?_cons]
      exact fun heq => hall n hlast h (Option.some.inj heq)
    · have hrest := ih (n / 10) (by omega) (by omega)
      obtain ⟨first, more, hcons⟩ : ∃ first more, Nat.toDigits 10 (n / 10) = first :: more :=
        List.exists_cons_of_length_pos Nat.length_toDigits_pos
      rw [Nat.toDigits_of_base_le (by decide) (not_lt.mp hlast), hcons]
      rwa [hcons] at hrest

/-- Numbers below 100 are written with two digits and read back. -/
theorem twoDigits?_paddedDecimal {n : Nat} (h : n < 100) :
    twoDigits? (paddedDecimal 2 n).toList = some n := by
  rw [twoDigits?, if_pos ((length_paddedDecimal_eq_iff (by decide)).mpr h), digits?_paddedDecimal]

/-- A two-digit field ends at the first character that is no digit. -/
theorem readTo?_twoDigits {stop : Char} (hstop : stop.isDigit = false) {n : Nat} (h : n < 100)
    (rest : List Char) :
    Text.readTo? stop twoDigits? ((paddedDecimal 2 n).toList ++ stop :: rest) = some (n, rest) :=
  Text.readTo?_append (notMem_paddedDecimal hstop 2 n) (twoDigits?_paddedDecimal h) rest

theorem fourDigits?_paddedDecimal (n : Nat) : fourDigits? (paddedDecimal 4 n).toList = some n := by
  have hform : (paddedDecimal 4 n).toList.length = 4 ∨ 4 < (paddedDecimal 4 n).toList.length ∧
      (paddedDecimal 4 n).toList.head? ≠ some '0' := by
    by_cases hfits : n < 10 ^ 4
    · exact .inl ((length_paddedDecimal_eq_iff (by decide)).mpr hfits)
    · -- a longer number has no zeros in front
      have hlong : ¬(Nat.toDigits 10 n).length ≤ 4 :=
        mt (Nat.length_toDigits_le_iff (by decide) (by decide)).mp hfits
      have hnone : 4 - (Nat.toDigits 10 n).length = 0 := by omega
      rw [toList_paddedDecimal, hnone, List.replicate_zero, List.nil_append]
      exact .inr ⟨by omega, head?_toDigits_ne_zero (by omega)⟩
  rw [fourDigits?, if_pos hform, digits?_paddedDecimal]

/-- **Years.** The year that was written is read. -/
theorem year?_yearText (year : Int) : year? (yearText year).toList = some year := by
  have hminus : "-".toList = ['-'] := rfl
  have hplus : "+".toList = ['+'] := rfl
  rw [yearText]
  split_ifs with hnegative hshort
  · rw [String.toList_append, hminus, List.singleton_append, year?, fourDigits?_paddedDecimal,
      Option.bind_some, if_pos (by omega)]
    exact congrArg some (by omega)
  · -- the first character is a digit, and no sign
    have hread := fourDigits?_paddedDecimal year.toNat
    have hdigit : ∀ c ∈ (paddedDecimal 4 year.toNat).toList, c.isDigit = true :=
      fun _ => isDigit_of_mem_paddedDecimal
    unfold year?
    split
    · next text heq => simp [heq] at hdigit
    · next text heq => simp [heq] at hdigit
    · rw [hread, Option.bind_some, if_pos (by omega)]
      exact congrArg some (by omega)
  · rw [String.toList_append, hplus, List.singleton_append, year?, fourDigits?_paddedDecimal,
      Option.bind_some, if_pos (by omega)]
    exact congrArg some (by omega)

/-- The year, signed or not, is one word. -/
theorem blank_notMem_yearText (year : Int) : ' ' ∉ (yearText year).toList := by
  have hdigits : ∀ n, ' ' ∉ (paddedDecimal 4 n).toList := notMem_paddedDecimal (by decide) 4
  rw [yearText]
  split_ifs <;> simp [hdigits]

/-! ### Names -/

/-- The first letters of the name of a month. -/
def monthAbbreviation : Nat → String
  | 1 => "Jan"
  | 2 => "Feb"
  | 3 => "Mar"
  | 4 => "Apr"
  | 5 => "May"
  | 6 => "Jun"
  | 7 => "Jul"
  | 8 => "Aug"
  | 9 => "Sep"
  | 10 => "Oct"
  | 11 => "Nov"
  | _ => "Dec"

/-- The month whose name has these first letters. -/
def month? (text : List Char) : Option Nat :=
  [1, 2, 3, 4, 5, 6, 7, 8, 9, 10, 11, 12].find? fun month =>
    (monthAbbreviation month).toList = text

/-- The weekday whose name has these first letters. -/
def Weekday.read? (text : List Char) : Option Weekday :=
  [sunday, monday, tuesday, wednesday, thursday, friday, saturday].find? fun weekday =>
    weekday.abbreviation.toList = text

theorem Weekday.read?_abbreviation (weekday : Weekday) :
    read? weekday.abbreviation.toList = some weekday := by
  cases weekday <;> decide

/-- The name of a month of the year. -/
theorem monthName_spec {month : Nat} (hlow : 1 ≤ month) (hhigh : month ≤ 12) :
    monthNames.getD (month - 1) "" = monthAbbreviation month ∧
      month? (monthAbbreviation month).toList = some month ∧
      (monthAbbreviation month).toList.length = 3 ∧ ' ' ∉ (monthAbbreviation month).toList := by
  have hall : ∀ month < 13, 1 ≤ month →
      monthNames.getD (month - 1) "" = monthAbbreviation month ∧
        month? (monthAbbreviation month).toList = some month ∧
        (monthAbbreviation month).toList.length = 3 ∧ ' ' ∉ (monthAbbreviation month).toList := by
    decide +kernel
  exact hall month (by omega) hlow

/-! ### The fields of a date -/

/-- The **fields** of a date with a time of day. -/
@[ext] structure DateFields where
  weekday : Weekday
  date : CivilDate
  hour : Nat
  minute : Nat
  second : Nat
  deriving DecidableEq

/-- The fields in a text, read from left to right. -/
def DateFields.read? (text : String) : Option DateFields := do
  let (weekday, rest) ← Text.readTo? ',' Weekday.read? text.toList
  let rest ← Text.behind? [' '] rest
  let (day, rest) ← Text.readTo? ' ' twoDigits? rest
  let (month, rest) ← Text.readTo? ' ' month? rest
  let (year, rest) ← Text.readTo? ' ' year? rest
  let (hour, rest) ← Text.readTo? ':' twoDigits? rest
  let (minute, rest) ← Text.readTo? ':' twoDigits? rest
  let (second, rest) ← Text.readTo? ' ' twoDigits? rest
  if rest = "GMT".toList then some ⟨weekday, ⟨year, month, day⟩, hour, minute, second⟩ else none

namespace Timestamp

/-- The fields of a timestamp. -/
def fields (t : Timestamp) : DateFields where
  weekday := Weekday.ofDayNumber t.dayNumber
  date := CivilDate.ofDayNumber t.dayNumber
  hour := t.secondOfDay / 3600
  minute := t.secondOfDay / 60 % 60
  second := if t.inLeapSecond then t.secondOfDay % 60 + 1 else t.secondOfDay % 60

/-- The text of a date, field by field in the order they are read back in. -/
theorem toList_httpDate (t : Timestamp) : (httpDate t).toList =
    t.fields.weekday.abbreviation.toList ++ ',' :: ([' '] ++
      ((paddedDecimal 2 t.fields.date.day).toList ++ ' ' ::
        ((monthAbbreviation t.fields.date.month).toList ++ ' ' ::
          ((yearText t.fields.date.year).toList ++ ' ' ::
            ((paddedDecimal 2 t.fields.hour).toList ++ ':' ::
              ((paddedDecimal 2 t.fields.minute).toList ++ ':' ::
                ((paddedDecimal 2 t.fields.second).toList ++ ' ' :: "GMT".toList))))))) := by
  have hvalid := CivilDate.isValid_ofDayNumber t.dayNumber
  have hmonth := (monthName_spec hvalid.month_pos hvalid.month_le).1
  have hcomma : ", ".toList = [',', ' '] := rfl
  have hblank : " ".toList = [' '] := rfl
  have hcolon : ":".toList = [':'] := rfl
  have hend : " GMT".toList = ' ' :: "GMT".toList := rfl
  simp only [httpDate, fields, String.toList_append, hmonth, Weekday.weekdayName_eq, hcomma, hblank,
    hcolon, hend, List.append_assoc, List.cons_append, List.nil_append]

theorem secondOfDay_lt (t : Timestamp) : t.secondOfDay < 86400 := by
  rw [secondOfDay]
  omega

theorem day_lt (t : Timestamp) : t.fields.date.day < 100 := by
  have hvalid := CivilDate.isValid_ofDayNumber t.dayNumber
  have hlength : ∀ leap, ∀ month < 13, monthLength leap month < 100 := by decide
  exact hvalid.day_le.trans_lt (hlength _ _ (Nat.lt_succ_of_le hvalid.month_le))

theorem hour_lt (t : Timestamp) : t.fields.hour < 100 := by
  have hofDay := t.secondOfDay_lt
  rw [fields]
  dsimp only
  omega

theorem minute_lt (t : Timestamp) : t.fields.minute < 100 :=
  (Nat.mod_lt _ (by decide)).trans (by decide)

theorem second_lt (t : Timestamp) : t.fields.second < 100 := by
  rw [fields]
  dsimp only
  split_ifs <;> omega

/-- **Fields.** The text of a timestamp reads as its fields. -/
theorem read?_httpDate (t : Timestamp) : DateFields.read? (httpDate t) = some t.fields := by
  have hvalid := CivilDate.isValid_ofDayNumber t.dayNumber
  have hcomma : ',' ∉ t.fields.weekday.abbreviation.toList := by
    cases t.fields.weekday <;> decide
  obtain ⟨-, hmonth, -, hblank⟩ := monthName_spec hvalid.month_pos hvalid.month_le
  have hmonthRead : ∀ rest, Text.readTo? ' ' month?
      ((monthAbbreviation t.fields.date.month).toList ++ ' ' :: rest) =
        some (t.fields.date.month, rest) := Text.readTo?_append hblank hmonth
  have hyearRead : ∀ rest, Text.readTo? ' ' year? ((yearText t.fields.date.year).toList ++
      ' ' :: rest) = some (t.fields.date.year, rest) :=
    Text.readTo?_append (blank_notMem_yearText _) (year?_yearText _)
  have hblankStop : ' '.isDigit = false := by decide
  have hcolonStop : ':'.isDigit = false := by decide
  rw [DateFields.read?, toList_httpDate, Text.readTo?_append hcomma (Weekday.read?_abbreviation _)]
  simp only [Option.bind_eq_bind, Option.bind_some, Text.behind?_append,
    readTo?_twoDigits hblankStop t.day_lt, hmonthRead, hyearRead,
    readTo?_twoDigits hcolonStop t.hour_lt, readTo?_twoDigits hcolonStop t.minute_lt,
    readTo?_twoDigits hblankStop t.second_lt, if_true]

end Timestamp

/-! ### The second that is told -/

namespace Timestamp

/-- The second that a text can tell of a timestamp: a leap second counts as the next one. -/
def toldSecond (t : Timestamp) : Int :=
  t.seconds + if t.inLeapSecond then 1 else 0

/-- Whether a timestamp lies in a leap second behind the last second of a minute. -/
def inSecondSixty (t : Timestamp) : Bool :=
  t.inLeapSecond && t.seconds % 60 = 59

/-- A timestamp **runs into** another one: it lies in a leap second behind another second than a
minute's last, and the other timestamp in the ordinary second that follows. -/
structure RunsInto (t other : Timestamp) : Prop where
  inLeapSecond : t.inLeapSecond = true
  within_minute : t.seconds % 60 ≠ 59
  ordinary : other.inLeapSecond = false
  seconds_eq : other.seconds = t.seconds + 1

/-- The 60 is printed behind the last second of a minute and nowhere else. -/
theorem inSecondSixty_iff {t : Timestamp} :
    t.inSecondSixty = true ↔ t.inLeapSecond = true ∧ t.seconds % 60 = 59 := by
  rw [inSecondSixty, Bool.and_eq_true, decide_eq_true_iff]

/-- **Seconds told apart.** The second that is told, and whether it is second 60, fall together for
timestamps in the same second, and for one that runs into the other. -/
theorem told_eq_iff (t other : Timestamp) :
    (t.toldSecond = other.toldSecond ∧ t.inSecondSixty = other.inSecondSixty) ↔
      (t.seconds = other.seconds ∧ t.inLeapSecond = other.inLeapSecond) ∨
        t.RunsInto other ∨ other.RunsInto t := by
  constructor
  · rintro ⟨htold, hsixty⟩
    have hsame := t.inSecondSixty_iff.symm.trans
      ((Bool.eq_iff_iff.mp hsixty).trans other.inSecondSixty_iff)
    rw [toldSecond, toldSecond] at htold
    cases hleap : t.inLeapSecond <;> cases hother : other.inLeapSecond <;>
      simp only [hleap, hother, if_true, reduceIte, Bool.false_eq_true, false_and, true_and, iff_false,
        false_iff] at htold hsame
    · exact .inl ⟨by omega, rfl⟩
    · exact .inr (.inr ⟨hother, hsame, hleap, by omega⟩)
    · exact .inr (.inl ⟨hleap, hsame, hother, by omega⟩)
    · exact .inl ⟨by omega, rfl⟩
  · have hruns : ∀ {t other : Timestamp}, t.RunsInto other →
        t.toldSecond = other.toldSecond ∧ t.inSecondSixty = other.inSecondSixty := by
      rintro t other ⟨hleap, hwithin, hother, hnext⟩
      simp [toldSecond, inSecondSixty, hleap, hwithin, hother, hnext]
    rintro (⟨hseconds, hleap⟩ | hinto | hinto)
    · simp [toldSecond, inSecondSixty, hseconds, hleap]
    · exact hruns hinto
    · exact ⟨(hruns hinto).1.symm, (hruns hinto).2.symm⟩

end Timestamp

/-- The fields **tell** a timestamp: by the calendar and the clock they stand for the second that the
timestamp lies in, or for the next one if it lies in a leap second. The sixtieth second of a minute
stands for a leap second behind the minute's last one, and for nothing else. -/
structure DateFields.Tells (fields : DateFields) (t : Timestamp) : Prop where
  hour_lt : fields.hour < 24
  minute_lt : fields.minute < 60
  second : if t.inSecondSixty then fields.second = 60 else fields.second < 60
  seconds : ∃ days : Int, IsDay days fields.date fields.weekday ∧
    t.toldSecond = 86400 * days + 3600 * fields.hour + 60 * fields.minute + fields.second

namespace DateFields

/-- The fields of a timestamp tell it. -/
theorem tells_fields (t : Timestamp) : t.fields.Tells t := by
  have hofDay := t.secondOfDay_lt
  have hsplit : t.seconds = 86400 * t.dayNumber + t.secondOfDay := by
    rw [Timestamp.dayNumber, Timestamp.secondOfDay]
    omega
  have hhour : t.fields.hour = t.secondOfDay / 3600 := rfl
  have hminute : t.fields.minute = t.secondOfDay / 60 % 60 := rfl
  have hsecond : t.fields.second =
      if t.inLeapSecond then t.secondOfDay % 60 + 1 else t.secondOfDay % 60 := rfl
  refine ⟨by omega, by omega, ?_, t.dayNumber, isDay_ofDayNumber _, ?_⟩
  · -- the number is 60 only where a leap second stands behind the minute's last one
    have hsixty := t.inSecondSixty_iff
    split_ifs at hsecond ⊢ with hlast hleap hleap
    · have hend := (hsixty.mp hlast).2
      omega
    · exact absurd (hsixty.mp hlast).1 hleap
    · have hwithin : t.seconds % 60 ≠ 59 := fun hend => hlast (hsixty.mpr ⟨hleap, hend⟩)
      omega
    · omega
  · rw [Timestamp.toldSecond]
    split_ifs at hsecond ⊢ <;> omega

/-- Fields that tell a time show a leap second by a 60, where there is a 60 to show. -/
theorem Tells.inSecondSixty_iff {fields : DateFields} {t : Timestamp} (h : fields.Tells t) :
    t.inSecondSixty = true ↔ fields.second = 60 := by
  have hsecond := h.second
  split_ifs at hsecond with hsixty
  · exact iff_of_true hsixty hsecond
  · exact iff_of_false hsixty (by omega)

/-- Fields tell one second only. -/
theorem Tells.told_eq {fields : DateFields} {t other : Timestamp} (h : fields.Tells t)
    (hother : fields.Tells other) :
    t.toldSecond = other.toldSecond ∧ t.inSecondSixty = other.inSecondSixty := by
  obtain ⟨days, hday, hseconds⟩ := h.seconds
  obtain ⟨otherDays, hotherDay, hotherSeconds⟩ := hother.seconds
  have hsame : days = otherDays :=
    CivilDate.ofDayNumber_injective ((isDay_iff.mp hday).1.symm.trans (isDay_iff.mp hotherDay).1)
  have hsixty : t.inSecondSixty = other.inSecondSixty :=
    Bool.eq_iff_iff.mpr (h.inSecondSixty_iff.trans hother.inSecondSixty_iff.symm)
  rw [hsame] at hseconds
  exact ⟨hseconds.trans hotherSeconds.symm, hsixty⟩

/-- Fields tell every timestamp that is told as the same second. -/
theorem Tells.of_told_eq {fields : DateFields} {t other : Timestamp} (h : fields.Tells t)
    (htold : t.toldSecond = other.toldSecond ∧ t.inSecondSixty = other.inSecondSixty) :
    fields.Tells other :=
  ⟨h.hour_lt, h.minute_lt, htold.2 ▸ h.second, htold.1 ▸ h.seconds⟩

/-- A timestamp is told by one set of fields only. -/
theorem Tells.unique {fields other : DateFields} {t : Timestamp} (h : fields.Tells t)
    (hother : other.Tells t) : fields = other := by
  obtain ⟨hhour, hminute, hsecond, days, hday, hseconds⟩ := h
  obtain ⟨hotherHour, hotherMinute, hotherSecond, otherDays, hotherDay, hotherSeconds⟩ := hother
  have hparts : days = otherDays ∧ fields.hour = other.hour ∧ fields.minute = other.minute ∧
      fields.second = other.second := by
    split_ifs at hsecond hotherSecond <;> omega
  obtain ⟨rfl, hsameHour, hsameMinute, hsameSecond⟩ := hparts
  obtain ⟨hdate, hweekday⟩ := isDay_iff.mp hday
  obtain ⟨hotherDate, hotherWeekday⟩ := isDay_iff.mp hotherDay
  rw [DateFields.ext_iff]
  exact ⟨hweekday.trans hotherWeekday.symm, hdate.trans hotherDate.symm, hsameHour, hsameMinute,
    hsameSecond⟩

end DateFields

/-! ### The characters -/

/-- The characters that a date may have besides digits. -/
def dateCharacters : List Char :=
  "SunMonTueWedThuFriSatJanFebMarAprMayJunJulAugSepOctNovDecGMT, :+-".toList

/-- What holds of digits and of the other characters of a date holds of all its characters. -/
theorem forall_mem_httpDate {P : Char → Prop} (hdigit : ∀ c, c.isDigit = true → P c)
    (hname : ∀ c ∈ dateCharacters, P c) (t : Timestamp) : ∀ c ∈ (httpDate t).toList, P c := by
  have hliteral : ∀ text : String, (text.toList.all fun c => c ∈ dateCharacters) = true →
      ∀ c ∈ text.toList, P c := fun text hall c hc =>
    hname c (of_decide_eq_true (List.all_eq_true.mp hall c hc))
  have hweekday : ∀ weekday : Weekday, ∀ c ∈ weekday.abbreviation.toList, P c := by
    intro weekday
    refine hliteral _ ?_
    cases weekday <;> decide
  have hmonth : ∀ month, ∀ c ∈ (monthAbbreviation month).toList, P c := by
    intro month
    refine hliteral _ ?_
    unfold monthAbbreviation
    split <;> decide
  have hdecimal : ∀ width n, ∀ c ∈ (paddedDecimal width n).toList, P c :=
    fun _ _ c hc => hdigit c (isDigit_of_mem_paddedDecimal hc)
  have hsigned : ∀ sign : String, (sign.toList.all fun c => c ∈ dateCharacters) = true →
      ∀ n, ∀ c ∈ (sign ++ paddedDecimal 4 n).toList, P c := by
    intro sign hsign n
    rw [String.toList_append]
    exact List.forall_mem_append.mpr ⟨hliteral sign hsign, hdecimal 4 n⟩
  have hyear : ∀ year, ∀ c ∈ (yearText year).toList, P c := by
    intro year
    rw [yearText]
    split_ifs
    · exact hsigned "-" (by decide) _
    · exact hdecimal 4 _
    · exact hsigned "+" (by decide) _
  have hblank : P ' ' := hname _ (by decide)
  have hcolon : P ':' := hname _ (by decide)
  have hcomma : P ',' := hname _ (by decide)
  have hzone : ∀ c ∈ "GMT".toList, P c := hliteral _ (by decide)
  rw [Timestamp.toList_httpDate]
  simp only [List.forall_mem_append, List.forall_mem_cons, List.not_mem_nil, false_implies,
    implies_true, and_true]
  exact ⟨hweekday _, hcomma, hblank, hdecimal _ _, hblank, hmonth _, hblank, hyear _, hblank,
    hdecimal _ _, hcolon, hdecimal _ _, hcolon, hdecimal _ _, hblank, hzone⟩

/-- Whether a character is one of ASCII that is not a control character. -/
def isPrintable (c : Char) : Bool :=
  32 ≤ c.toNat && c.toNat ≤ 126

theorem isPrintable_of_isDigit {c : Char} (h : c.isDigit = true) : isPrintable c = true := by
  obtain ⟨hlow, hhigh⟩ : 48 ≤ c.toNat ∧ c.toNat ≤ 57 := by
    simpa [Char.isDigit, UInt32.le_iff_toNat_le] using h
  have hprintable : 32 ≤ c.toNat ∧ c.toNat ≤ 126 := by omega
  simpa [isPrintable] using hprintable

/-- A date can stand in a header, whatever its year. -/
theorem isPrintable_httpDate (t : Timestamp) : ∀ c ∈ (httpDate t).toList, isPrintable c = true :=
  forall_mem_httpDate (fun _ => isPrintable_of_isDigit) (List.all_eq_true.mp (by decide)) t

/-- A printable text has as many bytes as characters. -/
theorem Utf8.length_encode_of_isPrintable {text : String}
    (h : ∀ c ∈ text.toList, isPrintable c = true) : (encode text).length = text.toList.length := by
  have hone : ∀ c ∈ text.toList, (String.utf8EncodeChar c).length = 1 := by
    intro c hc
    have hlow : c.toNat ≤ 126 := by
      have hprintable := h c hc
      simp only [isPrintable, Bool.and_eq_true, decide_eq_true_eq] at hprintable
      exact hprintable.2
    rw [String.length_utf8EncodeChar, Char.utf8Size_eq_one_iff]
    exact UInt32.le_iff_toNat_le.mpr (Nat.le_trans hlow (by decide))
  rw [encode, List.length_flatMap, List.map_congr_left hone, List.map_const', List.sum_replicate_nat,
    Nat.mul_one]

/-- Years of four digits are the unsigned ones. -/
theorem length_yearText_eq_iff (year : Int) :
    (yearText year).toList.length = 4 ↔ 0 ≤ year ∧ year ≤ 9999 := by
  have hlong : ∀ n, 4 ≤ (paddedDecimal 4 n).toList.length := fun n => by
    rw [length_paddedDecimal]
    exact Nat.le_max_left _ _
  have hshort : (paddedDecimal 4 year.toNat).toList.length = 4 ↔ year.toNat < 10 ^ 4 :=
    length_paddedDecimal_eq_iff (by decide)
  have hminus : "-".toList.length = 1 := rfl
  have hplus : "+".toList.length = 1 := rfl
  rw [yearText]
  split_ifs
  · have hdigits := hlong year.natAbs
    rw [String.toList_append, List.length_append]
    omega
  · rw [hshort]
    omega
  · have hdigits := hlong year.toNat
    rw [String.toList_append, List.length_append]
    omega

/-- The text has its usual length exactly in those years. -/
theorem length_httpDate_eq_iff (t : Timestamp) :
    (httpDate t).toList.length = 29 ↔ 0 ≤ t.fields.date.year ∧ t.fields.date.year ≤ 9999 := by
  have hvalid := CivilDate.isValid_ofDayNumber t.dayNumber
  have hweekday : t.fields.weekday.abbreviation.toList.length = 3 := by
    cases t.fields.weekday <;> rfl
  have hmonth : (monthAbbreviation t.fields.date.month).toList.length = 3 :=
    (monthName_spec hvalid.month_pos hvalid.month_le).2.2.1
  have htwo : ∀ n < 100, (paddedDecimal 2 n).toList.length = 2 := fun n hn =>
    (length_paddedDecimal_eq_iff (by decide)).mpr hn
  have hzone : "GMT".toList.length = 3 := rfl
  rw [← length_yearText_eq_iff, t.toList_httpDate]
  simp only [List.length_append, List.length_cons, List.length_nil, hweekday, hmonth, hzone,
    htwo _ t.day_lt, htwo _ t.hour_lt, htwo _ t.minute_lt, htwo _ t.second_lt]
  omega

/-! ### The main statement -/

/-- Timestamps have the same text exactly if they are told as the same second. -/
theorem httpDate_eq_iff (t other : Timestamp) : httpDate t = httpDate other ↔
    t.toldSecond = other.toldSecond ∧ t.inSecondSixty = other.inSecondSixty := by
  constructor
  · intro htext
    have hread := t.read?_httpDate
    rw [htext, other.read?_httpDate] at hread
    have htells := DateFields.tells_fields other
    rw [Option.some.inj hread] at htells
    exact (DateFields.tells_fields t).told_eq htells
  · intro htold
    have hfields : t.fields = other.fields :=
      ((DateFields.tells_fields t).of_told_eq htold).unique (DateFields.tells_fields other)
    rw [← String.toList_inj, t.toList_httpDate, other.toList_httpDate, hfields]

/-- **Dates.** The text of a timestamp reads as fields that tell it. The text of another one is the
same exactly if it lies in the same second, or if one of the two lies in a leap second within a
minute and runs into the other. The text is printable, and has 29 bytes exactly if the year has four
digits. -/
theorem httpDate_tells (t : Timestamp) :
    (∃ fields, DateFields.read? (httpDate t) = some fields ∧ fields.Tells t ∧
      (-262143 ≤ fields.date.year ∧ fields.date.year ≤ 262142) ∧
      ((Utf8.encode (httpDate t)).length = 29 ↔
        0 ≤ fields.date.year ∧ fields.date.year ≤ 9999)) ∧
    (∀ other, httpDate t = httpDate other ↔
      (t.seconds = other.seconds ∧ t.inLeapSecond = other.inLeapSecond) ∨
        t.RunsInto other ∨ other.RunsInto t) ∧
    (httpDate t).toList.all isPrintable = true := by
  have hprintable := isPrintable_httpDate t
  refine ⟨⟨t.fields, t.read?_httpDate, DateFields.tells_fields t, ?_, ?_⟩, fun other => ?_,
    List.all_eq_true.mpr hprintable⟩
  · -- the first and the last day that can be told
    obtain ⟨hlow, hhigh⟩ := t.inRange
    have hfirst : (CivilDate.ofDayNumber (-96465292)).year = -262143 := by decide
    have hlast : (CivilDate.ofDayNumber 95026236).year = 262142 := by decide
    have hday : -96465292 ≤ t.dayNumber ∧ t.dayNumber ≤ 95026236 := by
      rw [firstSecond] at hlow
      rw [lastSecond] at hhigh
      rw [Timestamp.dayNumber]
      omega
    exact ⟨hfirst ▸ CivilDate.year_mono hday.1, hlast ▸ CivilDate.year_mono hday.2⟩
  · rw [Utf8.length_encode_of_isPrintable hprintable]
    exact length_httpDate_eq_iff t
  · exact (httpDate_eq_iff t other).trans (Timestamp.told_eq_iff t other)

/-- A leap second behind the thirty-first second of a minute is not written as second 60: its text is
that of the ordinary second after it, in which the other timestamp lies. -/
theorem leapSecond_written_as_next :
    ∃ t other : Timestamp, (t.seconds = 784887151 ∧ t.nanos = 1500000000) ∧
      (other.seconds = 784887152 ∧ other.nanos = 0) ∧
      t.inLeapSecond = true ∧ other.inLeapSecond = false ∧
      httpDate t = "Tue, 15 Nov 1994 08:12:32 GMT" ∧
      httpDate other = "Tue, 15 Nov 1994 08:12:32 GMT" :=
  ⟨⟨784887151, 1500000000, by decide, by decide⟩, ⟨784887152, 0, by decide, by decide⟩,
    ⟨rfl, rfl⟩, ⟨rfl, rfl⟩, by decide, by decide, by decide, by decide⟩

example : httpDate ⟨-62167219201, 1000000000, by decide, by decide⟩ =
    "Fri, 31 Dec -0001 23:59:60 GMT" := by decide

end RequestSigning
