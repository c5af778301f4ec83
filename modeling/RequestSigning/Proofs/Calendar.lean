import RequestSigning.Http.Date
import Mathlib.Algebra.Order.Group.Unbundled.Int
import Mathlib.Data.Int.Init
import Mathlib.Tactic.Common

/-!
# The calendar

The proleptic Gregorian calendar is a rule for the day after a day: leap years, the lengths of the
months, and seven weekdays in turn. Together with 1970-01-01, a Thursday, the rule gives every day in
both directions a date and a weekday (`IsDay`). The main statement, `isDay_iff`, is that
`CivilDate.ofDayNumber` computes this date, in whatever year.

The computation counts years from March, so that a leap day is the last day of its year. Such a year
starts on the day `marchStart` and has `marchLength` days, and every day lies in one such year
(`exists_marchYear`). There it has the date `CivilDate.ofMarchYear`, for which the rule is checked
day by day (`CivilDate.next_ofMarchYear`).
-/

namespace RequestSigning

/-! ### The rule -/

/-- Whether a year has a leap day. -/
def isLeapYear (year : Int) : Bool :=
  year % 4 = 0 ∧ (year % 100 ≠ 0 ∨ year % 400 = 0)

/-- Days in a month of a year, with or without a leap day. -/
def monthLength (leap : Bool) (month : Nat) : Nat :=
  match month with
  | 2 => if leap then 29 else 28
  | 4 | 6 | 9 | 11 => 30
  | _ => 31

/-- A date that the calendar has. -/
structure CivilDate.IsValid (date : CivilDate) : Prop where
  month_pos : 1 ≤ date.month
  month_le : date.month ≤ 12
  day_pos : 1 ≤ date.day
  day_le : date.day ≤ monthLength (isLeapYear date.year) date.month

/-- The date of the **day after**. -/
def CivilDate.next (date : CivilDate) : CivilDate :=
  if date.day < monthLength (isLeapYear date.year) date.month then
    ⟨date.year, date.month, date.day + 1⟩
  else if date.month < 12 then ⟨date.year, date.month + 1, 1⟩
  else ⟨date.year + 1, 1, 1⟩

/-- The **weekdays**. -/
inductive Weekday
  | sunday
  | monday
  | tuesday
  | wednesday
  | thursday
  | friday
  | saturday
  deriving DecidableEq

namespace Weekday

/-- The weekday of the day after. -/
def next : Weekday → Weekday
  | sunday => monday
  | monday => tuesday
  | tuesday => wednesday
  | wednesday => thursday
  | thursday => friday
  | friday => saturday
  | saturday => sunday

/-- The first letters of the name. -/
def abbreviation : Weekday → String
  | sunday => "Sun"
  | monday => "Mon"
  | tuesday => "Tue"
  | wednesday => "Wed"
  | thursday => "Thu"
  | friday => "Fri"
  | saturday => "Sat"

end Weekday

/-- The **calendar**: the date and the weekday of a day, by its number from 1970-01-01. -/
inductive IsDay : Int → CivilDate → Weekday → Prop
  | epoch : IsDay 0 ⟨1970, 1, 1⟩ .thursday
  | next {n : Int} {date : CivilDate} {weekday : Weekday} (h : IsDay n date weekday) :
      IsDay (n + 1) date.next weekday.next
  | previous {n : Int} {date : CivilDate} {weekday : Weekday} (hvalid : date.IsValid)
      (h : IsDay (n + 1) date.next weekday.next) : IsDay n date weekday

/-- No two valid dates have the same next day. -/
theorem CivilDate.next_injective {date other : CivilDate} (h : date.IsValid) (hother : other.IsValid)
    (heq : date.next = other.next) : date = other := by
  obtain ⟨year, month, day⟩ := date
  obtain ⟨otherYear, otherMonth, otherDay⟩ := other
  obtain ⟨hmonth, hmonthLe, hday, hdayLe⟩ := h
  obtain ⟨homonth, homonthLe, hoday, hodayLe⟩ := hother
  dsimp only at *
  simp only [next] at heq
  split_ifs at heq <;> simp only [CivilDate.mk.injEq] at heq ⊢ <;>
    grind

theorem Weekday.next_injective {weekday other : Weekday} (h : weekday.next = other.next) :
    weekday = other := by
  cases weekday <;> cases other <;> first | rfl | cases h

/-! ### Years from March -/

/-- The first day of the year from March on, from the first of March of the year 0. -/
def marchStart (year : Int) : Int :=
  365 * year + year / 4 - year / 100 + year / 400

/-- Days in a year, with or without a leap day. -/
def yearLength (leap : Bool) : Nat :=
  if leap then 366 else 365

/-- Days in the year from March on, the last of which is in February of the next year. -/
def marchLength (year : Int) : Nat :=
  yearLength (isLeapYear (year + 1))

/-- Years counted from March follow each other without a gap. -/
theorem marchStart_succ (year : Int) : marchStart (year + 1) = marchStart year + marchLength year := by
  have hleap : isLeapYear (year + 1) = true ↔
      (year + 1) % 4 = 0 ∧ ((year + 1) % 100 ≠ 0 ∨ (year + 1) % 400 = 0) := by
    simp [isLeapYear]
  rw [marchStart, marchStart, marchLength, yearLength]
  split_ifs with h
  · have hrule := hleap.mp h
    omega
  · have hrule := mt hleap.mpr h
    omega

theorem marchLength_bounds (year : Int) : 365 ≤ marchLength year ∧ marchLength year ≤ 366 := by
  rw [marchLength, yearLength]
  split_ifs <;> omega

/-- Every day lies in a year. -/
theorem exists_marchYear (n : Int) :
    ∃ (year : Int) (day : Nat), n + 719468 = marchStart year + day ∧ day < marchLength year := by
  induction n using Int.induction_on with
  | zero => exact ⟨1969, 306, by decide, by decide⟩
  | succ n ih =>
    obtain ⟨year, day, hday, hlt⟩ := ih
    have hnext := marchStart_succ year
    obtain ⟨hlength, -⟩ := marchLength_bounds (year + 1)
    by_cases hlast : day + 1 < marchLength year
    · exact ⟨year, day + 1, by push_cast; omega, hlast⟩
    · exact ⟨year + 1, 0, by push_cast; omega, by omega⟩
  | pred n ih =>
    obtain ⟨year, day, hday, hlt⟩ := ih
    have hbefore := marchStart_succ (year - 1)
    obtain ⟨hlength, -⟩ := marchLength_bounds (year - 1)
    rw [Int.sub_add_cancel] at hbefore
    by_cases hfirst : day = 0
    · exact ⟨year - 1, marchLength (year - 1) - 1, by omega, by omega⟩
    · exact ⟨year, day - 1, by omega, by omega⟩

/-! ### Cycles of 400 years -/

/-- The year of a cycle that a day of the cycle lies in. -/
def cycleYear (day : Nat) : Nat :=
  (day - day / 1460 + day / 36524 - day / 146096) / 365

/-- The first day of a year of a cycle. -/
def cycleStart (year : Nat) : Nat :=
  365 * year + year / 4 - year / 100

/-- Later days of a cycle are in no earlier year. -/
theorem cycleYear_mono {day later : Nat} (h : day ≤ later) : cycleYear day ≤ cycleYear later := by
  have hcycle : ∀ n : Nat, n / 146096 = n / 36524 / 4 := fun n => by
    rw [Nat.div_div_eq_div_mul]
  have hcentury : day / 36524 ≤ later / 36524 := Nat.div_le_div_right h
  rw [cycleYear, cycleYear, hcycle, hcycle]
  refine Nat.div_le_div_right ?_
  omega

/-- The first and the last day of a year are in that year, whether it has 365 days or 366. -/
theorem cycleYear_bounds : ∀ year < 400, cycleYear (cycleStart year) = year ∧
    cycleYear (cycleStart year + (marchLength year - 1)) = year := by
  decide +kernel

/-- The closed formula finds the year a day of the cycle is in. -/
theorem cycleYear_eq {year day : Nat} (hyear : year < 400) (hday : day < marchLength year) :
    cycleYear (cycleStart year + day) = year := by
  obtain ⟨hfirst, hlast⟩ := cycleYear_bounds year hyear
  have hlow : cycleYear (cycleStart year) ≤ cycleYear (cycleStart year + day) :=
    cycleYear_mono (Nat.le_add_right _ _)
  have hhigh : cycleYear (cycleStart year + day) ≤
      cycleYear (cycleStart year + (marchLength year - 1)) := cycleYear_mono (by omega)
  omega

/-! ### The date of a day -/

/-- The month of a day in a year from March on. -/
def marchMonth (day : Nat) : Nat :=
  let m := (5 * day + 2) / 153
  if m < 10 then m + 3 else m - 9

/-- The day of the month of a day in a year from March on. -/
def marchDay (day : Nat) : Nat :=
  day - (153 * ((5 * day + 2) / 153) + 2) / 5 + 1

/-- The months from March to February, day by day: the month's last day comes before the first day of
the next month, and the year's last day is in February. -/
theorem marchMonth_table (leap : Bool) : ∀ day < 366, day < yearLength leap →
    1 ≤ marchMonth day ∧ marchMonth day ≤ 12 ∧ marchDay day ≤ monthLength leap (marchMonth day) ∧
      if marchDay day < monthLength leap (marchMonth day) then
        day + 1 < yearLength leap ∧ marchMonth (day + 1) = marchMonth day ∧
          marchDay (day + 1) = marchDay day + 1
      else if day + 1 < yearLength leap then
        marchMonth (day + 1) = marchMonth day % 12 + 1 ∧ marchDay (day + 1) = 1 ∧ marchMonth day ≠ 2
      else marchMonth day = 2 := by
  cases leap <;> decide +kernel

namespace CivilDate

/-- The date of a day in a year from March on. -/
def ofMarchYear (year : Int) (day : Nat) : CivilDate :=
  ⟨year + (if marchMonth day ≤ 2 then 1 else 0), marchMonth day, marchDay day⟩

@[simp] theorem ofMarchYear_month (year : Int) (day : Nat) :
    (ofMarchYear year day).month = marchMonth day := rfl

@[simp] theorem ofMarchYear_day (year : Int) (day : Nat) :
    (ofMarchYear year day).day = marchDay day := rfl

/-- The date of a day is its day of the March year it falls in. -/
theorem ofDayNumber_eq {n year : Int} {day : Nat} (h : n + 719468 = marchStart year + day)
    (hday : day < marchLength year) : ofDayNumber n = ofMarchYear year day := by
  obtain ⟨cycle, hcycle⟩ : ∃ cycle, cycle = year / 400 := ⟨_, rfl⟩
  obtain ⟨y, hy⟩ : ∃ y, y = (year % 400).toNat := ⟨_, rfl⟩
  have hyear : year = y + cycle * 400 := by omega
  have hlt : y < 400 := by omega
  -- the rule for leap years is the same in every cycle
  have hlength : marchLength year = marchLength y := by
    have hleap : isLeapYear (year + 1) = isLeapYear (y + 1) := by
      rw [isLeapYear, isLeapYear, decide_eq_decide]
      omega
    rw [marchLength, marchLength, hleap]
  have hstart : marchStart year = cycle * 146097 + cycleStart y := by
    rw [marchStart, cycleStart]
    omega
  have hwithin : cycleStart y + day < 146097 := by
    have hend := marchStart_succ y
    rw [marchStart, marchStart, ← hlength] at hend
    rw [cycleStart]
    omega
  have hdiv : (n + 719468) / 146097 = cycle := by omega
  have hmod : ((n + 719468) % 146097).toNat = cycleStart y + day := by omega
  have hfound := cycleYear_eq hlt (hlength ▸ hday)
  have hrest : cycleStart y + day - cycleStart y = day := Nat.add_sub_cancel_left _ _
  rw [cycleYear] at hfound
  rw [cycleStart] at hfound hrest
  rw [ofDayNumber, ofMarchYear, marchMonth, marchDay]
  simp only [hdiv, hmod, cycleStart, hfound, hrest, ← hyear]

/-- What follows the leap day is in the year that has it. -/
theorem monthLength_ofMarchYear (year : Int) (day : Nat) :
    monthLength (isLeapYear (ofMarchYear year day).year) (ofMarchYear year day).month =
      monthLength (isLeapYear (year + 1)) (marchMonth day) := by
  by_cases hmonth : marchMonth day = 2
  · simp only [ofMarchYear, hmonth, Nat.le_refl, if_true]
  · have hany : ∀ leap other, monthLength leap (marchMonth day) = monthLength other (marchMonth day) := by
      intro leap other
      unfold monthLength
      split <;> first | contradiction | rfl
    exact hany _ _

theorem isValid_ofMarchYear {year : Int} {day : Nat} (h : day < marchLength year) :
    (ofMarchYear year day).IsValid := by
  obtain ⟨-, hshort⟩ := marchLength_bounds year
  obtain ⟨hlow, hhigh, hday, -⟩ := marchMonth_table _ day (by omega) h
  refine ⟨hlow, hhigh, Nat.le_add_left _ _, ?_⟩
  rw [monthLength_ofMarchYear]
  exact hday

/-- **The day after**, within a year and at its end. -/
theorem next_ofMarchYear {year : Int} {day : Nat} (h : day < marchLength year) :
    (ofMarchYear year day).next =
      if day + 1 < marchLength year then ofMarchYear year (day + 1)
      else ofMarchYear (year + 1) 0 := by
  obtain ⟨-, hshort⟩ := marchLength_bounds year
  obtain ⟨hlow, hhigh, -, hstep⟩ := marchMonth_table _ day (by omega) h
  rw [next, monthLength_ofMarchYear, marchLength]
  by_cases hinside : (ofMarchYear year day).day <
      monthLength (isLeapYear (year + 1)) (marchMonth day)
  · -- the month goes on
    rw [if_pos (ofMarchYear_day year day ▸ hinside)] at hstep
    obtain ⟨hyear, hmonth, hnext⟩ := hstep
    rw [if_pos hinside, if_pos hyear]
    simp only [ofMarchYear, hmonth, hnext]
  · rw [if_neg (ofMarchYear_day year day ▸ hinside)] at hstep
    rw [if_neg hinside]
    by_cases hyear : day + 1 < yearLength (isLeapYear (year + 1))
    · -- the next month begins, and with January the next year
      rw [if_pos hyear] at hstep ⊢
      obtain ⟨hmonth, hnext, hne⟩ := hstep
      by_cases hdecember : (ofMarchYear year day).month < 12
      · rw [if_pos hdecember]
        rw [ofMarchYear_month] at hdecember
        simp only [ofMarchYear, hmonth, hnext, CivilDate.mk.injEq, and_true]
        omega
      · rw [if_neg hdecember]
        rw [ofMarchYear_month] at hdecember
        simp only [ofMarchYear, hmonth, hnext, CivilDate.mk.injEq, and_true]
        omega
    · -- February is over
      rw [if_neg hyear] at hstep ⊢
      have hfirst : marchMonth 0 = 3 ∧ marchDay 0 = 1 := by decide
      simp [ofMarchYear, hstep, hfirst]

/-- Each day number is a date the calendar has. -/
theorem isValid_ofDayNumber (n : Int) : (ofDayNumber n).IsValid := by
  obtain ⟨year, day, hday, hlt⟩ := exists_marchYear n
  rw [ofDayNumber_eq hday hlt]
  exact isValid_ofMarchYear hlt

/-- The next day number is the next date, over the ends of months, years and cycles. -/
theorem ofDayNumber_succ (n : Int) : ofDayNumber (n + 1) = (ofDayNumber n).next := by
  obtain ⟨year, day, hday, hlt⟩ := exists_marchYear n
  rw [ofDayNumber_eq hday hlt, next_ofMarchYear hlt]
  split_ifs with hlast
  · exact ofDayNumber_eq (by push_cast; omega) hlast
  · have hnext := marchStart_succ year
    obtain ⟨hlength, -⟩ := marchLength_bounds (year + 1)
    exact ofDayNumber_eq (by push_cast; omega) (by omega)

/-- A date belongs to one day. -/
theorem ofDayNumber_injective {n m : Int} (h : ofDayNumber n = ofDayNumber m) : n = m := by
  obtain ⟨year, day, hday, hlt⟩ := exists_marchYear n
  obtain ⟨otherYear, otherDay, hother, hotherLt⟩ := exists_marchYear m
  rw [ofDayNumber_eq hday hlt, ofDayNumber_eq hother hotherLt, ofMarchYear, ofMarchYear,
    CivilDate.mk.injEq] at h
  obtain ⟨hyear, hmonth, hdayOfMonth⟩ := h
  -- the month and the day of the month tell the day of the year
  have htell : ∀ day < 366, (153 * ((marchMonth day + 9) % 12) + 2) / 5 + marchDay day = day + 1 := by
    decide +kernel
  have hfirst := htell day (hlt.trans_le (marchLength_bounds year).2)
  have hsecond := htell otherDay (hotherLt.trans_le (marchLength_bounds otherYear).2)
  rw [hmonth, hdayOfMonth] at hfirst
  have hsame : day = otherDay := by omega
  rw [hmonth] at hyear
  have hsameYear : year = otherYear := by omega
  rw [hsameYear, hsame] at hday
  omega

/-- Later days are not in earlier years. -/
theorem year_mono {n m : Int} (h : n ≤ m) : (ofDayNumber n).year ≤ (ofDayNumber m).year := by
  have hnext : ∀ date : CivilDate, date.year ≤ date.next.year := by
    intro date
    rw [next]
    split_ifs <;> dsimp only <;> omega
  induction m, h using Int.leInduction with
  | base => exact le_refl _
  | succ m _ ih =>
    rw [ofDayNumber_succ]
    exact ih.trans (hnext _)

end CivilDate

/-! ### The weekday of a day -/

namespace Weekday

/-- The weekdays by their number from Sunday. -/
def ofIndex : Nat → Weekday
  | 0 => sunday
  | 1 => monday
  | 2 => tuesday
  | 3 => wednesday
  | 4 => thursday
  | 5 => friday
  | _ => saturday

/-- The weekday of a day, by its number from 1970-01-01. -/
def ofDayNumber (n : Int) : Weekday :=
  ofIndex ((n + 4) % 7).toNat

/-- The next day number is the next weekday. -/
theorem ofDayNumber_succ (n : Int) : ofDayNumber (n + 1) = (ofDayNumber n).next := by
  have hturn : ∀ i < 7, ofIndex ((i + 1) % 7) = (ofIndex i).next := by decide
  have hindex : ((n + 1 + 4) % 7).toNat = (((n + 4) % 7).toNat + 1) % 7 := by omega
  rw [ofDayNumber, hindex]
  exact hturn _ (by omega)

theorem weekdayName_eq (n : Int) : weekdayName n = (ofDayNumber n).abbreviation := by
  have hname : ∀ i < 7, weekdayNames.getD i "" = (ofIndex i).abbreviation := by decide
  exact hname _ (by omega)

end Weekday

/-! ### The main statement -/

/-- The date and the weekday of a day number are the ones the calendar counts to. -/
theorem isDay_ofDayNumber (n : Int) :
    IsDay n (CivilDate.ofDayNumber n) (Weekday.ofDayNumber n) := by
  induction n using Int.induction_on with
  | zero =>
    have hdate : CivilDate.ofDayNumber 0 = ⟨1970, 1, 1⟩ := by decide
    rw [hdate]
    exact .epoch
  | succ n ih =>
    rw [CivilDate.ofDayNumber_succ, Weekday.ofDayNumber_succ]
    exact ih.next
  | pred n ih =>
    refine .previous (CivilDate.isValid_ofDayNumber _) ?_
    rwa [← CivilDate.ofDayNumber_succ, ← Weekday.ofDayNumber_succ, Int.sub_add_cancel]

/-- **The calendar.** The date and the weekday of a day are those that are computed. -/
theorem isDay_iff {n : Int} {date : CivilDate} {weekday : Weekday} :
    IsDay n date weekday ↔
      date = CivilDate.ofDayNumber n ∧ weekday = Weekday.ofDayNumber n := by
  refine ⟨fun h => ?_, fun ⟨hdate, hweekday⟩ => hdate ▸ hweekday ▸ isDay_ofDayNumber n⟩
  induction h with
  | epoch => decide
  | next _ ih =>
    rw [CivilDate.ofDayNumber_succ, Weekday.ofDayNumber_succ, ih.1, ih.2]
    exact ⟨rfl, rfl⟩
  | previous hvalid _ ih =>
    rw [CivilDate.ofDayNumber_succ, Weekday.ofDayNumber_succ] at ih
    exact ⟨CivilDate.next_injective hvalid (CivilDate.isValid_ofDayNumber _) ih.1,
      Weekday.next_injective ih.2⟩

end RequestSigning
