import SignedPayments.Time.Calendar

/-!
# SignedPayments.Proofs.Time.Calendar

Every day has a date of the calendar (`isValid_ofDays`), and its number is told by that date
(`toDays_ofDays`). So the calendar goes on without gaps in both directions.

A day is counted in two steps, each with its own lemma: the year of its era with the day of
that year (`exists_yearDay`), and the month with the day of that month (`monthAt_bounds`). Years
begin in March here, so a leap day is day 365 of the year before the one that is named for it.
-/

namespace SignedPayments

namespace Date

/-! ### Years of an era -/

/-- Days of an era before one of its years. -/
def daysBefore (year : Int) : Int := 365 * year + year / 4 - year / 100

/-- The year of an era that has a day. -/
def yearAt (day : Int) : Int := (day - day / 1460 + day / 36524 - day / 146096) / 365

/-- A day of an era counts centuries, then spans of four years, then years. Only the last year
of a span has a day more, and in the last span of a century only that of the last one. -/
theorem exists_counts {day : Int} (h0 : 0 ≤ day) (h1 : day < eraDays) :
    ∃ a b c d : Int, (0 ≤ a ∧ a ≤ 3) ∧ (0 ≤ b ∧ b ≤ 24) ∧ (0 ≤ c ∧ c ≤ 3) ∧ (0 ≤ d ∧ d ≤ 365) ∧
      (d = 365 → c = 3 ∧ (b ≠ 24 ∨ a = 3)) ∧ day = 36524 * a + 1461 * b + 365 * c + d := by
  unfold eraDays at h1
  obtain ⟨a, ha⟩ : ∃ a, a = min 3 (day / 36524) := ⟨_, rfl⟩
  obtain ⟨b, hb⟩ : ∃ b, b = (day - 36524 * a) / 1461 := ⟨_, rfl⟩
  obtain ⟨c, hc⟩ : ∃ c, c = min 3 ((day - 36524 * a - 1461 * b) / 365) := ⟨_, rfl⟩
  refine ⟨a, b, c, day - 36524 * a - 1461 * b - 365 * c, ?_, ?_, ?_, ?_, ?_, ?_⟩ <;> omega

theorem daysBefore_eq {a b c : Int} (hb : 0 ≤ b ∧ b ≤ 24) (hc : 0 ≤ c ∧ c ≤ 3) :
    daysBefore (100 * a + 4 * b + c) = 36524 * a + 1461 * b + 365 * c := by
  unfold daysBefore
  omega

theorem yearAt_eq {a b c d : Int} (ha : 0 ≤ a ∧ a ≤ 3) (hb : 0 ≤ b ∧ b ≤ 24)
    (hc : 0 ≤ c ∧ c ≤ 3) (hd : 0 ≤ d ∧ d ≤ 365)
    (hleap : d = 365 → c = 3 ∧ (b ≠ 24 ∨ a = 3)) :
    yearAt (36524 * a + 1461 * b + 365 * c + d) = 100 * a + 4 * b + c := by
  obtain ⟨day, hday⟩ : ∃ day, day = 36524 * a + 1461 * b + 365 * c + d := ⟨_, rfl⟩
  rw [← hday]
  -- The last day of an era counts as one more in both.
  have hcenturies : day / 36524 - day / 146096 = a := by
    by_cases hlast : day = 146096
    · omega
    · have hera : day / 146096 = 0 := by omega
      omega
  -- Spans of 1460 days run ahead of the years, but by no more than the leap days make up for.
  have hspans : 365 * (100 * a + 4 * b + c) ≤ day - day / 1460 + a ∧
      day - day / 1460 + a < 365 * (100 * a + 4 * b + c) + 365 := by
    by_cases hahead : 24 * a + b + 365 * c + d < 1460
    · have hcount : day / 1460 = 25 * a + b := by omega
      omega
    · have hcount : day / 1460 = 25 * a + b + 1 := by omega
      omega
  unfold yearAt
  omega

theorem isLeap_iff {year : Int} :
    isLeap year = true ↔ year % 4 = 0 ∧ (year % 100 ≠ 0 ∨ year % 400 = 0) := by
  simp [isLeap]

/-- The year of a day, and which day of the year it is. -/
theorem exists_yearDay {day : Int} (h0 : 0 ≤ day) (h1 : day < eraDays) :
    ∃ year d, (0 ≤ year ∧ year ≤ 399) ∧ (0 ≤ d ∧ d ≤ 365) ∧
      (d = 365 → isLeap (year + 1) = true) ∧ day = daysBefore year + d ∧ yearAt day = year := by
  obtain ⟨a, b, c, d, ha, hb, hc, hd, hleap, rfl⟩ := exists_counts h0 h1
  refine ⟨100 * a + 4 * b + c, d, by omega, hd, ?_, ?_, yearAt_eq ha hb hc hd hleap⟩
  · intro hlast
    rw [isLeap_iff]
    obtain ⟨rfl, hspan⟩ := hleap hlast
    omega
  · rw [daysBefore_eq hb hc]

/-! ### Months of a year -/

/-- The month of a day of a year, counted from March. -/
def monthAt (day : Int) : Int := (5 * day + 2) / 153

/-- Days of a year before one of its months. -/
def daysBeforeMonth (month : Int) : Int := (153 * month + 2) / 5

/-- How many days a month has that is counted from March. February has 28 here. -/
def monthDays (month : Int) : Int :=
  if month = 11 then 28 else if month = 1 ∨ month = 3 ∨ month = 6 ∨ month = 8 then 30 else 31

theorem monthAt_bounds {day : Int} (h0 : 0 ≤ day) (h1 : day ≤ 365) :
    (0 ≤ monthAt day ∧ monthAt day ≤ 11) ∧ daysBeforeMonth (monthAt day) ≤ day ∧
      (day < daysBeforeMonth (monthAt day) + monthDays (monthAt day) ∨ day = 365) := by
  have hmonth : 0 ≤ monthAt day ∧ monthAt day ≤ 11 := by
    unfold monthAt
    omega
  have hday : 153 * monthAt day ≤ 5 * day + 2 ∧ 5 * day + 2 < 153 * monthAt day + 153 := by
    unfold monthAt
    omega
  refine ⟨hmonth, by unfold daysBeforeMonth; omega, ?_⟩
  generalize monthAt day = month at hmonth hday
  unfold daysBeforeMonth monthDays
  split
  · omega
  split
  · omega
  · omega

/-- The number of a month that is counted from March. -/
def monthNumber (month : Int) : Int := if month < 10 then month + 3 else month - 9

/-- February has a day more in a leap year, the other months have the same days in each. -/
theorem daysIn_monthNumber {month : Int} (h : 0 ≤ month ∧ month ≤ 11) (year : Int) :
    (daysIn year (monthNumber month).toNat : Int) =
      monthDays month + if month = 11 ∧ isLeap year = true then 1 else 0 := by
  have hall : month = 0 ∨ month = 1 ∨ month = 2 ∨ month = 3 ∨ month = 4 ∨ month = 5 ∨
      month = 6 ∨ month = 7 ∨ month = 8 ∨ month = 9 ∨ month = 10 ∨ month = 11 := by omega
  rcases hall with rfl | rfl | rfl | rfl | rfl | rfl | rfl | rfl | rfl | rfl | rfl | rfl
  case inr.inr.inr.inr.inr.inr.inr.inr.inr.inr.inr =>
    cases hleap : isLeap year <;> simp [monthNumber, daysIn, monthDays, hleap]
  all_goals simp [monthNumber, daysIn, monthDays]

/-- The date of a day of a year that begins in March. -/
def ofYearDay (year day : Int) : Date where
  year := if monthNumber (monthAt day) ≤ 2 then year + 1 else year
  month := (monthNumber (monthAt day)).toNat
  day := (day - daysBeforeMonth (monthAt day) + 1).toNat

theorem daysIn_le (year : Int) (month : Nat) : daysIn year month ≤ 31 := by
  unfold daysIn
  split
  · split <;> omega
  · split <;> omega

theorem isValid_iff {d : Date} : d.isValid = true ↔
    (1 ≤ d.month ∧ d.month ≤ 12) ∧ 1 ≤ d.day ∧ d.day ≤ daysIn d.year d.month := by
  simp [isValid, and_assoc]

theorem monthNumber_bounds {month : Int} (h : 0 ≤ month ∧ month ≤ 11) :
    1 ≤ monthNumber month ∧ monthNumber month ≤ 12 := by
  unfold monthNumber
  omega

theorem isValid_ofYearDay {year day : Int} (h0 : 0 ≤ day) (h1 : day ≤ 365)
    (hleap : day = 365 → isLeap (year + 1) = true) : (ofYearDay year day).isValid = true := by
  obtain ⟨hmonth, hlow, hhigh⟩ := monthAt_bounds h0 h1
  have hnumber := monthNumber_bounds hmonth
  have hdays := daysIn_monthNumber hmonth (ofYearDay year day).year
  -- Only the leap day is beyond the days that its month has in every year.
  have hend : day - daysBeforeMonth (monthAt day) + 1 ≤
      daysIn (ofYearDay year day).year (ofYearDay year day).month := by
    rcases hhigh with hhigh | rfl
    · have hle : monthDays (monthAt day) ≤
          daysIn (ofYearDay year day).year (monthNumber (monthAt day)).toNat := by
        rw [hdays]
        split <;> omega
      exact Int.le_trans (by omega) hle
    · have htwentynine : (daysIn (year + 1) 2 : Int) = 29 := by
        simp [daysIn, hleap rfl]
      exact Int.le_of_eq htwentynine.symm
  rw [isValid_iff]
  unfold ofYearDay at hend ⊢
  dsimp only at hend ⊢
  omega

/-- The number of the first day of a year. -/
def firstDay (year : Int) : Int := year / 400 * eraDays + daysBefore (year % 400) - epochOffset

theorem toDays_ofYearDay {year day : Int} (h0 : 0 ≤ day) (h1 : day ≤ 365) :
    (ofYearDay year day).toDays = firstDay year + day := by
  obtain ⟨hmonth, hlow, -⟩ := monthAt_bounds h0 h1
  have hnumber := monthNumber_bounds hmonth
  have hyear : (if (ofYearDay year day).month ≤ 2 then (ofYearDay year day).year - 1
      else (ofYearDay year day).year) = year := by
    unfold ofYearDay
    dsimp only
    split <;> split <;> omega
  have hfrom : (if (ofYearDay year day).month ≤ 2 then ((ofYearDay year day).month : Int) + 9
      else (ofYearDay year day).month - 3) = monthAt day := by
    unfold ofYearDay monthNumber at *
    dsimp only
    omega
  have hday : ((ofYearDay year day).day : Int) = day - daysBeforeMonth (monthAt day) + 1 := by
    unfold ofYearDay
    dsimp only
    omega
  unfold toDays
  rw [hyear, hfrom, hday]
  unfold firstDay daysBefore daysBeforeMonth
  dsimp only
  omega

/-! ### Days -/

theorem exists_ofDays (days : Int) : ∃ year day, (0 ≤ day ∧ day ≤ 365) ∧
    (day = 365 → isLeap (year + 1) = true) ∧ firstDay year + day = days ∧
    ofDays days = ofYearDay year day := by
  obtain ⟨era, hera⟩ : ∃ era, era = (days + epochOffset) / eraDays := ⟨_, rfl⟩
  obtain ⟨dayOfEra, hday⟩ : ∃ dayOfEra, dayOfEra = (days + epochOffset) % eraDays := ⟨_, rfl⟩
  have hrange : 0 ≤ dayOfEra ∧ dayOfEra < eraDays := by
    unfold eraDays at *
    omega
  obtain ⟨year, day, hyear, hbounds, hleap, hcount, hat⟩ := exists_yearDay hrange.1 hrange.2
  refine ⟨year + era * 400, day, hbounds, ?_, ?_, ?_⟩
  · intro hlast
    have hleap := hleap hlast
    rw [isLeap_iff] at hleap ⊢
    omega
  · have hsplit : (year + era * 400) / 400 = era ∧ (year + era * 400) % 400 = year := by omega
    unfold firstDay eraDays at *
    rw [hsplit.1, hsplit.2]
    omega
  · have hdayOfYear : dayOfEra - daysBefore (yearAt dayOfEra) = day := by
      rw [hat, hcount]
      omega
    show ofYearDay (yearAt ((days + epochOffset) % eraDays) + (days + epochOffset) / eraDays * 400)
      ((days + epochOffset) % eraDays - daysBefore (yearAt ((days + epochOffset) % eraDays))) = _
    rw [← hera, ← hday, hdayOfYear, hat]

/-- Every day has a date of the calendar. -/
theorem isValid_ofDays (days : Int) : (ofDays days).isValid = true := by
  obtain ⟨year, day, ⟨h0, h1⟩, hleap, -, hdate⟩ := exists_ofDays days
  rw [hdate]
  exact isValid_ofYearDay h0 h1 hleap

/-- A day is told by its date. -/
theorem toDays_ofDays (days : Int) : (ofDays days).toDays = days := by
  obtain ⟨year, day, ⟨h0, h1⟩, -, hdays, hdate⟩ := exists_ofDays days
  rw [hdate, toDays_ofYearDay h0 h1, hdays]

end Date

end SignedPayments
