import SignedPayments.Proofs.Text.Blank
import SignedPayments.Proofs.Time.Calendar
import SignedPayments.Time.Timestamp

/-!
# SignedPayments.Proofs.Time.Timestamp

A written point in time is read again to the microsecond (`ofChars_chars`), in the years with
a sign and in leap seconds too, and nothing more is read than what was written. Hence the text
tells the microsecond and nothing else (`format_tells`).

Nanoseconds beyond a second are told only after second 59, as a leap second. At any other second
they are written in the next one (`chars_carried`), and then read there.

Each reader takes what the writer wrote for it and leaves what follows, whatever that is; only
the digits of a year with a sign need a mark after them.
-/

namespace SignedPayments

/-! ### Microseconds -/

namespace Instant

/-- The beginning of the microsecond of a point. -/
def wholeMicros (t : Instant) : Instant where
  seconds := t.seconds
  nanos := t.nanos / 1000 * 1000
  least_le := t.least_le
  le_most := t.le_most
  nanos_lt := by
    have hnanos := t.nanos_lt
    omega

/-- A point with nanoseconds beyond a second carries them into the next one, if there is no leap
second between. -/
def carried (t : Instant) : Instant :=
  if h : t.InPlace then t
  else
    { seconds := t.seconds + 1
      nanos := t.nanos - 1000000000
      least_le := by
        have hleast := t.least_le
        omega
      le_most := by
        have hmost := t.le_most
        unfold InPlace at h
        omega
      nanos_lt := by
        have hnanos := t.nanos_lt
        omega }

section

variable {t : Instant}

theorem carried_of_inPlace (h : t.InPlace) : t.carried = t := dif_pos h

theorem seconds_carried (h : ¬t.InPlace) : t.carried.seconds = t.seconds + 1 := by
  rw [carried, dif_neg h]

theorem nanos_carried (h : ¬t.InPlace) : t.carried.nanos = t.nanos - 1000000000 := by
  rw [carried, dif_neg h]

theorem inPlace_carried (t : Instant) : t.carried.InPlace := by
  by_cases h : t.InPlace
  · rwa [carried_of_inPlace h]
  · have hnanos := t.nanos_lt
    refine .inl ?_
    rw [nanos_carried h]
    omega

end

/-- Whether two points lie in one microsecond. -/
def SameMicrosecond (t u : Instant) : Prop :=
  t.seconds = u.seconds ∧ t.nanos / 1000 = u.nanos / 1000

theorem wholeMicros_eq_iff {t u : Instant} :
    t.wholeMicros = u.wholeMicros ↔ t.SameMicrosecond u := by
  rw [wholeMicros, wholeMicros, Instant.mk.injEq, SameMicrosecond]
  omega

end Instant

namespace Timestamp

/-! ### Numbers -/

theorem length_le_byteLength (cs : List Char) : cs.length ≤ byteLength cs := by
  induction cs with
  | nil => exact Nat.zero_le _
  | cons c cs ih =>
      have hsplit : byteLength (c :: cs) = c.utf8Size + byteLength cs := by
        rw [byteLength, String.ofList_cons, String.utf8ByteSize_append, String.utf8ByteSize_singleton]
        rfl
      have hpos := c.utf8Size_pos
      rw [List.length_cons, hsplit]
      omega

/-- The digits that a number takes. -/
def taken (most : Option Nat) (cs : List Char) : List Char :=
  match most with
  | some n => (cs.take n).takeWhile Digits.isDigit
  | none => cs.takeWhile Digits.isDigit

section

variable {least width n : Nat} {rest : List Char}

/-- Digits are read as their number if there are enough of them and nothing else is taken. -/
theorem number_of_taken {most : Option Nat} {digits : List Char}
    (htaken : taken most (digits ++ rest) = digits) (hleast : least ≤ digits.length)
    (hvalue : Digits.value digits < 2 ^ 63) :
    number least most (digits ++ rest) = .ok (Digits.value digits, rest) := by
  have hbytes : least ≤ byteLength (digits ++ rest) := by
    have hlength := length_le_byteLength (digits ++ rest)
    rw [List.length_append] at hlength
    omega
  show (if byteLength (digits ++ rest) < least then .error .tooShort
    else if (taken most (digits ++ rest)).length < least then .error .invalid
    else if 2 ^ 63 ≤ Digits.value (taken most (digits ++ rest)) then .error .outOfRange
    else .ok (Digits.value (taken most (digits ++ rest)),
      (digits ++ rest).drop (taken most (digits ++ rest)).length) : Except Fault (Nat × List Char)) = _
  rw [htaken, if_neg (by omega), if_neg (by omega), if_neg (by omega), List.drop_left]

/-- A number of a given width is read, whatever follows it. -/
theorem number_padded (hwidth : 0 < width) (hn : n < 10 ^ width) (hleast : least ≤ width)
    (hvalue : n < 2 ^ 63) (rest : List Char) :
    number least (some width) (Digits.padded width n ++ rest) = .ok (n, rest) := by
  have hlength := Digits.length_padded hwidth hn
  have htaken : taken (some width) (Digits.padded width n ++ rest) = Digits.padded width n := by
    rw [taken, List.take_left' hlength]
    exact takeWhile_eq_self fun c => Digits.isDigit_of_mem_padded
  rw [number_of_taken htaken (by omega) (by rwa [Digits.value_padded]), Digits.value_padded]

/-- A number of any width is read up to the first character that is no digit. -/
theorem number_padded_mark (hleast : least ≤ width) (hvalue : n < 2 ^ 63) {c : Char}
    (hc : Digits.isDigit c = false) :
    number least none (Digits.padded width n ++ c :: rest) = .ok (n, c :: rest) := by
  have hlength := Digits.le_length_padded width n
  have htaken : taken none (Digits.padded width n ++ c :: rest) = Digits.padded width n :=
    takeWhile_append_stop (fun c => Digits.isDigit_of_mem_padded) (by simpa using hc)
  rw [number_of_taken htaken (by omega) (by rwa [Digits.value_padded]), Digits.value_padded]

/-- A written number begins with a digit. -/
theorem exists_padded_eq_cons (hwidth : 0 < width) (n : Nat) :
    ∃ d ds, Digits.padded width n = d :: ds ∧ Digits.isDigit d = true := by
  have hlength := Digits.le_length_padded width n
  obtain ⟨d, ds, hds⟩ := List.exists_cons_of_length_pos (Nat.lt_of_lt_of_le hwidth hlength)
  exact ⟨d, ds, hds, Digits.isDigit_of_mem_padded (hds ▸ List.mem_cons_self)⟩

/-- No blanks stand before a written number. -/
theorem trimFront_padded (hwidth : 0 < width) (n : Nat) (rest : List Char) :
    trimFront (Digits.padded width n ++ rest) = Digits.padded width n ++ rest := by
  obtain ⟨d, ds, hds, hdigit⟩ := exists_padded_eq_cons hwidth n
  rw [hds]
  exact trimFront_eq_self (by simpa using isBlank_of_isDigit hdigit)

theorem field_padded {low high : Nat} (hlow : low ≤ n) (hhigh : n ≤ high) (hn : n < 100)
    (rest : List Char) : field low high (Digits.padded 2 n ++ rest) = .ok (n, rest) := by
  unfold field
  rw [trimFront_padded (by decide), number_padded (by decide) hn (by decide) (by omega)]
  show (if low ≤ n ∧ n ≤ high then pure (n, rest) else throw Fault.outOfRange) = _
  rw [if_pos ⟨hlow, hhigh⟩]
  rfl

end

/-! ### Years -/

section

variable {n : Nat} {ds rest : List Char}

/-- Where no sign stands, a year has at most four digits. -/
theorem yearField_of_digit {d : Char} (hd : Digits.isDigit d = true)
    (h : number 1 (some 4) (d :: ds) = .ok (n, rest)) (hn : n ≤ 2147483647) :
    yearField (d :: ds) = .ok ((n : Int), rest) := by
  unfold yearField
  rw [trimFront_eq_self (by simpa using isBlank_of_isDigit hd)]
  dsimp only
  split
  · next heq =>
    cases heq
    cases hd
  · next heq =>
    cases heq
    cases hd
  · simp only [h, bind, Except.bind, pure, Except.pure]
    rw [if_pos (by omega)]

theorem yearField_of_minus (h : number 1 none ds = .ok (n, rest)) (hn : n ≤ 2147483648) :
    yearField ('-' :: ds) = .ok (-(n : Int), rest) := by
  unfold yearField
  rw [trimFront_eq_self (by simp [isBlank])]
  dsimp only
  simp only [h, bind, Except.bind, pure, Except.pure]
  rw [if_pos (by omega)]

theorem yearField_of_plus (h : number 1 none ds = .ok (n, rest)) (hn : n ≤ 2147483647) :
    yearField ('+' :: ds) = .ok ((n : Int), rest) := by
  unfold yearField
  rw [trimFront_eq_self (by simp [isBlank])]
  dsimp only
  simp only [h, bind, Except.bind, pure, Except.pure]
  rw [if_pos (by omega)]

end

theorem yearField_yearText {year : Int} (h : -2147483648 ≤ year ∧ year ≤ 2147483647)
    (rest : List Char) : yearField (yearText year ++ '-' :: rest) = .ok (year, '-' :: rest) := by
  unfold yearText
  split
  · next hplain =>
    obtain ⟨d, ds, hds, hdigit⟩ := exists_padded_eq_cons (by decide : 0 < 4) year.toNat
    have hread : number 1 (some 4) (Digits.padded 4 year.toNat ++ '-' :: rest) =
        .ok (year.toNat, '-' :: rest) :=
      number_padded (by decide) (by omega) (by decide) (by omega) _
    rw [hds, List.cons_append] at hread ⊢
    rw [yearField_of_digit hdigit hread (by omega), Int.toNat_of_nonneg hplain.1]
  · next hsigned =>
    have hread : number 1 none (Digits.padded 4 year.natAbs ++ '-' :: rest) =
        .ok (year.natAbs, '-' :: rest) :=
      number_padded_mark (by decide) (by omega) (by decide)
    rw [List.cons_append]
    split
    · rw [yearField_of_minus hread (by omega), Int.ofNat_natAbs_of_nonpos (by omega), Int.neg_neg]
    · rw [yearField_of_plus hread (by omega), Int.natAbs_of_nonneg (by omega)]

/-! ### Points -/

/-- The years of all points fit 32 bits. -/
theorem year_bounds (t : Instant) : -2147483648 ≤ (Date.ofDays t.days).year ∧
    (Date.ofDays t.days).year ≤ 2147483647 := by
  obtain ⟨year, day, hday, -, hdays, hdate⟩ := Date.exists_ofDays t.days
  have hleast := t.least_le
  have hmost := t.le_most
  have hyear : (Date.ofYearDay year day).year = year ∨ (Date.ofYearDay year day).year = year + 1 := by
    unfold Date.ofYearDay
    dsimp only
    split
    · exact .inr rfl
    · exact .inl rfl
  rw [hdate]
  unfold Instant.days Date.firstDay Date.daysBefore Date.eraDays Date.epochOffset at hdays
  omega

/-- Nanoseconds beyond a second are written where they are carried to. -/
theorem chars_carried (t : Instant) : chars t.carried = chars t := by
  by_cases h : t.InPlace
  · rw [Instant.carried_of_inPlace h]
  have hseconds := Instant.seconds_carried h
  have hnanos := Instant.nanos_carried h
  have hlt := t.nanos_lt
  have hbeyond : 1000000000 ≤ t.nanos ∧ t.seconds % 60 ≠ 59 := by
    unfold Instant.InPlace at h
    omega
  have hdays : t.carried.days = t.days := by
    unfold Instant.days
    omega
  have hsecond : t.carried.secondOfDay = t.secondOfDay + 1 := by
    unfold Instant.secondOfDay
    omega
  have hmicros : t.carried.micros = t.micros := by
    unfold Instant.micros
    omega
  have hleap : t.isLeap = true := decide_eq_true hbeyond.1
  have hleap' : t.carried.isLeap = false := decide_eq_false (by omega)
  -- The next second is one of the same minute.
  have hminute : t.secondOfDay % 60 ≠ 59 := by
    unfold Instant.secondOfDay
    omega
  have hhour : (t.secondOfDay + 1) / 3600 = t.secondOfDay / 3600 := by omega
  have hsixtieth : (t.secondOfDay + 1) / 60 % 60 = t.secondOfDay / 60 % 60 := by omega
  have hwritten : (t.secondOfDay + 1) % 60 + 0 = t.secondOfDay % 60 + 1 := by omega
  unfold chars
  simp only [hdays, hsecond, hmicros, hleap, hleap', hhour, hsixtieth, hwritten, if_true,
    Bool.false_eq_true, if_false]

section

variable {t : Instant} (hplace : t.InPlace)

include hplace

/-- Second 60 is written in a leap second, and only there. -/
theorem writtenSecond_eq_iff :
    t.secondOfDay % 60 + (if t.isLeap then 1 else 0) = 60 ↔ t.isLeap = true := by
  unfold Instant.InPlace at hplace
  unfold Instant.isLeap Instant.secondOfDay
  simp only [decide_eq_true_eq]
  split <;> omega

/-- The written date and time of day are those of the beginning of the microsecond. -/
theorem assemble_eq :
    assemble (Date.ofDays t.days) (t.secondOfDay / 3600) (t.secondOfDay / 60 % 60)
      (t.secondOfDay % 60 + if t.isLeap then 1 else 0) t.micros = .ok t.wholeMicros := by
  have hwhole : t.wholeMicros.InPlace :=
    hplace.imp_left (Nat.lt_of_le_of_lt (Nat.div_mul_le_self _ _))
  have hof : ∀ seconds nanos, seconds = t.seconds → nanos = t.nanos / 1000 * 1000 →
      Instant.of? seconds nanos = some t.wholeMicros := by
    rintro _ _ rfl rfl
    exact Instant.of?_of_inPlace hwhole
  have hnanos := t.nanos_lt
  have hleap : t.isLeap = decide (1000000000 ≤ t.nanos) := rfl
  have hday : t.days * 86400 + t.secondOfDay = t.seconds := by
    unfold Instant.days Instant.secondOfDay
    omega
  have hmicros : t.micros = t.nanos % 1000000000 / 1000 := rfl
  unfold assemble
  dsimp only
  rw [if_pos (Date.isValid_ofDays t.days), Date.toDays_ofDays]
  simp only [writtenSecond_eq_iff hplace]
  by_cases h : t.isLeap = true
  · have hsixty := (writtenSecond_eq_iff hplace).mpr h
    have hlarge : 1000000000 ≤ t.nanos := by simpa [hleap] using h
    simp only [h, if_true] at hsixty ⊢
    rw [hof _ _ (by omega) (by omega)]
  · have hsmall : ¬ 1000000000 ≤ t.nanos := by simpa [hleap] using h
    simp only [h, Bool.false_eq_true, if_false]
    rw [hof _ _ (by omega) (by omega)]

end

theorem mark_cons (c : Char) (rest : List Char) : mark c (c :: rest) = .ok rest := if_pos rfl

/-- What was written is read to the microsecond, and what follows it is too much. -/
theorem ofChars_chars {t : Instant} (hplace : t.InPlace) (more : List Char) :
    ofChars (chars t ++ more) = if more = [] then .ok t.wholeMicros else .error .trailing := by
  obtain ⟨⟨hleast, hmost⟩, hone, hlast⟩ := Date.isValid_iff.mp (Date.isValid_ofDays t.days)
  have hlong := Date.daysIn_le (Date.ofDays t.days).year (Date.ofDays t.days).month
  have hday : t.secondOfDay < 86400 := by
    unfold Instant.secondOfDay
    omega
  have hsixth : t.micros < 10 ^ 6 := by
    unfold Instant.micros
    omega
  have hsixty : t.secondOfDay % 60 + (if t.isLeap then 1 else 0) ≤ 60 := by
    split <;> omega
  -- Each reader takes what its writer wrote.
  have hyear := yearField_yearText (year_bounds t)
  have hmonth := field_padded hleast hmost (by omega)
  have hdate := field_padded hone (Nat.le_trans hlast hlong) (by omega)
  have hhour : ∀ rest, field 0 23 (Digits.padded 2 (t.secondOfDay / 3600) ++ rest) = _ :=
    field_padded (by omega) (by omega) (by omega)
  have hminute : ∀ rest, field 0 59 (Digits.padded 2 (t.secondOfDay / 60 % 60) ++ rest) = _ :=
    field_padded (by omega) (by omega) (by omega)
  have hsecond := field_padded (Nat.zero_le _) hsixty (by omega)
  have hmicros : ∀ rest, fraction ('.' :: (Digits.padded 6 t.micros ++ rest)) = _ :=
    number_padded (by decide) hsixth (by decide) (by omega)
  unfold chars ofChars
  simp only [List.append_assoc, List.cons_append, bind, Except.bind, hyear, mark_cons, hmonth, hdate,
    hhour, hminute, hsecond, hmicros]
  rw [assemble_eq hplace]
  rfl

theorem parse_format (t : Instant) (more : String) :
    parse (format t ++ more) =
      if more = "" then .ok t.carried.wholeMicros else .error .trailing := by
  rw [parse, format, String.toList_append, String.toList_ofList, ← chars_carried,
    ofChars_chars t.inPlace_carried]
  simp

/-- A point is read at the microsecond that its text shows. -/
theorem parse_format_self (t : Instant) : parse (format t) = .ok t.carried.wholeMicros := by
  have hparse := parse_format t ""
  rwa [String.append_empty, if_pos rfl] at hparse

/-- The text shows nothing below microseconds. -/
theorem format_eq_of_sameMicrosecond {t u : Instant} (h : t.SameMicrosecond u) :
    format t = format u := by
  obtain ⟨hseconds, hnanos⟩ := h
  have hdays : t.days = u.days := congrArg (· / 86400) hseconds
  have hsecond : t.secondOfDay = u.secondOfDay := congrArg (fun s => (s % 86400).toNat) hseconds
  have hleap : t.isLeap = u.isLeap := by
    unfold Instant.isLeap
    rw [decide_eq_decide]
    omega
  have hmicros : t.micros = u.micros := by
    unfold Instant.micros
    omega
  unfold format chars
  rw [hdays, hsecond, hleap, hmicros]

/-- A written point in time is read again as the beginning of the microsecond that it is carried
to, and only if nothing follows it. So it is read in its own microsecond exactly if it is in its
place, and two points have one text exactly if they are carried to one microsecond. -/
theorem format_tells :
    (∀ (t : Instant) (more : String), parse (format t ++ more) =
      if more = "" then .ok t.carried.wholeMicros else .error .trailing) ∧
    (∀ t : Instant, parse (format t) = .ok t.wholeMicros ↔ t.InPlace) ∧
    ∀ t u : Instant, format t = format u ↔ t.carried.SameMicrosecond u.carried := by
  refine ⟨parse_format, fun t => ?_, fun t u => ⟨fun h => ?_, fun h => ?_⟩⟩
  · rw [parse_format_self, Except.ok.injEq, Instant.wholeMicros_eq_iff]
    constructor
    · intro hsame
      -- A point that is carried on is not in its own second.
      refine Decidable.byContradiction fun hnot => ?_
      have hseconds := hsame.1
      rw [Instant.seconds_carried hnot] at hseconds
      omega
    · intro hplace
      rw [Instant.carried_of_inPlace hplace]
      exact ⟨rfl, rfl⟩
  · -- One text is read as one point.
    have hsame := (parse_format_self t).symm.trans (h ▸ parse_format_self u)
    exact Instant.wholeMicros_eq_iff.mp (Except.ok.inj hsame)
  · have hcarried := format_eq_of_sameMicrosecond h
    unfold format at hcarried ⊢
    rwa [chars_carried, chars_carried] at hcarried

/-- So a point with a second and a half of nanoseconds, in the middle of a minute, has the text of
half a second after the next one, and is read there. -/
theorem format_within_minute : ∃ t u : Instant,
    t.seconds = 1646122354 ∧ t.nanos = 1500000000 ∧
    format t = "2022-03-01T08:12:35.500000" ∧ parse (format t) = .ok u ∧ u ≠ t.wholeMicros ∧
    format u = format t ∧ ¬t.SameMicrosecond u := by
  let t : Instant := ⟨1646122354, 1500000000, by decide, by decide, by decide⟩
  let u : Instant := ⟨1646122355, 500000000, by decide, by decide, by decide⟩
  have hcarried : t.carried.wholeMicros = u := by decide
  have hread : parse (format t) = .ok u := hcarried ▸ parse_format_self t
  refine ⟨t, u, rfl, rfl, by decide +kernel, hread, by decide, by decide +kernel, ?_⟩
  unfold Instant.SameMicrosecond
  decide

end Timestamp

end SignedPayments
