import SignedPayments.Config
import SignedPayments.Proofs.Text.Blank

/-!
# SignedPayments.Proofs.Config

How a configuration is completed from environments.

* `WritesSeconds` says which texts are numbers of seconds, by their characters. They are
  those that are read as such (`secondsOfText_eq_ok_iff`).
* What is said stays, and what is not said is looked up (`Loaded`).
* Loading twice is loading once from both environments together, where a value that cannot be
  used does not stand in the way of one that can (`Environment.over`). So the order of loads
  is an order of precedence.
-/

namespace SignedPayments

namespace Config

/-! ### Numbers of seconds -/

/-- A text that writes a number of seconds: digits, with a plus sign before them or none, and
blanks around. The number has 64 bits and is not zero. -/
structure WritesSeconds (text : String) (n : Nat) : Prop where
  written : ∃ front sign digits back, text.toList = front ++ (sign ++ digits) ++ back ∧
    AllBlank front ∧ AllBlank back ∧ (sign = [] ∨ sign = ['+']) ∧
    digits ≠ [] ∧ (∀ c ∈ digits, Digits.isDigit c = true) ∧ Digits.value digits = n
  one_le : 1 ≤ n
  le_most : n ≤ 2 ^ 64 - 1

theorem secondsOfDigits_eq_ok_iff {digits : List Char} {n : Nat} :
    secondsOfDigits digits = .ok n ↔
      (∀ c ∈ digits, Digits.isDigit c = true) ∧ Digits.value digits = n ∧
        1 ≤ n ∧ n ≤ 2 ^ 64 - 1 := by
  unfold secondsOfDigits
  dsimp only
  by_cases hdigits : ∀ c ∈ digits, Digits.isDigit c = true
  · have htake : digits.takeWhile Digits.isDigit = digits := takeWhile_eq_self hdigits
    have hany : digits.any (!Digits.isDigit ·) = false := by simpa using hdigits
    rw [htake, hany]
    grind
  · have hany : digits.any (!Digits.isDigit ·) = true := by simpa using hdigits
    rw [hany]
    grind

/-- After trimming, there is a sign or none, and then the digits. -/
theorem secondsOfText_of_trim {text : String} {sign digits : List Char}
    (htrim : trim text.toList = sign ++ digits) (hsign : sign = [] ∨ sign = ['+'])
    (hne : digits ≠ []) (hdigits : ∀ c ∈ digits, Digits.isDigit c = true) :
    secondsOfText text = secondsOfDigits digits := by
  unfold secondsOfText
  obtain ⟨d, rest, rfl⟩ := List.exists_cons_of_ne_nil hne
  have hd := hdigits d List.mem_cons_self
  rw [htrim]
  rcases hsign with rfl | rfl
  · have hplus : d ≠ '+' := by
      rintro rfl
      cases hd
    split <;> simp_all
  · rfl

/-- What is read as a number of seconds is a sign or none, and digits. -/
theorem exists_trim_of_secondsOfText {text : String} {n : Nat} (h : secondsOfText text = .ok n) :
    ∃ sign digits, trim text.toList = sign ++ digits ∧ (sign = [] ∨ sign = ['+']) ∧
      digits ≠ [] ∧ secondsOfDigits digits = .ok n := by
  unfold secondsOfText at h
  split at h
  · cases h
  · cases h
  · next digits hne htrim =>
    exact ⟨['+'], digits, htrim, .inr rfl, hne, h⟩
  · next hne _ _ =>
    exact ⟨[], _, rfl, .inl rfl, hne, h⟩

/-- A text is read as a number of seconds exactly if it writes it. -/
theorem secondsOfText_eq_ok_iff {text : String} {n : Nat} :
    secondsOfText text = .ok n ↔ WritesSeconds text n := by
  constructor
  · intro h
    obtain ⟨sign, digits, htrim, hsign, hne, hread⟩ := exists_trim_of_secondsOfText h
    obtain ⟨hdigits, hvalue, hone, hmost⟩ := secondsOfDigits_eq_ok_iff.mp hread
    obtain ⟨front, back, hfront, hback, htext⟩ := exists_blanks text.toList
    rw [htrim] at htext
    exact ⟨⟨front, sign, digits, back, htext, hfront, hback, hsign, hne, hdigits, hvalue⟩, hone,
      hmost⟩
  · intro h
    obtain ⟨front, sign, digits, back, htext, hfront, hback, hsign, hne, hdigits, hvalue⟩ :=
      h.written
    have hsolid : ∀ c ∈ sign ++ digits, isBlank c = false := by
      intro c hc
      rcases List.mem_append.mp hc with hc | hc
      · rcases hsign with rfl | rfl
        · cases hc
        · rw [List.mem_singleton.mp hc]
          decide
      · exact isBlank_of_isDigit (hdigits c hc)
    have htrim : trim text.toList = sign ++ digits := by
      rw [htext]
      exact trim_blanks hfront hback (fun c hc => hsolid c (List.mem_of_mem_head? hc))
        (fun c hc => hsolid c (List.mem_of_getLast? hc))
    rw [secondsOfText_of_trim htrim hsign hne hdigits]
    exact secondsOfDigits_eq_ok_iff.mpr ⟨hdigits, hvalue, h.one_le, h.le_most⟩

example : secondsOfText "\u2003+007\n" = .ok 7 := by rfl

/-! ### What can be used -/

/-- A value that can be used for a variable. For the time limit this is a number of seconds,
for the others it is any value. -/
def IsUsable (key value : String) : Prop :=
  key = VariableName.timeout → ∃ n, WritesSeconds value n

theorem isOk_secondsOfText_iff {value : String} :
    (secondsOfText value).isOk = true ↔ ∃ n, WritesSeconds value n := by
  simp only [← secondsOfText_eq_ok_iff]
  cases secondsOfText value <;> simp [Except.isOk, Except.toBool]

instance (key value : String) : Decidable (IsUsable key value) :=
  decidable_of_iff (key = VariableName.timeout → (secondsOfText value).isOk = true)
    (by rw [isOk_secondsOfText_iff]; rfl)

theorem isUsable_of_ne {key value : String} (h : key ≠ VariableName.timeout) :
    IsUsable key value := fun hkey => absurd hkey h

end Config

/-- Two environments as one: what the first one has and can be used, else what the second
one has. -/
def Environment.over (first second : Environment) : Environment where
  name := first.name ++ " over " ++ second.name
  lookUp key := ((first.lookUp key).filter (Config.IsUsable key ·)).or (second.lookUp key)

namespace Config

/-! ### Looking up once -/

/-- What comes of completing a configuration from an environment, and what is told then. -/
structure Completes (env : Environment) (c done : Config) (log : Log) : Prop where
  apiKey : done.apiKey = c.apiKey.or (env.lookUp VariableName.apiKey)
  baseUrl? : done.baseUrl? = c.baseUrl?.or (env.lookUp VariableName.baseUrl)
  timeout_kept : ∀ limit, c.timeout? = some limit → done.timeout? = some limit
  timeout_read : ∀ value n, c.timeout? = none → env.lookUp VariableName.timeout = some value →
    WritesSeconds value n → done.timeout? = some (.ofSeconds n)
  timeout_unset : c.timeout? = none →
    (∀ value n, env.lookUp VariableName.timeout = some value → ¬WritesSeconds value n) →
    done.timeout? = none
  /-- A value that cannot be used is told, also where none is needed. -/
  told : ∀ value, env.lookUp VariableName.timeout = some value → (∀ n, ¬WritesSeconds value n) →
    ∃ fault, log = [ignored value fault]
  silent : (∀ value, env.lookUp VariableName.timeout = some value → ∃ n, WritesSeconds value n) →
    log = []

section

variable {env : Environment} {value : String} {n : Nat}

theorem timeoutOf_of_writes (hvalue : env.lookUp VariableName.timeout = some value)
    (h : WritesSeconds value n) : timeoutOf env = (some (.ofSeconds n), []) := by
  unfold timeoutOf
  simp only [hvalue, secondsOfText_eq_ok_iff.mpr h]

theorem timeoutOf_of_not_writes (hvalue : env.lookUp VariableName.timeout = some value)
    (h : ∀ n, ¬WritesSeconds value n) :
    ∃ fault, timeoutOf env = (none, [ignored value fault]) := by
  unfold timeoutOf
  simp only [hvalue]
  cases hread : secondsOfText value with
  | error fault => exact ⟨fault, rfl⟩
  | ok n => exact absurd (secondsOfText_eq_ok_iff.mp hread) (h n)

theorem timeoutOf_of_none (hvalue : env.lookUp VariableName.timeout = none) :
    timeoutOf env = (none, []) := by
  unfold timeoutOf
  simp only [hvalue]

theorem fromEnvironment_eq (c : Config) (env : Environment) :
    c.fromEnvironment env =
      ({ apiKey := c.apiKey.or (env.lookUp VariableName.apiKey)
         baseUrl? := c.baseUrl?.or (env.lookUp VariableName.baseUrl)
         timeout? := c.timeout?.or (timeoutOf env).1 }, (timeoutOf env).2) := by
  simp only [fromEnvironment, Option.orElse_eq_orElse, Option.orElse_eq_or]

theorem completes_fromEnvironment (c : Config) (env : Environment) :
    Completes env c (c.fromEnvironment env).1 (c.fromEnvironment env).2 := by
  rw [fromEnvironment_eq]
  constructor
  case apiKey => rfl
  case baseUrl? => rfl
  case timeout_kept =>
    intro limit hlimit
    simp [hlimit]
  case timeout_read =>
    intro value n hunset hvalue hwrites
    simp [hunset, timeoutOf_of_writes hvalue hwrites]
  case timeout_unset =>
    intro hunset hnot
    cases hvalue : env.lookUp VariableName.timeout with
    | none => simp [hunset, timeoutOf_of_none hvalue]
    | some value =>
        obtain ⟨fault, htimeout⟩ := timeoutOf_of_not_writes hvalue fun n => hnot value n hvalue
        simp [hunset, htimeout]
  case told =>
    intro value hvalue hnot
    obtain ⟨fault, htimeout⟩ := timeoutOf_of_not_writes hvalue hnot
    exact ⟨fault, congrArg Prod.snd htimeout⟩
  case silent =>
    intro hall
    cases hvalue : env.lookUp VariableName.timeout with
    | none => simp [timeoutOf_of_none hvalue]
    | some value =>
        obtain ⟨n, hwrites⟩ := hall value hvalue
        simp [timeoutOf_of_writes hvalue hwrites]

end

/-! ### Looking up again -/

section

variable {first second : Environment}

theorem lookUp_over_of_usable {key value : String} (hvalue : first.lookUp key = some value)
    (h : IsUsable key value) : (first.over second).lookUp key = some value := by
  simp only [Environment.over, hvalue, Option.filter_some, h, decide_true, if_true, Option.some_or]

/-- What is missing or cannot be used is looked up in the second environment. -/
theorem lookUp_over_of_not_usable {key : String}
    (h : ∀ value, first.lookUp key = some value → ¬IsUsable key value) :
    (first.over second).lookUp key = second.lookUp key := by
  cases hvalue : first.lookUp key with
  | none => simp only [Environment.over, hvalue, Option.filter_none, Option.none_or]
  | some value =>
      simp only [Environment.over, hvalue, Option.filter_some, h value hvalue, decide_false,
        Bool.false_eq_true, if_false, Option.none_or]

/-- Every value of the other variables can be used. -/
theorem lookUp_over_of_ne {key : String} (h : key ≠ VariableName.timeout) :
    (first.over second).lookUp key = (first.lookUp key).or (second.lookUp key) := by
  cases hvalue : first.lookUp key with
  | none =>
      rw [lookUp_over_of_not_usable (by simp [hvalue]), Option.none_or]
  | some value =>
      rw [lookUp_over_of_usable hvalue (isUsable_of_ne h), Option.some_or]

/-- The time limit depends on its variable only. -/
theorem timeoutOf_congr (h : first.lookUp VariableName.timeout = second.lookUp VariableName.timeout) :
    timeoutOf first = timeoutOf second := by
  unfold timeoutOf
  rw [h]

/-- Of two time limits, the first one that can be used is taken. -/
theorem timeoutOf_over :
    (timeoutOf (first.over second)).1 = (timeoutOf first).1.or (timeoutOf second).1 := by
  cases hvalue : first.lookUp VariableName.timeout with
  | none =>
      rw [timeoutOf_congr (lookUp_over_of_not_usable (by simp [hvalue])), timeoutOf_of_none hvalue,
        Option.none_or]
  | some value =>
      by_cases husable : ∃ n, WritesSeconds value n
      · obtain ⟨n, hwrites⟩ := husable
        have hover : (first.over second).lookUp VariableName.timeout = some value :=
          lookUp_over_of_usable hvalue fun _ => ⟨n, hwrites⟩
        rw [timeoutOf_of_writes hover hwrites, timeoutOf_of_writes hvalue hwrites, Option.some_or]
      · have hnot : ∀ found, first.lookUp VariableName.timeout = some found →
            ¬IsUsable VariableName.timeout found := by
          intro found hfound h
          rw [hvalue] at hfound
          cases hfound
          exact husable (h rfl)
        obtain ⟨fault, hfirst⟩ :=
          timeoutOf_of_not_writes hvalue fun n hwrites => husable ⟨n, hwrites⟩
        rw [timeoutOf_congr (lookUp_over_of_not_usable hnot), hfirst, Option.none_or]

end

/-- A configuration is completed by what can be used: what is said stays, and one load after
another is one load from all that they find. So a second load from the same environment
changes nothing. -/
theorem fromEnvironment_merges (c : Config) (first second : Environment) :
    Completes first c (c.fromEnvironment first).1 (c.fromEnvironment first).2 ∧
    ((c.fromEnvironment first).1.fromEnvironment first).1 = (c.fromEnvironment first).1 ∧
    ((c.fromEnvironment first).1.fromEnvironment second).1 =
      (c.fromEnvironment (first.over second)).1 := by
  refine ⟨completes_fromEnvironment c first, ?_, ?_⟩
  · simp only [fromEnvironment_eq, Option.or_assoc, Option.or_self]
  · have hkey : VariableName.apiKey ≠ VariableName.timeout := by decide
    have hurl : VariableName.baseUrl ≠ VariableName.timeout := by decide
    simp only [fromEnvironment_eq, Option.or_assoc, lookUp_over_of_ne hkey, lookUp_over_of_ne hurl,
      timeoutOf_over]

end Config

end SignedPayments
