import Formulary.Proofs.Calendar.Days
import Formulary.Proofs.Variables

/-!
# Moments and their texts

A moment of the years 0 to 9999 is a date with a time of the day (`Moment`), and its text gives its
numbers from the year to the second, each with as many digits in any moment as in any other. The
build date is the text of the moment that is as many seconds after the start of 1970 as the build
(`exists_moment`). As the largest numbers come first, the texts are ordered as the seconds are:
`Moment.text_lt_text_iff`, `buildDate_orders`.
-/

namespace Formulary

namespace Calendar

/-! ### Numbers with a fixed count of digits -/

/-- The last digits of a number. -/
def lastDigits : (count n : Nat) → List Char
  | 0, _ => []
  | count + 1, n => lastDigits count (n / 10) ++ [(n % 10).digitChar]

@[simp]
theorem length_lastDigits (count n : Nat) : (lastDigits count n).length = count := by
  induction count generalizing n with
  | zero => rfl
  | succ count ih => rw [lastDigits, List.length_append, ih, List.length_singleton]

theorem digits_eq {count n : Nat} (h : n < 10 ^ (count + 1)) :
    digits (count + 1) n = .ofList (lastDigits (count + 1) n) := by
  suffices hchars : List.replicate (count + 1 - (Nat.toDigits 10 n).length) '0' ++
      Nat.toDigits 10 n = lastDigits (count + 1) n by
    have htext : toString n = .ofList (Nat.toDigits 10 n) := rfl
    rw [← hchars, digits, htext, String.length_ofList, String.ofList_append]
  induction count generalizing n with
  | zero =>
    rw [Nat.toDigits_of_lt_base (by omega)]
    simp [lastDigits, Nat.mod_eq_of_lt (show n < 10 by omega)]
  | succ count ih =>
    have hrest := ih (n := n / 10) (by rw [Nat.pow_succ] at h; omega)
    rw [lastDigits, ← hrest]
    rcases Nat.lt_or_ge n 10 with hlt | hge
    · rw [Nat.toDigits_of_lt_base hlt, Nat.div_eq_of_lt hlt, Nat.mod_eq_of_lt hlt,
        Nat.toDigits_of_lt_base (by decide)]
      simp [List.replicate_succ']
    · rw [Nat.toDigits_of_base_le (by decide) hge]
      simp

theorem digitChar_lt_iff {n m : Nat} (hn : n < 10) (hm : m < 10) :
    n.digitChar < m.digitChar ↔ n < m := by
  interval_cases n <;> interval_cases m <;> decide

theorem digitChar_inj {n m : Nat} (hn : n < 10) (hm : m < 10) :
    n.digitChar = m.digitChar ↔ n = m := by
  interval_cases n <;> interval_cases m <;> decide

/-- With as many digits, the smaller number is the smaller one digit by digit. -/
theorem lastDigits_append_lt_iff {count n m : Nat} (hn : n < 10 ^ count) (hm : m < 10 ^ count)
    (x y : List Char) :
    lastDigits count n ++ x < lastDigits count m ++ y ↔ n < m ∨ n = m ∧ x < y := by
  induction count generalizing n m x y with
  | zero =>
    obtain rfl : n = 0 := by omega
    obtain rfl : m = 0 := by omega
    simp [lastDigits]
  | succ count ih =>
    rw [Nat.pow_succ] at hn hm
    rw [lastDigits, lastDigits, List.append_assoc, List.append_assoc, ih (by omega) (by omega),
      List.singleton_append, List.singleton_append, List.cons_lt_cons_iff,
      digitChar_lt_iff (Nat.mod_lt _ (by decide)) (Nat.mod_lt _ (by decide)),
      digitChar_inj (Nat.mod_lt _ (by decide)) (Nat.mod_lt _ (by decide))]
    have hlt : n < m ↔ n / 10 < m / 10 ∨ n / 10 = m / 10 ∧ n % 10 < m % 10 := by omega
    have heq : n = m ↔ n / 10 = m / 10 ∧ n % 10 = m % 10 := by omega
    rw [hlt, heq]
    tauto

/-! ### Moments -/

/-- A second of the years 0 to 9999. -/
structure Moment where
  year : Nat
  month : Nat
  day : Nat
  hour : Nat
  minute : Nat
  second : Nat
  year_le : year ≤ 9999
  date : IsDate year month day
  hour_lt : hour < 24
  minute_lt : minute < 60
  second_lt : second < 60

namespace Moment

def seconds (t : Moment) : Int :=
  ((daysBefore t.year t.month t.day : Int) - daysBefore 1970 1 1) * 86400 +
    (t.hour * 3600 + t.minute * 60 + t.second)

/-- A moment as `YYYY-MM-DDTHH:MM:SSZ`. -/
def text (t : Moment) : String :=
  .ofList (lastDigits 4 t.year ++ '-' :: (lastDigits 2 t.month ++ '-' :: (lastDigits 2 t.day ++
    'T' :: (lastDigits 2 t.hour ++ ':' :: (lastDigits 2 t.minute ++
    ':' :: (lastDigits 2 t.second ++ ['Z']))))))

theorem length_text (t : Moment) : t.text.length = 20 := by
  simp only [text, String.length_ofList, List.length_append, List.length_cons, length_lastDigits,
    List.length_nil]

def first : Moment where
  year := 0
  month := 1
  day := 1
  hour := 0
  minute := 0
  second := 0
  year_le := by decide
  date := ⟨by decide, by decide, by decide, by decide⟩
  hour_lt := by decide
  minute_lt := by decide
  second_lt := by decide

def last : Moment where
  year := 9999
  month := 12
  day := 31
  hour := 23
  minute := 59
  second := 59
  year_le := by decide
  date := ⟨by decide, by decide, by decide, by decide⟩
  hour_lt := by decide
  minute_lt := by decide
  second_lt := by decide

theorem daysBefore_1970 : daysBefore 1970 1 1 = 719528 := by
  have hdays {year : Nat} (h : year = 1970) : daysBefore year 1 1 = 719528 := by
    have hcount := daysBefore_to_march year 1 (le_refl 1) (by decide)
    omega
  exact hdays rfl

variable (t t' : Moment)

theorem seconds_eq :
    t.seconds = ((daysBefore t.year t.month t.day : Int) - 719528) * 86400 +
      (t.hour * 3600 + t.minute * 60 + t.second) := by
  simp only [seconds, daysBefore_1970, Nat.cast_ofNat]

theorem numbers_lt :
    t.year < 10 ^ 4 ∧ t.month < 10 ^ 2 ∧ t.day < 10 ^ 2 ∧ t.hour < 10 ^ 2 ∧ t.minute < 10 ^ 2 ∧
      t.second < 10 ^ 2 := by
  have hlength : monthLength t.year t.month ≤ 31 := by
    unfold monthLength
    split
    · split <;> decide
    all_goals decide
  exact ⟨Nat.lt_of_le_of_lt t.year_le (by decide), Nat.lt_of_le_of_lt t.date.month_le (by decide),
    Nat.lt_of_le_of_lt (t.date.day_le.trans hlength) (by decide), t.hour_lt.trans (by decide),
    t.minute_lt.trans (by decide), t.second_lt.trans (by decide)⟩

/-- By the first of their numbers that differ, one moment is before the other. -/
def Before : Prop :=
  t.year < t'.year ∨ t.year = t'.year ∧ (t.month < t'.month ∨ t.month = t'.month ∧
    (t.day < t'.day ∨ t.day = t'.day ∧ (t.hour < t'.hour ∨ t.hour = t'.hour ∧
      (t.minute < t'.minute ∨ t.minute = t'.minute ∧ t.second < t'.second))))

theorem seconds_lt_iff : t.seconds < t'.seconds ↔ t.Before t' := by
  have hminutes := And.intro t.minute_lt t.second_lt
  have hminutes' := And.intro t'.minute_lt t'.second_lt
  have hhour := t.hour_lt
  have hhour' := t'.hour_lt
  -- the time of the day is less than a day
  have hseconds (days days' : Nat) :
      ((days : Int) - 719528) * 86400 + (t.hour * 3600 + t.minute * 60 + t.second) <
        ((days' : Int) - 719528) * 86400 + (t'.hour * 3600 + t'.minute * 60 + t'.second) ↔
      days < days' ∨ days = days' ∧ (t.hour < t'.hour ∨ t.hour = t'.hour ∧
        (t.minute < t'.minute ∨ t.minute = t'.minute ∧ t.second < t'.second)) := by omega
  rw [seconds_eq, seconds_eq, hseconds, daysBefore_lt_iff t.date t'.date,
    daysBefore_eq_iff t.date t'.date, Before]
  tauto

theorem text_lt_iff : t.text < t'.text ↔ t.Before t' := by
  obtain ⟨hyear, hmonth, hday, hhour, hminute, hsecond⟩ := t.numbers_lt
  obtain ⟨hyear', hmonth', hday', hhour', hminute', hsecond'⟩ := t'.numbers_lt
  rw [String.lt_iff, text, text, String.toList_ofList, String.toList_ofList,
    lastDigits_append_lt_iff hyear hyear', List.cons_lt_cons_self,
    lastDigits_append_lt_iff hmonth hmonth', List.cons_lt_cons_self,
    lastDigits_append_lt_iff hday hday', List.cons_lt_cons_self,
    lastDigits_append_lt_iff hhour hhour', List.cons_lt_cons_self,
    lastDigits_append_lt_iff hminute hminute', List.cons_lt_cons_self,
    lastDigits_append_lt_iff hsecond hsecond']
  simp only [List.lt_irrefl, and_false, or_false, Before]

/-- **Of two moments the earlier one has the smaller text.** -/
theorem text_lt_text_iff : t.text < t'.text ↔ t.seconds < t'.seconds :=
  (text_lt_iff t t').trans (seconds_lt_iff t t').symm

theorem text_eq_iff : t.text = t'.text ↔ t.seconds = t'.seconds := by
  have hlt := (text_lt_text_iff t t').not
  have hgt := (text_lt_text_iff t' t).not
  constructor
  · intro h
    rw [h] at hlt hgt
    exact le_antisymm (not_lt.1 (hgt.1 (String.lt_irrefl _)))
      (not_lt.1 (hlt.1 (String.lt_irrefl _)))
  · intro h
    rw [h] at hlt hgt
    exact String.le_antisymm (String.not_lt.1 (hgt.2 (lt_irrefl _)))
      (String.not_lt.1 (hlt.2 (lt_irrefl _)))

/-- A second of the years 0 to 9999. -/
def Covers (seconds : Int) : Prop := first.seconds ≤ seconds ∧ seconds ≤ last.seconds

theorem first_seconds : first.seconds = -62167219200 := by
  rw [seconds_eq, show daysBefore first.year first.month first.day = 0 from rfl]
  simp [first]

theorem last_seconds : last.seconds = 253402300799 := by
  have hdays {year : Nat} (h : year = 9999) : daysBefore year 12 31 = 3652424 := by
    have hcount := daysBefore_from_march year 31 (show 9 < 10 by decide)
    simp only [Nat.reduceAdd] at hcount
    omega
  rw [seconds_eq, show daysBefore last.year last.month last.day = 3652424 from hdays rfl]
  simp [last]

end Moment

/-! ### The build date -/

theorem momentText_eq {seconds : Int} {t : Moment}
    (hdate : dateOfDay (seconds / 86400) = ⟨t.year, t.month, t.day⟩)
    (hrest : (seconds % 86400).toNat = t.hour * 3600 + t.minute * 60 + t.second) :
    momentText seconds = t.text := by
  obtain ⟨hyear, hmonth, hday, hhour, hminute, hsecond⟩ := t.numbers_lt
  have hclock := And.intro t.minute_lt t.second_lt
  have hyear' : yearText t.year = .ofList (lastDigits 4 t.year) := by
    rw [yearText, if_pos (by omega)]
    exact digits_eq hyear
  have hhour' : (seconds % 86400).toNat / 3600 = t.hour := by omega
  have hminute' : (seconds % 86400).toNat / 60 % 60 = t.minute := by omega
  have hsecond' : (seconds % 86400).toNat % 60 = t.second := by omega
  simp only [momentText, hdate, hyear', hhour', hminute', hsecond', digits_eq hmonth,
    digits_eq hday, digits_eq hhour, digits_eq hminute, digits_eq hsecond]
  simp [Moment.text, String.append_assoc]

/-- **The text of a second is that of the moment that is as many seconds after the start of
1970.** -/
theorem exists_moment {seconds : Int} (h : Moment.Covers seconds) :
    ∃ t : Moment, t.seconds = seconds ∧ momentText seconds = t.text := by
  rw [Moment.Covers, Moment.first_seconds, Moment.last_seconds] at h
  obtain ⟨n, hn⟩ := Int.eq_ofNat_of_zero_le (a := seconds / 86400 + 719528) (by omega)
  obtain ⟨rest, hrest⟩ := Int.eq_ofNat_of_zero_le (a := seconds % 86400) (by omega)
  obtain ⟨year, month, day, hdate, hvalid, hdays⟩ := dateOfDay_eq n
  have hyear : year ≤ 9999 := by
    have hyears := daysBeforeYear_eq year
    unfold daysBefore at hdays
    omega
  let t : Moment :=
    { year, month, day, hour := rest / 3600, minute := rest / 60 % 60, second := rest % 60
      year_le := hyear
      date := hvalid
      hour_lt := by omega
      minute_lt := by omega
      second_lt := by omega }
  refine ⟨t, ?_, momentText_eq ?_ ?_⟩
  · rw [Moment.seconds_eq]
    simp only [t, hdays]
    omega
  · rw [eq_sub_of_add_eq hn]
    exact hdate
  · simp only [t]
    omega

end Calendar

open Calendar

/-- **A build date says the second of its build, and build dates are ordered as the builds are.** In
the years 0 to 9999 the date that a build binds is a text of twenty characters with the year, the
month, the day and the time of the day of a moment as many seconds after the start of 1970; and two
builds have the same one just if their seconds are the same, and the one with the smaller bytes if
it is earlier. -/
theorem buildDate_orders {c c' : Context} (h : Moment.Covers c.buildDate)
    (h' : Moment.Covers c'.buildDate) (d d' : Descriptor) (custom custom' : StringMap) :
    ∃ t t' : Moment, t.seconds = c.buildDate ∧ t'.seconds = c'.buildDate ∧
      (bindVariables d custom c).get? "build_date" = some t.text ∧
      (bindVariables d' custom' c').get? "build_date" = some t'.text ∧
      t.text.length = 20 ∧
      (t.text = t'.text ↔ c.buildDate = c'.buildDate) ∧
      (Text.encode t.text < Text.encode t'.text ↔ c.buildDate < c'.buildDate) := by
  obtain ⟨t, hseconds, htext⟩ := exists_moment h
  obtain ⟨t', hseconds', htext'⟩ := exists_moment h'
  refine ⟨t, t', hseconds, hseconds', ?_, ?_, t.length_text, ?_, ?_⟩
  · rw [get?_bindVariables_of_builtin .buildDate, htext]
  · rw [get?_bindVariables_of_builtin .buildDate, htext']
  · rw [Moment.text_eq_iff, hseconds, hseconds']
  · rw [Text.encode_lt_encode_iff, Moment.text_lt_text_iff, hseconds, hseconds']

/-- A build one second before 1970 and one on the leap day of a century. -/
theorem buildDate_orders_leapDay :
    let d : Descriptor := ⟨"demo", none, none, none, "HEAD",
      .repository ⟨"https://example.org/demo.git", none⟩, []⟩
    let custom : StringMap := .ofList [("build_date", "never")]
    let c : Context := ⟨"/p", -1, "user", none⟩
    let c' : Context := ⟨"/p", 951782400, "user", none⟩
    Moment.Covers c.buildDate ∧ Moment.Covers c'.buildDate ∧
      (bindVariables d custom c).get? "build_date" = some "1969-12-31T23:59:59Z" ∧
      (bindVariables d custom c').get? "build_date" = some "2000-02-29T00:00:00Z" ∧
      Text.encode "1969-12-31T23:59:59Z" < Text.encode "2000-02-29T00:00:00Z" := by
  intro d custom c c'
  have hcovers : Moment.Covers c.buildDate ∧ Moment.Covers c'.buildDate := by
    simp only [Moment.Covers, Moment.first_seconds, Moment.last_seconds]
    decide
  have hbound : (bindVariables d custom c).get? "build_date" = some "1969-12-31T23:59:59Z" := by
    decide +kernel
  have hbound' : (bindVariables d custom c').get? "build_date" = some "2000-02-29T00:00:00Z" := by
    decide +kernel
  obtain ⟨t, t', -, -, htext, htext', -, -, horder⟩ :=
    buildDate_orders hcovers.1 hcovers.2 d d custom custom
  rw [← Option.some.inj (hbound.symm.trans htext),
    ← Option.some.inj (hbound'.symm.trans htext')] at horder
  exact ⟨hcovers.1, hcovers.2, hbound, hbound', horder.2 (by decide)⟩

end Formulary
