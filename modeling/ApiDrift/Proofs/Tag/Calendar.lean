import ApiDrift.Proofs.Number.Text
import ApiDrift.Tag.Date
import Mathlib.Data.Nat.Digits.Lemmas
import Mathlib.Tactic.IntervalCases

/-!
# Days of the calendar

A text is accepted as a day exactly when it is the text of a day of the proleptic Gregorian
calendar, bare or between one pair of quotes. The check looks at octets: it reads them only where
there are some, cuts the text only between characters, and every number it comes to fits its word.
-/

namespace ApiDrift.Tag

/-! ### Days and their texts -/

/-- Every fourth year has a leap day, but of the full centuries only every fourth one. -/
def IsLeap (year : Nat) : Prop :=
  4 ∣ year ∧ (100 ∣ year → 400 ∣ year)

instance (year : Nat) : Decidable (IsLeap year) :=
  inferInstanceAs (Decidable (_ ∧ _))

/-- How many days a month has. -/
def monthLength (year month : Nat) : Nat :=
  match month with
  | 2 => if IsLeap year then 29 else 28
  | 4 | 6 | 9 | 11 => 30
  | _ => 31

/-- A day of the proleptic Gregorian calendar in a year of four digits. -/
structure Day where
  /-- The day of the month. -/
  day : Nat
  /-- The month of the year. -/
  month : Nat
  /-- The year. -/
  year : Nat
  /-- There is a day with this number in the month. -/
  day_range : 1 ≤ day ∧ day ≤ monthLength year month
  /-- There is a month with this number. -/
  month_range : 1 ≤ month ∧ month ≤ 12
  /-- The year has four digits. -/
  year_range : 1000 ≤ year ∧ year ≤ 9999

/-- A number in decimal digits, with zeros before them up to a width. -/
def padded (width n : Nat) : List Char :=
  (Number.digitsOf n).leftpad width '0'

/-- The text `dd-mm-yyyy` of a day. -/
def Day.text (d : Day) : List Char :=
  padded 2 d.day ++ '-' :: padded 2 d.month ++ '-' :: padded 4 d.year

/-! ### Digits and their octets -/

/-- The last decimal digits of a number. -/
def lastDigits : (width n : Nat) → List Char
  | 0, _ => []
  | width + 1, n => lastDigits width (n / 10) ++ [Nat.digitChar (n % 10)]

/-- The last digits of zero are zeros. -/
theorem lastDigits_zero (width : Nat) : lastDigits width 0 = List.replicate width '0' := by
  induction width with
  | zero => rfl
  | succ width ih =>
    rw [lastDigits, Nat.zero_div, ih, List.replicate_succ']
    rfl

/-- A number that has no more digits than a width is its last digits. -/
theorem padded_eq_lastDigits {width n : Nat} (hn : n < 10 ^ (width + 1)) :
    padded (width + 1) n = lastDigits (width + 1) n := by
  unfold padded List.leftpad Number.digitsOf
  induction width generalizing n with
  | zero =>
    have hlt : n < 10 := by simpa using hn
    rw [Nat.toDigits_of_lt_base hlt, lastDigits, lastDigits, Nat.mod_eq_of_lt hlt]
    rfl
  | succ width ih =>
    rcases Nat.lt_or_ge n 10 with hlt | hge
    · rw [Nat.toDigits_of_lt_base hlt, lastDigits, Nat.mod_eq_of_lt hlt, Nat.div_eq_of_lt hlt,
        lastDigits_zero]
      rfl
    · have hdiv : n / 10 < 10 ^ (width + 1) := by
        rw [Nat.pow_succ] at hn
        omega
      rw [Nat.toDigits_of_base_le (by decide) hge, lastDigits, ← ih hdiv, List.length_append,
        List.length_singleton, Nat.add_sub_add_right, List.append_assoc]

/-- The octets of joined texts are the joined octets. -/
theorem octets_append (a b : List Char) : octets (a ++ b) = octets a ++ octets b :=
  List.flatMap_append

/-- Distinct texts have distinct octets. -/
theorem octets_injective : Function.Injective octets := by
  intro a b h
  apply String.ofList_injective
  rw [← String.toByteArray_inj, String.toByteArray_ofList, String.toByteArray_ofList]
  exact congrArg List.toByteArray h

/-- A digit is one octet. -/
theorem octets_digitChar {digit : Nat} (h : digit < 10) :
    octets [Nat.digitChar digit] = [UInt8.ofNat (0x30 + digit)] := by
  interval_cases digit <;> rfl

/-- The octets of the last digits of a number end in that of its last one. -/
theorem octets_lastDigits_succ (width n : Nat) :
    octets (lastDigits (width + 1) n) =
      octets (lastDigits width (n / 10)) ++ [UInt8.ofNat (0x30 + n % 10)] := by
  rw [lastDigits, octets_append, octets_digitChar (Nat.mod_lt n (by decide))]

/-- There are as many octets as digits. -/
theorem length_octets_lastDigits (width n : Nat) :
    (octets (lastDigits width n)).length = width := by
  induction width generalizing n with
  | zero => rfl
  | succ width ih => rw [octets_lastDigits_succ, List.length_append, ih, List.length_singleton]

/-- The octets of digits lie between those of zero and nine. -/
theorem mem_octets_lastDigits {width n : Nat} {octet : UInt8}
    (h : octet ∈ octets (lastDigits width n)) : 0x30 ≤ octet ∧ octet ≤ 0x39 := by
  induction width generalizing n with
  | zero => cases h
  | succ width ih =>
    rw [octets_lastDigits_succ, List.mem_append, List.mem_singleton] at h
    rcases h with h | rfl
    · exact ih h
    · have hdigit : n % 10 < 10 := Nat.mod_lt n (by decide)
      generalize n % 10 = digit at hdigit
      interval_cases digit <;> decide

/-- Numbers of no more digits than a width are determined by their last digits. -/
theorem lastDigits_inj {width n m : Nat} (hn : n < 10 ^ width) (hm : m < 10 ^ width)
    (h : octets (lastDigits width n) = octets (lastDigits width m)) : n = m := by
  induction width generalizing n m with
  | zero =>
    rw [Nat.pow_zero] at hn hm
    omega
  | succ width ih =>
    rw [Nat.pow_succ] at hn hm
    rw [octets_lastDigits_succ, octets_lastDigits_succ] at h
    obtain ⟨hfront, hlast⟩ := List.append_inj' h rfl
    have hdiv : n / 10 = m / 10 := ih (by omega) (by omega) hfront
    have hmod : n % 10 = m % 10 := by
      have := congrArg UInt8.toNat (List.singleton_inj.mp hlast)
      simp only [UInt8.toNat_ofNat'] at this
      omega
    omega

/-- The value of the octet of a digit. -/
theorem toNat_digit {octet : UInt8} (h : 0x30 ≤ octet ∧ octet ≤ 0x39) :
    48 ≤ octet.toNat ∧ octet.toNat ≤ 57 :=
  ⟨UInt8.le_iff_toNat_le.mp h.1, UInt8.le_iff_toNat_le.mp h.2⟩

/-- One more digit is one more octet. -/
theorem octets_lastDigits_digit (width value : Nat) {octet : UInt8}
    (h : 0x30 ≤ octet ∧ octet ≤ 0x39) :
    octets (lastDigits (width + 1) (value * 10 + (octet.toNat - 48))) =
      octets (lastDigits width value) ++ [octet] := by
  obtain ⟨hlow, hhigh⟩ := toNat_digit h
  have hdiv : (value * 10 + (octet.toNat - 48)) / 10 = value := by omega
  have hlast : 48 + (value * 10 + (octet.toNat - 48)) % 10 = octet.toNat := by omega
  rw [octets_lastDigits_succ, hdiv, hlast, UInt8.ofNat_toNat]

/-- One more digit behind fewer than nine goes into the value, which still fits its word. -/
theorem digitsFrom_digit {width value : Nat} {octet : UInt8} (rest : List UInt8)
    (hvalue : value < 10 ^ width) (hwidth : width < 9) (h : 0x30 ≤ octet ∧ octet ≤ 0x39) :
    value * 10 + (octet.toNat - 48) < 10 ^ (width + 1) ∧
      digitsFrom value (octet :: rest) = digitsFrom (value * 10 + (octet.toNat - 48)) rest := by
  obtain ⟨hlow, hhigh⟩ := toNat_digit h
  have hnext : value * 10 + (octet.toNat - 48) < 10 ^ (width + 1) := by
    rw [Nat.pow_succ]
    omega
  have hword : 10 ^ (width + 1) ≤ UInt32.size :=
    Nat.le_trans (Nat.pow_le_pow_right (by decide) hwidth) (show 10 ^ 9 ≤ _ by decide)
  have htens : Checked.word (value * 10) = .ok (value * 10) := if_pos (by omega)
  have hminus : Checked.minus octet.toNat 48 = .ok (octet.toNat - 48) := if_pos hlow
  have hsum : Checked.word (value * 10 + (octet.toNat - 48)) =
      .ok (value * 10 + (octet.toNat - 48)) := if_pos (by omega)
  refine ⟨hnext, ?_⟩
  rw [digitsFrom, if_pos h, htens]
  simp only [bind, Except.bind, hminus, hsum]

/-- Reading octets behind digits with a value never goes wrong, and comes to a number exactly when
the octets are its digits behind the digits of the value. -/
theorem digitsFrom_spec {width value : Nat} {rest : List UInt8} (hvalue : value < 10 ^ width)
    (hwidth : width + rest.length ≤ 9) :
    ∃ result, digitsFrom value rest = .ok result ∧
      ∀ n, result = some n ↔ n < 10 ^ (width + rest.length) ∧
        octets (lastDigits width value) ++ rest =
          octets (lastDigits (width + rest.length) n) := by
  induction rest generalizing width value with
  | nil =>
    refine ⟨some value, rfl, fun n => ?_⟩
    rw [List.append_nil, List.length_nil, Nat.add_zero]
    constructor
    · rintro ⟨⟩
      exact ⟨hvalue, rfl⟩
    · rintro ⟨hn, hsame⟩
      rw [lastDigits_inj hvalue hn hsame]
  | cons octet rest ih =>
    rw [List.length_cons] at hwidth ⊢
    by_cases hdigit : 0x30 ≤ octet ∧ octet ≤ 0x39
    · obtain ⟨hnext, hread⟩ := digitsFrom_digit rest hvalue (by omega) hdigit
      obtain ⟨result, hresult, hiff⟩ := ih hnext (by omega)
      refine ⟨result, hread.trans hresult, fun n => ?_⟩
      rw [hiff n, octets_lastDigits_digit width value hdigit, List.append_assoc,
        List.singleton_append, Nat.add_right_comm width 1, ← Nat.add_assoc]
    · refine ⟨none, by rw [digitsFrom, if_neg hdigit], fun n => iff_of_false (by simp) ?_⟩
      rintro ⟨-, hsame⟩
      have hmem : octet ∈ octets (lastDigits width value) ++ octet :: rest := by simp
      rw [hsame] at hmem
      exact hdigit (mem_octets_lastDigits hmem)

/-- Reading as many octets as a width, up to nine, comes to a number exactly when they are those of
the number filled up to the width. -/
theorem digitsFrom_eq_padded {digits : List UInt8} {width : Nat} (h : digits.length = width + 1)
    (hwidth : width < 9) :
    ∃ result, digitsFrom 0 digits = .ok result ∧
      ∀ n, result = some n ↔ n < 10 ^ (width + 1) ∧ digits = octets (padded (width + 1) n) := by
  obtain ⟨result, hresult, hiff⟩ := @digitsFrom_spec 0 0 digits (by decide) (by omega)
  refine ⟨result, hresult, fun n => ?_⟩
  rw [hiff n, Nat.zero_add, h]
  refine and_congr_right fun hn => ?_
  rw [padded_eq_lastDigits hn]
  rfl

/-! ### The check of the octets -/

/-- A year has a leap day when the rule of the check says so. -/
theorem isLeapYear_iff {year : Nat} : isLeapYear year = true ↔ IsLeap year := by
  simp only [isLeapYear, IsLeap, Bool.or_eq_true, Bool.and_eq_true, beq_iff_eq, bne_iff_ne]
  omega

/-- Every month has its length in the table, but for February in a year with a leap day. -/
theorem item_monthLengths {year month : Nat} (hmonth : 1 ≤ month ∧ month ≤ 12)
    (hleap : month = 2 → ¬IsLeap year) :
    Checked.item monthLengths (month - 1) = .ok (monthLength year month) := by
  obtain ⟨hfirst, hlast⟩ := hmonth
  interval_cases month
  case «2» =>
    rw [monthLength, if_neg (hleap rfl)]
    rfl
  all_goals rfl

/-- Looking for a day never goes wrong, and finds the days of the calendar. -/
theorem dayExists_spec (day month year : Nat) :
    ∃ verdict, dayExists day month year = .ok verdict ∧
      (verdict = true ↔ (1 ≤ day ∧ day ≤ monthLength year month) ∧ (1 ≤ month ∧ month ≤ 12) ∧
        1000 ≤ year ∧ year ≤ 9999) := by
  unfold dayExists
  split
  · next hout =>
    refine ⟨false, rfl, iff_of_false (by simp) ?_⟩
    simp at hout
    omega
  · next hin =>
    have hrange : (1 ≤ month ∧ month ≤ 12) ∧ 1 ≤ day ∧ 1000 ≤ year ∧ year ≤ 9999 := by
      simp at hin
      omega
    obtain ⟨hmonth, hday, hyear⟩ := hrange
    split
    · next hleap =>
      rw [Bool.and_eq_true, beq_iff_eq, isLeapYear_iff] at hleap
      obtain ⟨rfl, hleap⟩ := hleap
      refine ⟨_, rfl, ?_⟩
      simp [monthLength, hleap, hday, hyear]
    · next hleap =>
      rw [Bool.and_eq_true, beq_iff_eq, isLeapYear_iff] at hleap
      have hindex : Checked.minus month 1 = .ok (month - 1) := if_pos hmonth.1
      have hlength := item_monthLengths hmonth fun hsecond hyes => hleap ⟨hsecond, hyes⟩
      refine ⟨_, by rw [hindex]; simp only [bind, Except.bind, hlength]; rfl, ?_⟩
      simp [hmonth, hday, hyear]

/-- Three numbers name a day when there is a day with them, and looking for it never goes wrong. -/
theorem namesDay_spec (day month year : Option Nat) :
    ∃ verdict, namesDay day month year = .ok verdict ∧
      (verdict = true ↔
        ∃ d : Day, day = some d.day ∧ month = some d.month ∧ year = some d.year) := by
  unfold namesDay
  split
  · next day month year =>
    obtain ⟨verdict, hverdict, hiff⟩ := dayExists_spec day month year
    refine ⟨verdict, hverdict, hiff.trans ⟨?_, ?_⟩⟩
    · rintro ⟨hday, hmonth, hyear⟩
      exact ⟨⟨day, month, year, hday, hmonth, hyear⟩, rfl, rfl, rfl⟩
    · rintro ⟨d, ⟨⟩, ⟨⟩, ⟨⟩⟩
      exact ⟨d.day_range, d.month_range, d.year_range⟩
  · next hnone =>
    refine ⟨false, rfl, iff_of_false (by simp) ?_⟩
    rintro ⟨d, rfl, rfl, rfl⟩
    exact hnone _ _ _ rfl rfl rfl

/-- No month has more than 31 days. -/
theorem monthLength_le (year month : Nat) : monthLength year month ≤ 31 := by
  unfold monthLength
  split
  · split <;> decide
  all_goals decide

/-- A number that has no more digits than a width takes as many octets. -/
theorem length_octets_padded {width n : Nat} (h : n < 10 ^ (width + 1)) :
    (octets (padded (width + 1) n)).length = width + 1 := by
  rw [padded_eq_lastDigits h, length_octets_lastDigits]

/-- The numbers of a day have no more digits than their places in its text. -/
theorem Day.lt_pow (d : Day) : d.day < 10 ^ 2 ∧ d.month < 10 ^ 2 ∧ d.year < 10 ^ 4 := by
  have hle := d.day_range.2.trans (monthLength_le d.year d.month)
  have hmonth := d.month_range.2
  have hyear := d.year_range.2
  omega

/-- The octets of a day are those of its numbers, with two hyphens. -/
theorem Day.octets_text (d : Day) :
    octets d.text = octets (padded 2 d.day) ++ 0x2D :: (octets (padded 2 d.month) ++
      0x2D :: octets (padded 4 d.year)) := by
  rw [Day.text, octets_append, octets_append, List.append_assoc]
  rfl

/-- Ten octets are those of a day when the numbers stand in their places and hyphens between
them. -/
theorem eq_octets_text_iff {d₁ d₂ h₁ m₁ m₂ h₂ y₁ y₂ y₃ y₄ : UInt8} {d : Day} :
    [d₁, d₂, h₁, m₁, m₂, h₂, y₁, y₂, y₃, y₄] = octets d.text ↔
      (h₁ = 0x2D ∧ h₂ = 0x2D) ∧ [d₁, d₂] = octets (padded 2 d.day) ∧
        [m₁, m₂] = octets (padded 2 d.month) ∧ [y₁, y₂, y₃, y₄] = octets (padded 4 d.year) := by
  obtain ⟨hday, hmonth, hyear⟩ := d.lt_pow
  obtain ⟨a, b, hab⟩ := List.length_eq_two.mp (length_octets_padded hday)
  obtain ⟨c, e, hce⟩ := List.length_eq_two.mp (length_octets_padded hmonth)
  rw [d.octets_text, hab, hce]
  simp only [List.cons_append, List.nil_append, List.cons.injEq, and_true]
  tauto

/-- The check of ten octets looks at the hyphens first and at what the digits come to then. -/
theorem checkOctets_eq {d₁ d₂ h₁ m₁ m₂ h₂ y₁ y₂ y₃ y₄ : UInt8} {day month year : Option Nat}
    (hday : digitsFrom 0 [d₁, d₂] = .ok day) (hmonth : digitsFrom 0 [m₁, m₂] = .ok month)
    (hyear : digitsFrom 0 [y₁, y₂, y₃, y₄] = .ok year) :
    checkOctets [d₁, d₂, h₁, m₁, m₂, h₂, y₁, y₂, y₃, y₄].toArray =
      if h₁ = 0x2D ∧ h₂ = 0x2D then namesDay day month year else .ok false := by
  have hread : checkOctets [d₁, d₂, h₁, m₁, m₂, h₂, y₁, y₂, y₃, y₄].toArray =
      if h₁ ≠ 0x2D then .ok false
      else if h₂ ≠ 0x2D then .ok false
      else (digitsFrom 0 [d₁, d₂]).bind fun day => (digitsFrom 0 [m₁, m₂]).bind fun month =>
        (digitsFrom 0 [y₁, y₂, y₃, y₄]).bind fun year => namesDay day month year := rfl
  rw [hread, hday, hmonth, hyear]
  by_cases hfirst : h₁ = 0x2D
  · by_cases hsecond : h₂ = 0x2D
    · simp only [hfirst, hsecond, Except.bind, ne_eq, not_true, if_false, and_self, if_true]
    · simp only [hfirst, hsecond, ne_eq, not_true, not_false_iff, if_false, and_false, if_true]
  · simp only [hfirst, ne_eq, not_false_iff, if_false, false_and, if_true]

/-- The check of ten octets never goes wrong, and accepts those of the days of the calendar. -/
theorem checkOctets_spec {found : List UInt8} (h : found.length = 10) :
    ∃ verdict, checkOctets found.toArray = .ok verdict ∧
      (verdict = true ↔ ∃ d : Day, found = octets d.text) := by
  match found, h with
  | [d₁, d₂, h₁, m₁, m₂, h₂, y₁, y₂, y₃, y₄], _ =>
    obtain ⟨day, hday, hdayIff⟩ := @digitsFrom_eq_padded [d₁, d₂] 1 rfl (by decide)
    obtain ⟨month, hmonth, hmonthIff⟩ := @digitsFrom_eq_padded [m₁, m₂] 1 rfl (by decide)
    obtain ⟨year, hyear, hyearIff⟩ := @digitsFrom_eq_padded [y₁, y₂, y₃, y₄] 3 rfl (by decide)
    rw [checkOctets_eq hday hmonth hyear]
    split
    · next hhyphens =>
      obtain ⟨verdict, hverdict, hiff⟩ := namesDay_spec day month year
      refine ⟨verdict, hverdict, hiff.trans (exists_congr fun d => ?_)⟩
      obtain ⟨hdayLt, hmonthLt, hyearLt⟩ := d.lt_pow
      rw [eq_octets_text_iff, hdayIff, hmonthIff, hyearIff]
      exact ⟨fun ⟨hd, hm, hy⟩ => ⟨hhyphens, hd.2, hm.2, hy.2⟩,
        fun ⟨_, hd, hm, hy⟩ => ⟨⟨hdayLt, hd⟩, ⟨hmonthLt, hm⟩, ⟨hyearLt, hy⟩⟩⟩
    · next hhyphens =>
      refine ⟨false, rfl, iff_of_false (by simp) ?_⟩
      rintro ⟨d, hd⟩
      exact hhyphens (eq_octets_text_iff.mp hd).1

/-! ### The check of a text -/

/-- A text is cut behind the octets of its front. -/
theorem cut_append (front back : List Char) :
    Checked.cut (octets front).length (front ++ back) = .ok (front, back) := by
  induction front with
  | nil => unfold Checked.cut; rfl
  | cons c front ih =>
    have hsize : (octets (c :: front)).length = c.utf8Size + (octets front).length := by
      rw [octets, List.flatMap_cons, List.length_append, String.length_utf8EncodeChar]
      rfl
    have hpos := c.utf8Size_pos
    rw [hsize, List.cons_append, Checked.cut, if_neg (by omega)]
    simp only [Nat.add_sub_cancel_left, ih]
    rw [if_pos (by omega)]
    rfl

/-- What stands between quotes is cut out between the first and the last octet. -/
theorem slice_quoted (inner : List Char) :
    Checked.slice ('"' :: inner ++ ['"']) 1 ((octets inner).length + 1) = .ok inner := by
  have hstop : (octets ('"' :: inner)).length = (octets inner).length + 1 := by
    rw [octets, List.flatMap_cons, List.length_append, Nat.add_comm]
    rfl
  have hback := cut_append ('"' :: inner) ['"']
  have hfront := cut_append ['"'] inner
  rw [hstop] at hback
  rw [Checked.slice, hback]
  simp only [bind, Except.bind]
  rw [← List.singleton_append, show 1 = (octets ['"']).length from rfl, hfront]
  rfl

/-- A number that is filled up is written with digits. -/
theorem isDigit_of_mem_padded {width n : Nat} {c : Char} (h : c ∈ padded width n) :
    isDigit c = true := by
  rcases List.mem_append.mp h with hzero | hdigit
  · rw [List.eq_of_mem_replicate hzero]
    decide
  · exact Number.isDigit_of_mem_digitsOf hdigit

/-- A day is written with digits and hyphens. -/
theorem Day.chars_text (d : Day) : ∀ c ∈ d.text, isDigit c = true ∨ c = '-' := by
  intro c hc
  rw [Day.text, List.append_assoc, List.mem_append, List.cons_append, List.mem_cons,
    List.mem_append, List.mem_cons] at hc
  rcases hc with hc | rfl | hc | rfl | hc
  · exact .inl (isDigit_of_mem_padded hc)
  · exact .inr rfl
  · exact .inl (isDigit_of_mem_padded hc)
  · exact .inr rfl
  · exact .inl (isDigit_of_mem_padded hc)

/-- A day is written with two hyphens. -/
theorem Day.count_hyphen (d : Day) : d.text.count '-' = 2 := by
  have hpadded (width n : Nat) : (padded width n).count '-' = 0 :=
    List.count_eq_zero_of_not_mem fun hmem => absurd (isDigit_of_mem_padded hmem) (by decide)
  simp only [Day.text, List.count_append, List.count_cons_self, hpadded]

/-- A day takes ten octets. -/
theorem Day.length_octets (d : Day) : (octets d.text).length = 10 := by
  obtain ⟨hday, hmonth, hyear⟩ := d.lt_pow
  simp only [d.octets_text, List.length_append, List.length_cons, length_octets_padded hday,
    length_octets_padded hmonth, length_octets_padded hyear]

/-- There is no quote in the text of a day. -/
theorem Day.quote_notMem (d : Day) : '"' ∉ d.text := by
  intro hmem
  rcases d.chars_text _ hmem with hdigit | hhyphen
  · exact absurd hdigit (by decide)
  · exact absurd hhyphen (by decide)

/-- Quotes around a text take two octets. -/
theorem length_octets_quoted (inner : List Char) :
    (octets ('"' :: inner ++ ['"'])).length = (octets inner).length + 2 := by
  rw [← List.singleton_append, octets_append, octets_append, List.length_append,
    List.length_append]
  simp only [show (octets ['"']).length = 1 from rfl]
  omega

/-- A text that begins and ends with a quote, and is not one quote alone, stands between quotes. -/
theorem exists_quoted {text : List Char} (hfirst : text.head? = some '"')
    (hlast : text.getLast? = some '"') (hlength : (octets text).length ≠ 1) :
    ∃ inner, text = '"' :: inner ++ ['"'] := by
  obtain ⟨rest, rfl⟩ := List.head?_eq_some_iff.mp hfirst
  rcases List.eq_nil_or_concat rest with rfl | ⟨inner, last, rfl⟩
  · exact absurd rfl hlength
  · rw [List.concat_eq_append, ← List.cons_append, List.getLast?_concat] at hlast
    exact ⟨inner, by rw [List.concat_eq_append, Option.some.inj hlast, List.cons_append]⟩

/-- The check of a text never goes wrong, and accepts the days of the calendar, bare or between
quotes. -/
theorem checkDate_spec (text : List Char) :
    ∃ verdict, checkDate text = .ok verdict ∧
      (verdict = true ↔ ∃ d : Day, text = d.text ∨ text = '"' :: d.text ++ ['"']) := by
  unfold checkDate
  split
  · next hquotes =>
    have hbare (d : Day) : text ≠ d.text := by
      rintro rfl
      exact d.quote_notMem (List.mem_of_mem_head? hquotes.1)
    split
    · next hlength =>
      refine ⟨false, rfl, iff_of_false (by simp) ?_⟩
      rintro ⟨d, hd | rfl⟩
      · exact hbare d hd
      · exact hlength (by rw [length_octets_quoted, d.length_octets])
    · next hlength =>
      obtain ⟨inner, rfl⟩ := exists_quoted hquotes.1 hquotes.2 (by omega)
      have hinner : (octets inner).length = 10 := by
        rw [length_octets_quoted] at hlength
        omega
      obtain ⟨verdict, hverdict, hiff⟩ := checkOctets_spec hinner
      have hslice := slice_quoted inner
      rw [hinner] at hslice
      refine ⟨verdict, by rw [hslice]; exact hverdict, hiff.trans (exists_congr fun d => ?_)⟩
      rw [octets_injective.eq_iff, or_iff_right (hbare d), List.append_left_inj, List.cons_inj_right]
  · next hquotes =>
    have hquoted (d : Day) : text ≠ '"' :: d.text ++ ['"'] := by
      rintro rfl
      exact hquotes ⟨rfl, List.getLast?_concat⟩
    split
    · next hlength =>
      refine ⟨false, rfl, iff_of_false (by simp) ?_⟩
      rintro ⟨d, rfl | hd⟩
      · exact hlength d.length_octets
      · exact hquoted d hd
    · next hlength =>
      obtain ⟨verdict, hverdict, hiff⟩ := checkOctets_spec (not_not.mp hlength)
      refine ⟨verdict, hverdict, hiff.trans (exists_congr fun d => ?_)⟩
      rw [octets_injective.eq_iff, or_iff_left (hquoted d)]

/-- The check accepts exactly the days of the calendar, bare or between quotes. -/
theorem isDate_iff {text : List Char} :
    isDate text = true ↔ ∃ d : Day, text = d.text ∨ text = '"' :: d.text ++ ['"'] := by
  obtain ⟨verdict, hverdict, hiff⟩ := checkDate_spec text
  rw [isDate, hverdict]
  exact hiff

/-- A text without a quote at its front is no text between quotes. -/
theorem isDate_iff_bare {text : List Char} (h : text.head? ≠ some '"') :
    isDate text = true ↔ ∃ d : Day, text = d.text := by
  rw [isDate_iff]
  refine exists_congr fun d => or_iff_left ?_
  rintro rfl
  exact h rfl

/-- The check of a text never goes wrong: it reads octets where there are some, cuts the text
between characters and comes to numbers that fit their words. It accepts exactly the days of the
proleptic Gregorian calendar in the years 1000 to 9999, bare or between one pair of quotes. So a
text that does not begin with a quote is accepted as it is exactly when it is accepted between
quotes. -/
theorem isDate_exact (text : List Char) :
    checkDate text = .ok (isDate text) ∧
      (isDate text = true ↔ ∃ d : Day, text = d.text ∨ text = '"' :: d.text ++ ['"']) ∧
      (text.head? ≠ some '"' →
        (isDate text = true ↔ isDate ('"' :: text ++ ['"']) = true)) := by
  refine ⟨?_, isDate_iff, fun hfirst => ?_⟩
  · obtain ⟨verdict, hverdict, -⟩ := checkDate_spec text
    rw [isDate, hverdict]
  · rw [isDate_iff_bare hfirst, isDate_iff]
    refine exists_congr fun d => ?_
    have hbare : '"' :: text ++ ['"'] ≠ d.text := fun h =>
      d.quote_notMem (h ▸ List.mem_cons_self)
    rw [or_iff_right hbare, List.append_left_inj, List.cons_inj_right]

/-- A leap day is accepted bare, and so between quotes. -/
theorem isDate_exact_leapDay :
    "29-02-2024".toList.head? ≠ some '"' ∧ isDate "29-02-2024".toList = true ∧
      isDate "\"29-02-2024\"".toList = true := by
  have hfirst : "29-02-2024".toList.head? ≠ some '"' := by decide
  have haccepted : isDate "29-02-2024".toList = true := by decide +kernel
  exact ⟨hfirst, haccepted, ((isDate_exact _).2.2 hfirst).mp haccepted⟩

end ApiDrift.Tag
