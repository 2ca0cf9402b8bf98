import EventsAggregator.Db.Models

namespace EventsAggregator

def isLeap (year : Nat) : Bool :=
  year % 4 = 0 ∧ (year % 100 ≠ 0 ∨ year % 400 = 0)

def daysInMonth (year month : Nat) : Nat :=
  if month = 2 then if isLeap year then 29 else 28
  else if month = 4 ∨ month = 6 ∨ month = 9 ∨ month = 11 then 30
  else 31

@[ext]
structure Date where
  year : Nat
  month : Nat
  day : Nat
  yearBounds : 1 ≤ year ∧ year ≤ 9999
  monthBounds : 1 ≤ month ∧ month ≤ 12
  dayBounds : 1 ≤ day ∧ day ≤ daysInMonth year month
  deriving DecidableEq

namespace Date

def daysBeforeYear (year : Nat) : Nat :=
  (year - 1) * 365 + (year - 1) / 4 - (year - 1) / 100 + (year - 1) / 400

def daysBeforeMonth (year month : Nat) : Nat :=
  ((List.range' 1 (month - 1)).map (daysInMonth year)).sum

/-- January 1 of year 1 is day 1. -/
def toordinal (date : Date) : Nat :=
  daysBeforeYear date.year + daysBeforeMonth date.year date.month + date.day

def midnight (date : Date) : Instant :=
  (date.toordinal - 1) * microsecondsPerDay

def padded (width n : Nat) : List Char := (Nat.toDigits 10 n).leftpad width '0'

def isoformat (date : Date) : String :=
  String.ofList (padded 4 date.year ++ '-' :: padded 2 date.month ++ '-' :: padded 2 date.day)

def of? (year month day : Nat) : Option Date :=
  if valid : (1 ≤ year ∧ year ≤ 9999) ∧ (1 ≤ month ∧ month ≤ 12) ∧
      1 ≤ day ∧ day ≤ daysInMonth year month then
    some ⟨year, month, day, valid.1, valid.2.1, valid.2.2⟩
  else none

def number (digits : List Char) : Option Nat :=
  if digits.all Char.isDigit then some (Nat.ofDigitChars 10 digits 0) else none

def fromisoformat (text : String) : Option Date := do
  let chars := text.toList
  guard (chars.length = 10 ∧ chars[4]? = some '-' ∧ chars[7]? = some '-')
  let year ← number (chars.take 4)
  let month ← number ((chars.drop 5).take 2)
  let day ← number (chars.drop 8)
  of? year month day

theorem of?_self (date : Date) : of? date.year date.month date.day = some date :=
  dif_pos ⟨date.yearBounds, date.monthBounds, date.dayBounds⟩

theorem padded_length {width n : Nat} (positive : 0 < width) (bound : n < 10 ^ width) :
    (padded width n).length = width := by
  have digits := (Nat.length_toDigits_le_iff (b := 10) (by decide) positive).mpr bound
  rw [padded, List.length_leftpad]
  omega

theorem number_padded (width n : Nat) : number (padded width n) = some n := by
  have digits : (padded width n).all Char.isDigit = true := by
    rw [List.all_eq_true]
    intro c inside
    rcases List.mem_append.mp inside with zero | inside
    · rw [List.eq_of_mem_replicate zero]
      decide
    · exact Nat.isDigit_of_mem_toDigits (by decide) (by decide) inside
  rw [number, if_pos digits, padded, List.leftpad, Nat.ofDigitChars_append,
    Nat.ofDigitChars_replicate_zero, Nat.mul_zero, Nat.ofDigitChars_ten_toDigits]

theorem day_le (date : Date) : date.day ≤ 31 := by
  have bound := date.dayBounds.2
  unfold daysInMonth at bound
  split at bound
  · split at bound <;> omega
  · split at bound <;> omega

theorem fromisoformat_isoformat (date : Date) : fromisoformat date.isoformat = some date := by
  have year : (padded 4 date.year).length = 4 :=
    padded_length (by decide) (Nat.lt_succ_of_le date.yearBounds.2)
  have month : (padded 2 date.month).length = 2 :=
    padded_length (by decide) (Nat.lt_of_le_of_lt date.monthBounds.2 (by decide))
  have day : (padded 2 date.day).length = 2 :=
    padded_length (by decide) (Nat.lt_of_le_of_lt date.day_le (by decide))
  have parts (a b c : List Char) (first : a.length = 4) (second : b.length = 2)
      (third : c.length = 2) : (a ++ '-' :: b ++ '-' :: c).length = 10 ∧
        (a ++ '-' :: b ++ '-' :: c)[4]? = some '-' ∧
        (a ++ '-' :: b ++ '-' :: c)[7]? = some '-' ∧
        (a ++ '-' :: b ++ '-' :: c).take 4 = a ∧
        ((a ++ '-' :: b ++ '-' :: c).drop 5).take 2 = b ∧
        (a ++ '-' :: b ++ '-' :: c).drop 8 = c := by
    match a, b, c, first, second, third with
    | [_, _, _, _], [_, _], [_, _], _, _, _ => simp
  obtain ⟨length, first, second, years, months, days⟩ := parts _ _ _ year month day
  unfold fromisoformat isoformat
  simp only [String.toList_ofList, length, first, second, years, months, days, number_padded,
    and_self, guard, if_true, Option.pure_def, Option.bind_eq_bind, Option.bind_some, of?_self]

example : (Date.mk 2026 1 1 (by decide) (by decide) (by decide)).isoformat = "2026-01-01" := by
  decide

end Date

end EventsAggregator
