/-!
# Days

Dates of the Gregorian calendar from counts of days. Years are counted from March here, so that the
leap day is the last of its year, and four hundred years always have the same number of days.
-/

namespace QuizBank

/-- A date. -/
structure Day where
  year : Int
  month : Nat
  day : Nat
  deriving DecidableEq

namespace Day

/-- The number of days from March 1 of year 0 to January 1, 1970. -/
def epoch : Int := 719468

/-- The number of days of four hundred years. -/
def cycle : Int := 146097

/-- The date that comes `n` days after January 1, 1970. -/
def ofCount (n : Int) : Day :=
  let days := n + epoch
  let inCycle := (days % cycle).toNat
  let yearInCycle := (inCycle - inCycle / 1460 + inCycle / 36524 - inCycle / 146096) / 365
  let inYear := inCycle - (365 * yearInCycle + yearInCycle / 4 - yearInCycle / 100)
  let monthFromMarch := (5 * inYear + 2) / 153
  let month := if monthFromMarch < 10 then monthFromMarch + 3 else monthFromMarch - 9
  let year := yearInCycle + days / cycle * 400
  ⟨if month ≤ 2 then year + 1 else year, month, inYear - (153 * monthFromMarch + 2) / 5 + 1⟩

/-- Digits with zeros in front, up to a width. -/
def padded (width n : Nat) : String :=
  let digits := Nat.toDigits 10 n
  String.ofList (List.replicate (width - digits.length) '0' ++ digits)

/-- The date as year, month and day with dashes between them. -/
def text (d : Day) : String :=
  padded 4 d.year.toNat ++ "-" ++ padded 2 d.month ++ "-" ++ padded 2 d.day

end Day
end QuizBank
