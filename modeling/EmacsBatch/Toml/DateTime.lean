import EmacsBatch.Toml.Number

/-!
# Dates and times in configuration files

A date, a time of day, or both, the latter with an optional offset. The parts are checked
against the calendar and then dropped: no setting is a date, so nothing but the presence of
one can matter.
-/

namespace EmacsBatch.Toml

/-- A number of exactly so many decimal digits, within limits. -/
def fixedDigits (count low high : Nat) : Scan Nat := do
  let cs ← Scan.upTo (Scan.satisfy Char.isDigit) count
  let n := numberOf 10 cs
  if cs.length = count ∧ low ≤ n ∧ n ≤ high then return n else failure

/-- Whether a year has a leap day. -/
def isLeapYear (year : Nat) : Bool := year % 4 = 0 && (year % 100 ≠ 0 || year % 400 = 0)

/-- The number of days of a month. -/
def daysIn (year month : Nat) : Nat :=
  if month = 2 then (if isLeapYear year then 29 else 28)
  else if month = 4 ∨ month = 6 ∨ month = 9 ∨ month = 11 then 30
  else 31

/-- A date. -/
def date : Scan Unit := do
  let year ← fixedDigits 4 0 9999
  Scan.char '-'
  let month ← fixedDigits 2 1 12
  Scan.char '-'
  let _ ← fixedDigits 2 1 (daysIn year month)

/-- A time of day; its seconds may have a fraction and may be a leap second. -/
def time : Scan Unit := do
  let _ ← fixedDigits 2 0 23
  Scan.char ':'
  let _ ← fixedDigits 2 0 59
  Scan.char ':'
  let _ ← fixedDigits 2 0 60
  let _ ← Scan.optional do
    Scan.char '.'
    let _ ← Scan.satisfy Char.isDigit
    let _ ← Scan.takeWhile Char.isDigit

/-- The offset of a time from universal time. -/
def timeOffset : Scan Unit :=
  Scan.char 'Z' <|> Scan.char 'z' <|> do
    Scan.char '+' <|> Scan.char '-'
    let _ ← fixedDigits 2 0 23
    Scan.char ':'
    let _ ← fixedDigits 2 0 59

/-- A date, a time, or a date with a time. -/
def dateTime : Scan Unit :=
  (do
    date
    let _ ← Scan.optional do
      Scan.char 'T' <|> Scan.char 't' <|> Scan.char ' '
      time
      Scan.optional timeOffset)
    <|> time

end EmacsBatch.Toml
