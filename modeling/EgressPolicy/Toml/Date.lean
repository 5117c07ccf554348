/-
EgressPolicy/Toml/Date.lean

Dates and times.

A date, a time of day, or both; and with both a distance from universal time.
They are checked and not kept.
-/
import EgressPolicy.Toml.Reader

namespace EgressPolicy.Toml.Reader

/-- A number of two digits from `low` to `high`. -/
def twoDigits (low high : Nat) : Reader Nat := do
  let n ← number 10 2
  if low ≤ n ∧ n ≤ high then return n else failure

/-- The year has a 29 February. -/
def isLeap (year : Nat) : Bool := year % 4 = 0 && (year % 100 != 0 || year % 400 = 0)

/-- The length of a month. -/
def daysIn (year month : Nat) : Nat :=
  if month = 2 then (if isLeap year then 29 else 28)
  else if month ∈ [4, 6, 9, 11] then 30
  else 31

/-- A day of the calendar. -/
def day : Reader Unit := do
  let year ← number 10 4
  char '-'
  let month ← twoDigits 1 12
  char '-'
  let _ ← twoDigits 1 (daysIn year month)

/-- A time of day, with a leap second at most. -/
def time : Reader Unit := do
  let _ ← twoDigits 0 23
  char ':'
  let _ ← twoDigits 0 59
  char ':'
  let _ ← twoDigits 0 60
  let _ ← maybe do
    char '.'
    let _ ← oneOf Char.isDigit
    stretch Char.isDigit

/-- A distance from universal time. -/
def zone : Reader Unit :=
  (do let _ ← oneOf fun c => c = 'Z' || c = 'z') <|> do
    let _ ← oneOf fun c => c = '+' || c = '-'
    let _ ← twoDigits 0 23
    char ':'
    let _ ← twoDigits 0 59

/-- A date, a time, or both. -/
def date : Reader Unit :=
  (do
    day
    let _ ← maybe do
      let _ ← oneOf fun c => c = 'T' || c = 't' || c = ' '
      time
      maybe zone) <|> time

end EgressPolicy.Toml.Reader
