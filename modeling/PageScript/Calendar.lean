/-!
# Calendar

A date and a time of day, and the two written forms a run gives its scripts.
-/

namespace PageScript

/-- A date and a time of day, to the second. -/
structure Calendar where
  year : Nat
  month : Nat
  day : Nat
  hour : Nat
  minute : Nat
  second : Nat
  deriving DecidableEq, Repr

namespace Calendar

/-- The last two digits of a number. -/
def twoDigits (n : Nat) : String :=
  String.ofList [Nat.digitChar (n / 10 % 10), Nat.digitChar (n % 10)]

/-- At least four digits of a number. -/
def fourDigits (n : Nat) : String :=
  if n < 10000 then twoDigits (n / 100) ++ twoDigits n else toString n

/-- A date and time as one word, in figures: the year's last two, month and day, then after a low
line hour, minute and second. -/
def stamp (c : Calendar) : String :=
  twoDigits c.year ++ twoDigits c.month ++ twoDigits c.day ++ "_"
    ++ twoDigits c.hour ++ twoDigits c.minute ++ twoDigits c.second

/-- A date with slashes: month, day, year. -/
def date (c : Calendar) : String :=
  twoDigits c.month ++ "/" ++ twoDigits c.day ++ "/" ++ fourDigits c.year

end Calendar
end PageScript
