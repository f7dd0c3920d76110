import MultiTape.Text.Basic

/-!
# Clock readings

A moment in universal time, with its date and its text in the international format.
-/

namespace MultiTape

/-- A moment in universal time. -/
structure Clock where
  /-- The year. -/
  year : Nat
  /-- The month, counted from one. -/
  month : Nat
  /-- The day of the month, counted from one. -/
  day : Nat
  /-- The hour. -/
  hour : Nat
  /-- The minute. -/
  minute : Nat
  /-- The second. -/
  second : Nat
  /-- The millionths of a second. -/
  microsecond : Nat
  deriving DecidableEq, Repr

namespace Clock

/-- A number with zeros put before it. -/
def padded (width n : Nat) : Text := Text.padLeft '0' width (Text.digits 10 n)

/-- The date of a moment, by which log files are named. The year is not padded. -/
def date (now : Clock) : Text :=
  padded 1 now.year ++ .char '-' :: padded 2 now.month ++ .char '-' :: padded 2 now.day

/-- The date and the time of day with a separator between them. Millionths of a second are shown
unless there are none. -/
def stamp (separator : CodePoint) (now : Clock) : Text :=
  padded 4 now.year ++ .char '-' :: padded 2 now.month ++ .char '-' :: padded 2 now.day ++
    separator :: padded 2 now.hour ++ .char ':' :: padded 2 now.minute ++
    .char ':' :: padded 2 now.second ++
    if now.microsecond = 0 then [] else .char '.' :: padded 6 now.microsecond

/-- The text of a moment with its offset from universal time, which is none. -/
def timestamp (now : Clock) : Text := now.stamp 'T' ++ "+00:00".toText

end Clock

end MultiTape
