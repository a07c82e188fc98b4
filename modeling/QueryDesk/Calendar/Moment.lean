import QueryDesk.Calendar.DateText

/-!
# Moments

Points in time counted from the start of 1970, and their text: a date and a time of day at
offset zero, with as many digits of the second as groups of three need.
-/

namespace QueryDesk

/-- A point in time, in nanoseconds since the start of 1970. -/
structure Moment where
  nanoseconds : Nat
deriving DecidableEq, Repr, Inhabited

namespace Moment

/-- The nanoseconds of a second. -/
def perSecond : Nat := 1000000000

/-- The number of the first of January of 1970 among the days of the calendar. -/
def firstDay : Int := Calendar.daysBeforeYear 1970

/-- Whole seconds since the start of 1970. -/
def seconds (m : Moment) : Nat := m.nanoseconds / perSecond

/-- The day of the moment, while the calendar lasts. -/
def date? (m : Moment) : Option Date :=
  Date.ofNumber? (firstDay + (m.seconds / 86400 : Nat))

/-- A part of a second: nothing, or three, six or nine digits after a point. -/
def fractionText (nanoseconds : Nat) : List Char :=
  if nanoseconds = 0 then []
  else if nanoseconds % 1000000 = 0 then '.' :: Date.padded 3 (nanoseconds / 1000000)
  else if nanoseconds % 1000 = 0 then '.' :: Date.padded 6 (nanoseconds / 1000)
  else '.' :: Date.padded 9 nanoseconds

def timeText (m : Moment) : List Char :=
  let s := m.seconds % 86400
  Date.padded 2 (s / 3600) ++ ':' :: Date.padded 2 (s / 60 % 60) ++ ':' ::
    Date.padded 2 (s % 60) ++ fractionText (m.nanoseconds % perSecond)

/-- The moment as text, with the offset written as given. -/
def text (m : Moment) (offset : String) : String :=
  String.ofList ((m.date?.getD Date.first).chars ++ 'T' :: m.timeText) ++ offset

end Moment

end QueryDesk
