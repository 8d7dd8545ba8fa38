/-
# Moments

A moment is a number of seconds from the start of 1970 in universal time, with nanoseconds and
the offset of the place it is told for.  Nanoseconds from 1000000000 on mark a leap second.

`Moment.date` and `Moment.clock` tell it in local time, and `Moment.inspect` writes it as shown
to a programmer: date, `T`, time with as many groups of three digits as its fraction needs, and
the offset.
-/
import Stencil.Calendar.Civil
import Stencil.Text.Numeral

namespace Stencil

/-- A point in time at some place. -/
structure Moment where
  /-- Seconds from the start of 1970 in universal time. -/
  seconds : Int
  nanos : Nat
  /-- Seconds that local time is ahead of universal time. -/
  offset : Int
deriving DecidableEq

/-- A time of day. -/
structure Clock where
  hour : Nat
  minute : Nat
  /-- From 0 to 59, and 60 in a leap second. -/
  second : Nat
  /-- Below 1000000000. -/
  nanos : Nat
deriving DecidableEq

namespace Moment

/-- The same point in time, told in universal time. -/
def utc (m : Moment) : Moment := { m with offset := 0 }

/-- Seconds from the start of 1970 in local time. -/
def localSeconds (m : Moment) : Int := m.seconds + m.offset

/-- The local date. -/
def date (m : Moment) : Civil := Civil.ofDays (m.localSeconds / 86400)

/-- The local time of day. -/
def clock (m : Moment) : Clock :=
  let second := (m.localSeconds % 86400).toNat
  { hour := second / 3600
    minute := second / 60 % 60
    second := second % 60 + m.nanos / 1000000000
    nanos := m.nanos % 1000000000 }

end Moment

/-- A fraction of a second with its point: nothing, or three, six or nine digits. -/
def Clock.fraction (c : Clock) : Text :=
  if c.nanos = 0 then []
  else if c.nanos % 1000000 = 0 then '.' :: Text.ofNatPadded 3 (c.nanos / 1000000)
  else if c.nanos % 1000 = 0 then '.' :: Text.ofNatPadded 6 (c.nanos / 1000)
  else '.' :: Text.ofNatPadded 9 c.nanos

/-- Hours, minutes, seconds and fraction. -/
def Clock.inspect (c : Clock) : Text :=
  Text.ofNatPadded 2 c.hour ++ ':' :: Text.ofNatPadded 2 c.minute
    ++ ':' :: Text.ofNatPadded 2 c.second ++ c.fraction

/-- An integer with its sign and at least `digits` digits. -/
def signedPadded (digits : Nat) (n : Int) : Text :=
  (if n < 0 then '-' else '+') :: Text.ofNatPadded digits n.natAbs

/-- Year, month and day; a year outside 0 to 9999 has a sign. -/
def Civil.inspect (d : Civil) : Text :=
  (if 0 ≤ d.year ∧ d.year ≤ 9999 then Text.ofNatPadded 4 d.year.toNat else signedPadded 4 d.year)
    ++ '-' :: Text.ofNatPadded 2 d.month ++ '-' :: Text.ofNatPadded 2 d.day

/-- An offset as hours and minutes, and seconds if there are any. -/
def offsetText (offset : Int) : Text :=
  let n := offset.natAbs
  (if offset < 0 then '-' else '+') :: Text.ofNatPadded 2 (n / 3600)
    ++ ':' :: Text.ofNatPadded 2 (n / 60 % 60)
    ++ if n % 60 = 0 then [] else ':' :: Text.ofNatPadded 2 (n % 60)

/-- Local date and time with `zone` after it. -/
def Moment.inspectWith (m : Moment) (zone : Text) : Text :=
  m.date.inspect ++ 'T' :: m.clock.inspect ++ zone

/-- Local date and time with the offset. -/
def Moment.inspect (m : Moment) : Text := m.inspectWith (offsetText m.offset)

/-- Universal date and time. -/
def Moment.inspectUtc (m : Moment) : Text := m.utc.inspectWith ['Z']

end Stencil
