/-
# Writing a moment by a pattern

`Moment.format?` writes a moment by a pattern, and is `none` when the pattern cannot be read.
Most numbers have two places.  A year has four and a sign outside 0 to 9999, and from 1000 to
9999 padding does not change it.
-/
import Stencil.Calendar.Pattern
import Stencil.Power

namespace Stencil
namespace Pattern

/-- The full names of the months. -/
def monthNames : Array Text :=
  #["January".toList, "February".toList, "March".toList, "April".toList, "May".toList,
    "June".toList, "July".toList, "August".toList, "September".toList, "October".toList,
    "November".toList, "December".toList]

/-- The full names of the days of the week, from Monday on. -/
def weekdayNames : Array Text :=
  #["Monday".toList, "Tuesday".toList, "Wednesday".toList, "Thursday".toList,
    "Friday".toList, "Saturday".toList, "Sunday".toList]

/-- A name, or its first three letters. -/
def nameAt (names : Array Text) (i : Nat) (long : Bool) : Text :=
  let name := names.getD i []
  if long then name else name.take 3

/-- A number of two places, kept in one byte.  A tens place above nine is written as the
character that many after `0`. -/
def twoPlaces (pad : Pad) (n : Int) : Text :=
  let byte := (n % 256).toNat
  let tens := byte / 10
  let ones := Char.ofNat (48 + byte % 10)
  if tens = 0 then
    match pad with
    | .none => [ones]
    | .space => [' ', ones]
    | .zero => ['0', ones]
  else [Char.ofNat (48 + tens), ones]

/-- A number of at least `width` places; zeros stand after its sign and blanks before it. -/
def places (pad : Pad) (width : Nat) (n : Int) (withPlus : Bool) : Text :=
  let sign := if n < 0 then ['-'] else if withPlus then ['+'] else []
  let width := if withPlus then width + 1 else width
  match pad with
  | .none => sign ++ Text.ofNat n.natAbs
  | .zero => sign ++ Text.ofNatPadded (width - sign.length) n.natAbs
  | .space => Text.padLeft ' ' width (sign ++ Text.ofNat n.natAbs)

/-- A year. -/
def yearPlaces (pad : Pad) (year : Int) : Text :=
  if 1000 ≤ year ∧ year ≤ 9999 then Text.ofNat year.toNat
  else places pad 4 year (year < 0 || 10000 ≤ year)

/-- The hour on a clock face. -/
def faceHour (hour : Nat) : Nat := if hour % 12 = 0 then 12 else hour % 12

/-- One number of a moment. -/
def Field.write (pad : Pad) (m : Moment) : Field → Text
  | .year => yearPlaces pad m.date.year
  | .century => twoPlaces pad (m.date.year / 100)
  | .yearOfCentury => twoPlaces pad (m.date.year % 100)
  | .quarter => Text.ofNat m.date.quarter
  | .month => twoPlaces pad m.date.month
  | .day => twoPlaces pad m.date.day
  | .isoYear => yearPlaces pad m.date.isoWeek.1
  | .isoYearOfCentury => twoPlaces pad (m.date.isoWeek.1 % 100)
  | .isoWeek => twoPlaces pad m.date.isoWeek.2
  | .weekFromSunday => twoPlaces pad (m.date.weekFrom 6)
  | .weekFromMonday => twoPlaces pad (m.date.weekFrom 0)
  | .daysFromSunday => Text.ofNat ((m.date.weekday + 1) % 7)
  | .dayFromMonday => Text.ofNat (m.date.weekday + 1)
  | .ordinal => places pad 3 m.date.ordinal false
  | .hour => twoPlaces pad m.clock.hour
  | .hour12 => twoPlaces pad (faceHour m.clock.hour)
  | .minute => twoPlaces pad m.clock.minute
  | .second => twoPlaces pad m.clock.second
  | .nanosecond => places pad 9 m.clock.nanos false
  | .timestamp => places pad 9 m.seconds false

/-- An offset. -/
def Zone.write (offset : Int) (z : Zone) : Text :=
  let sign := if offset < 0 then '-' else '+'
  let n := offset.natAbs
  let rounded := (n + 30) / 60
  let two := Text.ofNatPadded 2
  match z with
  | .compact => sign :: two (rounded / 60) ++ two (rounded % 60)
  | .minutes => sign :: two (rounded / 60) ++ ':' :: two (rounded % 60)
  | .seconds => sign :: two (n / 3600) ++ ':' :: two (n / 60 % 60) ++ ':' :: two (n % 60)
  | .hours => sign :: two (n / 3600)
  | .name => offsetText offset

/-- One part of a pattern. -/
def Item.write (m : Moment) : Item → Text
  | .literal c => [c]
  | .number f pad => f.write pad m
  | .monthName long => nameAt monthNames (m.date.month - 1) long
  | .weekdayName long => nameAt weekdayNames m.date.weekday long
  | .halfDay upper =>
    match upper, decide (12 ≤ m.clock.hour) with
    | true, true => "PM".toList
    | true, false => "AM".toList
    | false, true => "pm".toList
    | false, false => "am".toList
  | .fraction => m.clock.fraction
  | .digits count point =>
    let digits := Text.ofNatPadded count (m.clock.nanos / tenTo (9 - count))
    if point then '.' :: digits else digits
  | .zone z => z.write m.offset
  | .full => m.inspectWith (Zone.minutes.write m.offset)

end Pattern

/-- Writes a moment by a pattern. -/
def Moment.format? (m : Moment) (pattern : Text) : Option Text :=
  (Pattern.parse? pattern).map fun items => items.flatMap (Pattern.Item.write m)

end Stencil
