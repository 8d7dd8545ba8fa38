/-
# Patterns for dates and times

A pattern is text with specifiers: a percent sign, an optional sign for padding, and a letter.
Reading a pattern gives the items it is made of, or nothing when it has a specifier that does
not exist, or padding on something other than one number (`Pattern.parse?`).

The reader is a machine with one state for each place inside a specifier; a pattern may only
end between specifiers.
-/
import Stencil.Calendar.Moment

namespace Stencil
namespace Pattern

/-- How a number is filled up to its width. -/
inductive Pad
  | none
  | zero
  | space
deriving DecidableEq

/-- A number taken from a moment. -/
inductive Field
  | year | century | yearOfCentury | quarter | month | day
  | isoYear | isoYearOfCentury | isoWeek
  | weekFromSunday | weekFromMonday | daysFromSunday | dayFromMonday | ordinal
  | hour | hour12 | minute | second | nanosecond | timestamp
deriving DecidableEq

/-- How far an offset is written. -/
inductive Zone
  /-- Hours and minutes, rounded, without a colon. -/
  | compact
  /-- Hours and minutes, rounded. -/
  | minutes
  /-- Hours, minutes and seconds. -/
  | seconds
  /-- Hours only. -/
  | hours
  /-- The name of the zone, which is its offset. -/
  | name
deriving DecidableEq

/-- A part of a pattern. -/
inductive Item
  | literal (c : Char)
  | number (f : Field) (pad : Pad)
  | monthName (long : Bool)
  | weekdayName (long : Bool)
  | halfDay (upper : Bool)
  /-- A fraction with as many groups of three digits as it needs, and its point. -/
  | fraction
  /-- A fraction with a fixed number of digits, with or without a point. -/
  | digits (count : Nat) (point : Bool)
  | zone (z : Zone)
  /-- The whole moment: date, time and offset. -/
  | full
deriving DecidableEq

/-- The number that a letter stands for, and its usual padding. -/
def field? : Char → Option (Field × Pad)
  | 'Y' => some (.year, .zero)
  | 'C' => some (.century, .zero)
  | 'y' => some (.yearOfCentury, .zero)
  | 'q' => some (.quarter, .none)
  | 'm' => some (.month, .zero)
  | 'd' => some (.day, .zero)
  | 'e' => some (.day, .space)
  | 'G' => some (.isoYear, .zero)
  | 'g' => some (.isoYearOfCentury, .zero)
  | 'V' => some (.isoWeek, .zero)
  | 'U' => some (.weekFromSunday, .zero)
  | 'W' => some (.weekFromMonday, .zero)
  | 'w' => some (.daysFromSunday, .none)
  | 'u' => some (.dayFromMonday, .none)
  | 'j' => some (.ordinal, .zero)
  | 'H' => some (.hour, .zero)
  | 'k' => some (.hour, .space)
  | 'I' => some (.hour12, .zero)
  | 'l' => some (.hour12, .space)
  | 'M' => some (.minute, .zero)
  | 'S' => some (.second, .zero)
  | 'f' => some (.nanosecond, .zero)
  | 's' => some (.timestamp, .none)
  | _ => none

/-- A number with zeros. -/
def zeros (f : Field) : Item := .number f .zero

/-- Month, day and year of the century, between slashes. -/
def slashDate : List Item := [zeros .month, .literal '/', zeros .day, .literal '/', zeros .yearOfCentury]

/-- Hour, minute and second, between colons. -/
def clockTime : List Item := [zeros .hour, .literal ':', zeros .minute, .literal ':', zeros .second]

/-- The items of a letter that takes no padding. -/
def letter? : Char → Option (List Item)
  | 'B' => some [.monthName true]
  | 'b' => some [.monthName false]
  | 'h' => some [.monthName false]
  | 'A' => some [.weekdayName true]
  | 'a' => some [.weekdayName false]
  | 'p' => some [.halfDay true]
  | 'P' => some [.halfDay false]
  | 'D' => some slashDate
  | 'x' => some slashDate
  | 'F' => some [zeros .year, .literal '-', zeros .month, .literal '-', zeros .day]
  | 'v' => some [.number .day .space, .literal '-', .monthName false, .literal '-', zeros .year]
  | 'R' => some [zeros .hour, .literal ':', zeros .minute]
  | 'T' => some clockTime
  | 'X' => some clockTime
  | 'r' =>
    some [zeros .hour12, .literal ':', zeros .minute, .literal ':', zeros .second, .literal ' ',
      .halfDay true]
  | 'c' =>
    some ([.weekdayName false, .literal ' ', .monthName false, .literal ' ',
      .number .day .space, .literal ' '] ++ clockTime ++ [.literal ' ', zeros .year])
  | 'Z' => some [.zone .name]
  | 'z' => some [.zone .compact]
  | '+' => some [.full]
  | 'n' => some [.literal '\n']
  | 't' => some [.literal '\t']
  | '%' => some [.literal '%']
  | _ => none

/-- A place in a pattern. -/
inductive State
  | between
  | percent
  | padded (pad : Pad)
  | colons (count : Nat)
  | point
  | count (digits : Nat) (point : Bool)
deriving DecidableEq

/-- Reads one character: the items it completes and the next state. -/
def step : State → Char → Option (List Item × State)
  | .between, c => if c = '%' then some ([], .percent) else some ([.literal c], .between)
  | .percent, c =>
    match c with
    | '-' => some ([], .padded .none)
    | '0' => some ([], .padded .zero)
    | '_' => some ([], .padded .space)
    | ':' => some ([], .colons 1)
    | '.' => some ([], .point)
    | '3' => some ([], .count 3 false)
    | '6' => some ([], .count 6 false)
    | '9' => some ([], .count 9 false)
    | c =>
      match field? c with
      | some (f, pad) => some ([.number f pad], .between)
      | none => (letter? c).map fun items => (items, .between)
  | .padded pad, c => (field? c).map fun f => ([.number f.1 pad], .between)
  | .colons n, c =>
    match n, c with
    | 1, 'z' => some ([.zone .minutes], .between)
    | 2, 'z' => some ([.zone .seconds], .between)
    | 3, 'z' => some ([.zone .hours], .between)
    | n, ':' => some ([], .colons (n + 1))
    | _, _ => none
  | .point, c =>
    match c with
    | 'f' => some ([.fraction], .between)
    | '3' => some ([], .count 3 true)
    | '6' => some ([], .count 6 true)
    | '9' => some ([], .count 9 true)
    | _ => none
  | .count n point, c => if c = 'f' then some ([.digits n point], .between) else none

/-- Reads the rest of a pattern from a state on. -/
def parseFrom : State → Text → Option (List Item)
  | .between, [] => some []
  | _, [] => none
  | state, c :: rest =>
    match step state c with
    | none => none
    | some (items, state) => (parseFrom state rest).map (items ++ ·)

/-- The items of a pattern. -/
def parse? (pattern : Text) : Option (List Item) := parseFrom .between pattern

end Pattern
end Stencil
