import TraitDoc.Text.Basic
/-!
# Dates and times in YAML

A date is a year, a month and a day; a time of day with an offset from universal
time may follow. A plain scalar that is a date alone looks like one only with
two digits for month and day. What has the form of a date may still be none,
such as the thirtieth of February.

## Main definitions

* `Moment`, `Moment.ofText?` — dates and times and their form.
* `Moment.looksMoment` — the plain scalars that are dates or times.
* `Moment.isReal` — whether the calendar and the clock have it.
-/

namespace TraitDoc.Yaml

/-- A time of day, with the hours and minutes of its offset from universal time. -/
structure Clock where
  hour : Nat
  minute : Nat
  second : Nat
  offset : Option (Nat × Nat)
deriving DecidableEq, Repr

/-- A date, with a time of day or without. -/
structure Moment where
  year : Nat
  month : Nat
  day : Nat
  clock : Option Clock
deriving DecidableEq, Repr

namespace Moment

/-! ## Form -/

/-- The number of at least `least` and at most `most` digits that the text begins with, and what follows. -/
def digits? (least most : Nat) (s : Text) : Option (Nat × Text) :=
  let run := (s.take most).takeWhile Char.isDigit
  if run.length < least then none
  else some (run.foldl (fun n c => 10 * n + (c.toNat - '0'.toNat)) 0, s.drop run.length)

/-- What follows a character that must come first. -/
def after? (mark : Char) (s : Text) : Option Text :=
  match s with
  | c :: rest => if c == mark then some rest else none
  | [] => none

/-- Whether the character is a space or a tab. -/
def isSpace (c : Char) : Bool := c == ' ' || c == '\t'

/-- The offset that the text spells, where nothing at all stands for none. -/
def offset? (s : Text) : Option (Option (Nat × Nat)) :=
  match s.dropWhile isSpace with
  | [] => if s.isEmpty then some none else none
  | ['Z'] => some (some (0, 0))
  | sign :: rest => do
    guard (sign == '+' || sign == '-')
    let (hours, rest) ← digits? 1 2 rest
    match rest with
    | [] => return some (hours, 0)
    | rest =>
      let (minutes, rest) ← digits? 2 2 (← after? ':' rest)
      guard rest.isEmpty
      return some (hours, minutes)

/-- The time of day that the text spells. -/
def clock? (s : Text) : Option Clock := do
  let (hour, s) ← digits? 1 2 s
  let (minute, s) ← digits? 2 2 (← after? ':' s)
  let (second, s) ← digits? 2 2 (← after? ':' s)
  let s := if s.head? == some '.' then s.tail.dropWhile Char.isDigit else s
  return ⟨hour, minute, second, ← offset? s⟩

/-- The date or time that the whole text spells. -/
def spelled? (s : Text) : Option Moment := do
  let (year, s) ← digits? 4 4 s
  let (month, s) ← digits? 1 2 (← after? '-' s)
  let (day, s) ← digits? 1 2 (← after? '-' s)
  match s with
  | [] => return ⟨year, month, day, none⟩
  | c :: rest =>
    let time ←
      if c == 'T' || c == 't' then some rest
      else if isSpace c then some (rest.dropWhile isSpace) else none
    return ⟨year, month, day, some (← clock? time)⟩

/-- The date or time that the text has the form of, where a line feed at its end does not count. -/
def ofText? (s : Text) : Option Moment := spelled? s.withoutLineFeed

/-- The number of characters of a date with two digits for month and day. -/
def dateLength : Nat := 10

/-- Whether a plain scalar looks like a date or a time. -/
def looksMoment (s : Text) : Bool :=
  match spelled? s with
  | none => false
  | some m => m.clock.isSome || s.length == dateLength

/-! ## Calendar and clock -/

/-- Whether the year has a leap day. -/
def isLeap (year : Nat) : Bool := year % 4 == 0 && (year % 100 != 0 || year % 400 == 0)

/-- The number of days of a month. -/
def daysIn (year month : Nat) : Nat :=
  if month == 2 then if isLeap year then 29 else 28
  else if month == 4 || month == 6 || month == 9 || month == 11 then 30 else 31

/-- Whether the clock shows the time, at an offset of less than a day. -/
def clockShows (c : Clock) : Bool :=
  c.hour < 24 && c.minute < 60 && c.second < 60 &&
    c.offset.all fun o => 60 * o.1 + o.2 < 24 * 60

/-- Whether the calendar has the date and the clock shows the time. -/
def isReal (m : Moment) : Bool :=
  1 ≤ m.year && 1 ≤ m.month && m.month ≤ 12 && 1 ≤ m.day && m.day ≤ daysIn m.year m.month &&
    m.clock.all clockShows

end Moment

end TraitDoc.Yaml
