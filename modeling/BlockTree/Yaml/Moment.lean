import BlockTree.Yaml.Number

/-!
Plain words for moments: a date, or a date with a time of day and the offset of a time zone.

* `moment?`: the moment that a word of the right form stands for, or what is out of range in it;
* `Moment.spelling`: two moments are the same if they are spelled the same.
-/

namespace BlockTree.Yaml

/-! ### Parts of a word -/

/-- A number with so many digits, at least and at most, at the start of a text. -/
def number? (least most : Nat) (text : Text) : Option (Nat × Text) :=
  let digits := (text.take most).takeWhile Char.isDigit
  if digits.length < least then none else some (valueIn 10 digits, text.drop digits.length)

/-- The day, month and year of a date. -/
structure Date where
  year : Nat
  month : Nat
  day : Nat
  deriving DecidableEq, Repr

/-- A time of day, and the offset of its time zone in seconds. -/
structure Clock where
  hour : Nat
  minute : Nat
  second : Nat
  micros : Nat
  offset : Option Int
  deriving DecidableEq, Repr

/-- A date, whose month and day have at least so many digits. -/
def date? (least : Nat) (text : Text) : Option (Date × Text) := do
  let (year, rest) ← number? 4 4 text
  let rest ← rest.after? ['-']
  let (month, rest) ← number? least 2 rest
  let rest ← rest.after? ['-']
  let (day, rest) ← number? least 2 rest
  return (⟨year, month, day⟩, rest)

/-- The millionths in the fraction of a second; further digits do not count. -/
def micros (digits : Text) : Nat :=
  valueIn 10 ((digits.take 6).rightpad 6 '0')

/-- A fraction of a second, if there is one. -/
def fraction : Text → Nat × Text
  | '.' :: rest => (micros (rest.takeWhile Char.isDigit), rest.dropWhile Char.isDigit)
  | text => (0, text)

/-- The offset of a time zone in seconds: hours, and minutes after a colon. -/
def offset? (text : Text) : Option Int := do
  let (hours, rest) ← number? 1 2 text
  match rest with
  | [] => return 3600 * hours
  | ':' :: rest =>
    let (minutes, rest) ← number? 2 2 rest
    if rest.isEmpty then return 3600 * hours + 60 * minutes else none
  | _ => none

/-- What ends a time of day: nothing, or a time zone after blanks. -/
def zone? (text : Text) : Option (Option Int) :=
  match text, text.dropWhile fun c => c = ' ' || c = '\t' with
  | [], _ => some none
  | _, ['Z'] => some (some 0)
  | _, '+' :: rest => (offset? rest).map some
  | _, '-' :: rest => (offset? rest).map fun seconds => some (-seconds)
  | _, _ => none

/-- What stands between a date and a time of day: a letter or blanks. -/
def afterDate? : Text → Option Text
  | 'T' :: rest => some rest
  | 't' :: rest => some rest
  | text =>
    let rest := text.dropWhile fun c => c = ' ' || c = '\t'
    if rest.length < text.length then some rest else none

/-- A time of day with all that follows it. -/
def clock? (text : Text) : Option Clock := do
  let (hour, rest) ← number? 1 2 text
  let rest ← rest.after? [':']
  let (minute, rest) ← number? 2 2 rest
  let rest ← rest.after? [':']
  let (second, rest) ← number? 2 2 rest
  let (micros, rest) := fraction rest
  let offset ← zone? rest
  return ⟨hour, minute, second, micros, offset⟩

/-! ### Moments -/

/-- A moment: a day, or a time of one. -/
inductive Moment where
  | day (date : Date)
  | time (date : Date) (clock : Clock)
  deriving DecidableEq, Repr

/-- A leap year has a day more. -/
def isLeapYear (year : Nat) : Bool :=
  year % 4 = 0 && (year % 100 ≠ 0 || year % 400 = 0)

/-- The number of days in a month. -/
def daysIn (year month : Nat) : Nat :=
  if month = 2 then (if isLeapYear year then 29 else 28)
  else if [4, 6, 9, 11].contains month then 30
  else 31

/-- The first part of a date that is out of range. -/
def Date.fault? (date : Date) : Option MomentFault :=
  if date.year = 0 then some (.year date.year)
  else if date.month < 1 || 12 < date.month then some .month
  else if date.day < 1 || daysIn date.year date.month < date.day then some .day
  else none

/-- The first part of a time of day that is out of range, its zone apart. -/
def Clock.fault? (clock : Clock) : Option MomentFault :=
  if 23 < clock.hour then some .hour
  else if 59 < clock.minute then some .minute
  else if 59 < clock.second then some .second
  else none

/-- An offset of a day or more is out of range. -/
def offsetFault? : Option Int → Option MomentFault
  | some seconds => if seconds.natAbs < 86400 then none else some (.offset seconds)
  | none => none

/-- What is out of range: the offset comes first. -/
def Moment.fault? : Moment → Option MomentFault
  | .day date => date.fault?
  | .time date clock => ((offsetFault? clock.offset).or date.fault?).or clock.fault?

/-- The number of days before a date. -/
def Date.ordinal (date : Date) : Nat :=
  let years := date.year - 1
  let months :=
    (List.range (date.month - 1)).foldl (fun days m => days + daysIn date.year (m + 1)) 0
  365 * years + years / 4 - years / 100 + years / 400 + months + (date.day - 1)

/-- The millionths of a second before a moment, by the clock on the wall. -/
def wallMicros (date : Date) (clock : Clock) : Nat :=
  1000000 * (86400 * date.ordinal + 3600 * clock.hour + 60 * clock.minute + clock.second)
    + clock.micros

/-- The text that two moments share if they are the same. Moments with a time zone are, if they are
the same instant. -/
def Moment.spelling : Moment → Text
  | .day date => "day " ++ Text.decimal date.ordinal
  | .time date clock =>
    let wall : Int := wallMicros date clock
    match clock.offset with
    | none => "time " ++ Text.integer wall
    | some seconds => "instant " ++ Text.integer (wall - 1000000 * seconds)

/-- The form of a moment that a word has. -/
def momentForm? (word : Text) : Option Moment :=
  match date? 2 word with
  | some (date, []) => some (.day date)
  | _ =>
    (date? 1 word).bind fun (date, rest) =>
      ((afterDate? rest).bind clock?).map (.time date)

/-- The moment that a word stands for. -/
def moment? (word : Text) : Option (Except Fault Moment) :=
  (momentForm? word).map fun moment =>
    match moment.fault? with
    | some fault => .error (.badMoment fault)
    | none => .ok moment

end BlockTree.Yaml
