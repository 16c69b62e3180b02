import FormFill.Text.Search
import FormFill.Yaml.Fault

/-!
# Dates and times

A date, with a time of day or without one. The time may be followed by its offset from universal time.
-/

namespace FormFill.Yaml

/-- A time of day, with its offset in minutes if it has one. -/
structure TimeOfDay where
  hour : Nat
  minute : Nat
  second : Nat
  microsecond : Nat
  offset : Option Int
  deriving DecidableEq, Repr

/-- A date, with a time of day or without one. -/
structure Moment where
  year : Nat
  month : Nat
  day : Nat
  time : Option TimeOfDay
  deriving DecidableEq, Repr

namespace Moment

/-- The number that decimal digits denote. -/
def number (digits : Text) : Nat := digits.foldl (fun value c => value * 10 + (c.toNat - 48)) 0

/-- Takes between one and two digits, as many as there are, or exactly two. -/
def takeDigits? (least : Nat) (text : Text) : Option (Text × Text) :=
  let digits := (text.take 2).takeWhile Char.isDigit
  if least ≤ digits.length then some (digits, text.drop digits.length) else none

/-- Takes one given character. -/
def takeChar? (c : Char) (text : Text) : Option Text := Text.after? [c] text

/-- A written date: the year, and the digits of the month and the day. -/
structure WrittenDate where
  year : Nat
  month : Text
  day : Text

/-- Takes a date. -/
def takeDate? (text : Text) : Option (WrittenDate × Text) := do
  let year := text.takeWhile Char.isDigit
  if year.length != 4 then none
  let rest ← takeChar? '-' (text.drop 4)
  let (month, rest) ← takeDigits? 1 rest
  let rest ← takeChar? '-' rest
  let (day, rest) ← takeDigits? 1 rest
  pure (⟨number year, month, day⟩, rest)

/-- Takes what stands between a date and a time. -/
def takeJoint? (text : Text) : Option Text :=
  match text with
  | 'T' :: rest | 't' :: rest => some rest
  | ' ' :: rest | '\t' :: rest => some (rest.dropWhile fun c => c == ' ' || c == '\t')
  | _ => none

/-- The microseconds of the digits after the point of the seconds. -/
def microseconds (digits : Text) : Nat :=
  number ((digits ++ List.replicate 6 '0').take 6)

/-- Takes an offset, in minutes, at the end of a text. -/
def offset? (text : Text) : Option (Option Int) :=
  match text.dropWhile fun c => c == ' ' || c == '\t' with
  | [] => if text.isEmpty then some none else none
  | ['Z'] => some (some 0)
  | sign :: rest =>
    if sign = '+' ∨ sign = '-' then do
      let (hour, rest) ← takeDigits? 1 rest
      let minute ← match rest with
        | [] => pure 0
        | _ => do
          let (minute, rest) ← takeDigits? 2 (← takeChar? ':' rest)
          if rest.isEmpty then pure (number minute) else none
      let minutes : Int := number hour * 60 + minute
      pure (some (if sign = '-' then -minutes else minutes))
    else none

/-- Takes a time of day at the end of a text. -/
def time? (text : Text) : Option TimeOfDay := do
  let (hour, rest) ← takeDigits? 1 text
  let (minute, rest) ← takeDigits? 2 (← takeChar? ':' rest)
  let (second, rest) ← takeDigits? 2 (← takeChar? ':' rest)
  let (fraction, rest) := match rest with
    | '.' :: rest => (rest.takeWhile Char.isDigit, rest.dropWhile Char.isDigit)
    | rest => ([], rest)
  let offset ← offset? rest
  pure ⟨number hour, number minute, number second, microseconds fraction, offset⟩

/-- Reads a written moment, which need not exist, and says whether the month and the day have two
digits each. -/
def read? (text : Text) : Option (Moment × Bool) := do
  let (date, rest) ← takeDate? text
  let full := date.month.length == 2 && date.day.length == 2
  let time ← match rest with
    | [] => pure none
    | _ => do pure (some (← time? (← takeJoint? rest)))
  pure (⟨date.year, number date.month, number date.day, time⟩, full)

/-- Whether a year has a day more than others. -/
def isLeap (year : Nat) : Bool := year % 4 == 0 && (year % 100 != 0 || year % 400 == 0)

/-- The number of days of a month. -/
def daysIn (year month : Nat) : Nat :=
  if month = 2 then (if isLeap year then 29 else 28)
  else if month = 4 ∨ month = 6 ∨ month = 9 ∨ month = 11 then 30
  else 31

/-- The number of days before a year. -/
def daysBeforeYear (year : Nat) : Nat :=
  let past := year - 1
  past * 365 + past / 4 - past / 100 + past / 400

/-- The number of days before a month of a year. -/
def daysBeforeMonth (year month : Nat) : Nat :=
  (List.range (month - 1)).foldl (fun days i => days + daysIn year (i + 1)) 0

/-- The instant of a moment with an offset, in microseconds from the beginning of the first year. -/
def instant? (moment : Moment) : Option Int := do
  let time ← moment.time
  let offset ← time.offset
  let days := daysBeforeYear moment.year + daysBeforeMonth moment.year moment.month + moment.day
  let minutes : Int := (days * 24 + time.hour) * 60 + time.minute
  pure (((minutes - offset) * 60 + time.second) * 1000000 + time.microsecond)

/-- Whether two moments are the same. Those with an offset are compared by their instants. -/
def sameAs (a b : Moment) : Bool :=
  match a.instant?, b.instant? with
  | some s, some t => s == t
  | _, _ => a == b

/-- The offset of a time of day, if it is impossible. -/
def offsetFault? (moment : Moment) : Option MomentFault := do
  let time ← moment.time
  let minutes ← time.offset
  if minutes.natAbs < 1440 then none else some (.offset minutes)

/-- What is impossible about the time of day. -/
def timeFault? (moment : Moment) : Option MomentFault := do
  let time ← moment.time
  if 23 < time.hour then some .hour
  else if 59 < time.minute then some .minute
  else if 59 < time.second then some .second
  else none

/-- What is impossible about the date. -/
def dateFault? (moment : Moment) : Option MomentFault :=
  if moment.year = 0 then some .year
  else if moment.month = 0 ∨ 12 < moment.month then some .month
  else if moment.day = 0 ∨ daysIn moment.year moment.month < moment.day then some .day
  else none

/-- What is impossible about a moment. -/
def fault? (moment : Moment) : Option MomentFault :=
  moment.offsetFault?.or (moment.dateFault?.or moment.timeFault?)

/-- The literal of an offset. -/
def offsetLiteral (minutes : Int) : Text :=
  if minutes = 0 then "datetime.timezone.utc"
  else "datetime.timezone(".toList ++ spanLiteral minutes ++ [')']

/-- The literal of a moment. -/
def literal (moment : Moment) : Text :=
  let date := [moment.year, moment.month, moment.day].map Text.ofNat
  match moment.time with
  | none => "datetime.date(".toList ++ Text.joined [',', ' '] date ++ [')']
  | some time =>
    let seconds :=
      if time.microsecond ≠ 0 then [time.second, time.microsecond]
      else if time.second ≠ 0 then [time.second]
      else []
    let offset := match time.offset with
      | some minutes => ["tzinfo=".toList ++ offsetLiteral minutes]
      | none => []
    "datetime.datetime(".toList ++
      Text.joined [',', ' ']
        (date ++ ([time.hour, time.minute] ++ seconds).map Text.ofNat ++ offset) ++ [')']

end Moment

end FormFill.Yaml
