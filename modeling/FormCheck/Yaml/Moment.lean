import FormCheck.Number.Written
import FormCheck.Number.Numeral
import FormCheck.Text.Split
import FormCheck.Yaml.Fault

/-!
# Moments of time in YAML documents

A moment is a day, or a day with a time of day, which may have a distance from universal
time.  A text may write a moment that does not exist; `Moment.fault?` says why it does
not.
-/

namespace FormCheck.Yaml

/-- A time of day with millionths of a second, and its distance from universal time in
minutes. -/
structure TimeOfDay where
  hour : Nat
  minute : Nat
  second : Nat
  millionths : Nat
  offset? : Option Int
  deriving DecidableEq, Repr

/-- A day, and possibly a time of day. -/
structure Moment where
  year : Nat
  month : Nat
  day : Nat
  time? : Option TimeOfDay
  deriving DecidableEq, Repr

namespace Moment

/-! ## Reading -/

/-- Between a least and a greatest number of digits, as many as there are. -/
private def takeDigits (least greatest : Nat) (text : List Char) :
    Option (List Char × List Char) :=
  let digits := (text.take greatest).takeWhile Text.isAsciiDigit
  if digits.length < least then none else some (digits, text.drop digits.length)

/-- The rest after a character. -/
private def after? (sign : Char) : List Char → Option (List Char)
  | [] => none
  | c :: rest => if c = sign then some rest else none

/-- The distance from universal time at the end of a moment. -/
private def readOffset (text : List Char) : Option (Option Int) :=
  match text.dropWhile fun c => c == ' ' || c == '\t' with
  | [] => if text.isEmpty then some none else none
  | ['Z'] => some (some 0)
  | sign :: rest => do
      let negative := sign == '-'
      if !negative && sign != '+' then
        failure
      let (hours, rest) ← takeDigits 1 2 rest
      let minutes ←
        match rest with
        | [] => some ['0']
        | _ => do
            let (minutes, rest) ← takeDigits 2 2 (← after? ':' rest)
            if rest.isEmpty then some minutes else none
      let size : Int := Numeral.natOfDigits hours * 60 + Numeral.natOfDigits minutes
      return some (if negative then -size else size)

/-- Six digits after the point of a second. -/
private def millionthsOf (fraction : List Char) : Nat :=
  Numeral.natOfDigits ((fraction ++ List.replicate 6 '0').take 6)

/-- The time of day at the end of a moment. -/
private def readTime (text : List Char) : Option TimeOfDay := do
  let (hour, rest) ← takeDigits 1 2 text
  let (minute, rest) ← takeDigits 2 2 (← after? ':' rest)
  let (second, rest) ← takeDigits 2 2 (← after? ':' rest)
  let (fraction, rest) :=
    match rest with
    | '.' :: rest => rest.span Text.isAsciiDigit
    | _ => ([], rest)
  return ⟨Numeral.natOfDigits hour, Numeral.natOfDigits minute, Numeral.natOfDigits second,
    millionthsOf fraction, ← readOffset rest⟩

/-- The moment that a text writes, and whether month and day have two digits each. -/
def read? (text : List Char) : Option (Moment × Bool) := do
  let (year, rest) ← takeDigits 4 4 text
  let (month, rest) ← takeDigits 1 2 (← after? '-' rest)
  let (day, rest) ← takeDigits 1 2 (← after? '-' rest)
  let inFull := month.length == 2 && day.length == 2
  let time? ←
    match rest with
    | [] => some none
    | separator :: following =>
        if separator == 'T' || separator == 't' then
          (readTime following).map some
        else if separator == ' ' || separator == '\t' then
          (readTime (following.dropWhile fun c => c == ' ' || c == '\t')).map some
        else
          none
  return (⟨Numeral.natOfDigits year, Numeral.natOfDigits month, Numeral.natOfDigits day, time?⟩,
    inFull)

/-! ## Existence -/

def isLeapYear (year : Nat) : Bool :=
  year % 4 == 0 && (year % 100 != 0 || year % 400 == 0)

def daysIn (year month : Nat) : Nat :=
  if month = 2 then
    if isLeapYear year then 29 else 28
  else if month = 4 ∨ month = 6 ∨ month = 9 ∨ month = 11 then
    30
  else
    31

/-- Why a moment does not exist, if it does not. -/
def fault? (moment : Moment) : Option MomentFault :=
  let offsetFault? : Option MomentFault := do
    let offset ← (← moment.time?).offset?
    if 24 * 60 ≤ offset.natAbs then some (.offset offset) else none
  let dayFault? : Option MomentFault :=
    if moment.year = 0 then some .year
    else if moment.month = 0 ∨ 12 < moment.month then some .month
    else if moment.day = 0 ∨ daysIn moment.year moment.month < moment.day then some .day
    else none
  let timeFault? : Option MomentFault := do
    let time ← moment.time?
    if 23 < time.hour then some .hour
    else if 59 < time.minute then some .minute
    else if 59 < time.second then some .second
    else none
  offsetFault?.or (dayFault?.or timeFault?)

/-! ## Display -/

/-- A number with zeros in front of it. -/
private def padded (width number : Nat) : List Char :=
  let digits := decimalDigits number
  List.replicate (width - digits.length) '0' ++ digits

/-- Numbers of two digits with a character between them. -/
private def row (separator : Char) (numbers : List Nat) : List Char :=
  Text.join separator (numbers.map (padded 2))

private def displayTime (time : TimeOfDay) : List Char :=
  row ':' [time.hour, time.minute, time.second]
    ++ (if time.millionths = 0 then [] else '.' :: padded 6 time.millionths)
    ++ match time.offset? with
      | none => []
      | some offset =>
          (if offset < 0 then '-' else '+')
            :: row ':' [offset.natAbs / 60, offset.natAbs % 60]

def display (moment : Moment) : List Char :=
  padded 4 moment.year ++ '-' :: row '-' [moment.month, moment.day]
    ++ match moment.time? with
      | none => []
      | some time => ' ' :: displayTime time

/-! ## Sameness -/

/-- Days from the first of March of the year zero. -/
private def dayNumber (moment : Moment) : Int :=
  let early := moment.month < 3
  let year : Int := if early then moment.year - 1 else moment.year
  let month := if early then moment.month + 9 else moment.month - 3
  year * 365 + year / 4 - year / 100 + year / 400 + (153 * month + 2) / 5 + moment.day

/-- What two moments must have in common to be the same: both are days, or both have a
time and agree on having a distance from universal time, and the instant is the same. -/
def identity (moment : Moment) : Bool × Bool × Int :=
  match moment.time? with
  | none => (false, false, moment.dayNumber)
  | some time =>
      let minutes : Int := moment.dayNumber * 1440 + time.hour * 60 + time.minute
        - time.offset?.getD 0
      (true, time.offset?.isSome, (minutes * 60 + time.second) * 1000000 + time.millionths)

end Moment

end FormCheck.Yaml
