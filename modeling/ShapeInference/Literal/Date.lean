import ShapeInference.Shape.Basic

/-! Dates and timestamps as text.

A pattern has a shape, which the whole text must have, and a check of the fields that the shape tells
apart. A date is written `yyyy-MM-dd` and must exist in the Gregorian calendar, which is extended to
all four-digit years. A timestamp adds the time of day with six digits of a second, and a zone. All
digits are those of ASCII.
-/

set_option autoImplicit false

namespace ShapeInference.Literal

inductive Field where
  | year
  | month
  | day
  | hour
  | minute
  | second
  | microsecond
  | zone
  deriving DecidableEq, Repr

/-- The fields of a text, as they are written. -/
abbrev Captures := List (Field × List Char)

/-! Shapes. -/

inductive Piece where
  | char (c : Char)
  | digits (field : Field) (count : Nat)
  | zone
  deriving DecidableEq, Repr

/-- As many digits, and the text behind them. -/
def takeDigits (count : Nat) (text : List Char) : Option (List Char × List Char) :=
  let digits := text.take count
  if digits.length = count ∧ digits.all Char.isDigit then some (digits, text.drop count) else none

/-- A colon if there is one, and the text behind it. -/
def takeColon : List Char → List Char × List Char
  | ':' :: rest => ([':'], rest)
  | text => ([], text)

/-- `Z`, or a sign with hours and minutes, between which a colon may stand. -/
def takeZone : List Char → Option (List Char × List Char)
  | [] => none
  | 'Z' :: rest => some (['Z'], rest)
  | sign :: rest =>
    if sign = '+' ∨ sign = '-' then do
      let (hours, rest) ← takeDigits 2 rest
      let (colon, rest) := takeColon rest
      let (minutes, rest) ← takeDigits 2 rest
      return (sign :: hours ++ colon ++ minutes, rest)
    else none

/-- The fields of a text that has the shape from its beginning to its end. -/
def captures? : List Piece → List Char → Option Captures
  | [], text => if text.isEmpty then some [] else none
  | .char c :: pieces, text =>
    match text with
    | [] => none
    | first :: rest => if first = c then captures? pieces rest else none
  | .digits field count :: pieces, text => do
    let (digits, rest) ← takeDigits count text
    return (field, digits) :: (← captures? pieces rest)
  | .zone :: pieces, text => do
    let (zone, rest) ← takeZone text
    return (.zone, zone) :: (← captures? pieces rest)

/-! Checks of the fields. -/

def valueOf (digits : List Char) : Nat := Nat.ofDigitChars 10 digits 0

/-- The number that digits write, if there are any and the number is below the limit. -/
def number? (limit : Nat) (digits : List Char) : Option Nat :=
  if digits.isEmpty ∨ ¬ digits.all Char.isDigit then none
  else if valueOf digits < limit then some (valueOf digits)
  else none

/-- What a signed word of 32 bits can hold ends here. -/
def signedLimit : Nat := 0x80000000

/-- What an unsigned word of 32 bits can hold ends here. -/
def unsignedLimit : Nat := 0x100000000

def Captures.number? (captures : Captures) (limit : Nat) (field : Field) : Option Nat :=
  (captures.lookup field).bind (Literal.number? limit)

structure Date where
  year : Nat
  month : Nat
  day : Nat
  deriving DecidableEq, Repr

def isLeapYear (year : Nat) : Bool :=
  year % 4 = 0 && (year % 100 ≠ 0 || year % 400 = 0)

def daysIn (year month : Nat) : Nat :=
  if month = 2 then if isLeapYear year then 29 else 28
  else if month ∈ [4, 6, 9, 11] then 30
  else 31

/-- Whether the calendar has the date. -/
def Date.isReal (date : Date) : Bool :=
  1 ≤ date.month && date.month ≤ 12 && 1 ≤ date.day && date.day ≤ daysIn date.year date.month

structure TimeOfDay where
  hour : Nat
  minute : Nat
  second : Nat
  microsecond : Nat
  deriving DecidableEq, Repr

/-- A leap second is the last one of its minute with a million microseconds or more. -/
def TimeOfDay.isReal (time : TimeOfDay) : Bool :=
  time.hour ≤ 23 && time.minute ≤ 59 && time.second ≤ 59 &&
    (time.microsecond < 1000000 || time.second = 59 && time.microsecond < 2000000)

/-- Whether a zone may be off by as many seconds. -/
def isOffset (seconds : Int) : Bool := -86400 < seconds && seconds < 86400

def validDate (captures : Captures) : Bool :=
  match captures.number? signedLimit .year, captures.number? unsignedLimit .month,
    captures.number? unsignedLimit .day with
  | some year, some month, some day => (Date.mk year month day).isReal
  | _, _, _ => false

def validTime (captures : Captures) : Bool :=
  match captures.number? unsignedLimit .hour, captures.number? unsignedLimit .minute,
    captures.number? unsignedLimit .second, captures.number? unsignedLimit .microsecond with
  | some hour, some minute, some second, some microsecond =>
    (TimeOfDay.mk hour minute second microsecond).isReal
  | _, _, _, _ => false

def validZone (zone : List Char) : Bool :=
  zone = ['Z'] ||
    let sign : Int := if zone.head? = some '-' then -1 else 1
    let digits := zone.tail.filter Char.isDigit
    match number? signedLimit (digits.take 2), number? signedLimit (digits.drop 2) with
    | some hours, some minutes =>
      hours ≤ 23 && minutes ≤ 59 && isOffset (sign * (hours * 3600 + minutes * 60))
    | _, _ => false

/-! Patterns. -/

structure DatePattern where
  format : DateFormat
  shape : List Piece
  valid : Captures → Bool

def DatePattern.accepts (pattern : DatePattern) (text : List Char) : Bool :=
  (captures? pattern.shape text).any pattern.valid

def dateShape : List Piece :=
  [.digits .year 4, .char '-', .digits .month 2, .char '-', .digits .day 2]

def timeShape : List Piece :=
  [.digits .hour 2, .char ':', .digits .minute 2, .char ':', .digits .second 2, .char '.',
    .digits .microsecond 6, .zone]

def timestamp : DatePattern where
  format := .timestamp
  shape := dateShape ++ .char 'T' :: timeShape
  valid captures :=
    validDate captures && validTime captures && (captures.lookup .zone).any validZone

def dateOnly : DatePattern where
  format := .dateOnly
  shape := dateShape
  valid := validDate

def isDateOnly (text : List Char) : Bool := dateOnly.accepts text

def isTimestamp (text : List Char) : Bool := timestamp.accepts text

def dateFormat? (text : String) : Option DateFormat :=
  ([timestamp, dateOnly].find? (·.accepts text.toList)).map DatePattern.format

end ShapeInference.Literal
