import SignOn.Text.Blank
import SignOn.Text.Decimal
import SignOn.Json.Record

/-!
Moments and their calendar text. A timestamp is a date and a time of day in UTC; a leap second is a
59th second whose fraction is one second or more. The text is RFC 3339 with a `Z`; reading is more
liberal (blanks between the parts, single digits, offsets, a space for the `T`).
-/
namespace SignOn

/-- A point in time, in nanoseconds since the beginning of 1970. -/
structure Moment where
  nanos : Int
  deriving DecidableEq, Repr, Inhabited

namespace Moment

/-- Whole seconds since the beginning of 1970. -/
def seconds (m : Moment) : Int := m.nanos / 10 ^ 9

def addSeconds (m : Moment) (s : Int) : Moment := ⟨m.nanos + s * 10 ^ 9⟩

def ofSeconds (s : Int) : Moment := ⟨s * 10 ^ 9⟩

@[simp] theorem seconds_ofSeconds (s : Int) : (ofSeconds s).seconds = s := by
  simp [ofSeconds, seconds]

@[simp] theorem seconds_addSeconds (m : Moment) (s : Int) :
    (m.addSeconds s).seconds = m.seconds + s := by
  simp only [addSeconds, seconds]; omega

end Moment

def isLeapYear (y : Int) : Bool := (y % 4 == 0 && y % 100 != 0) || y % 400 == 0

def daysInMonth (y : Int) (m : Nat) : Nat :=
  if m = 2 then (if isLeapYear y then 29 else 28)
  else if m = 4 ∨ m = 6 ∨ m = 9 ∨ m = 11 then 30
  else 31

/-- A day of the Gregorian calendar, extended to all years. -/
structure Date where
  year : Int
  month : Nat
  day : Nat
  valid : 1 ≤ month ∧ month ≤ 12 ∧ 1 ≤ day ∧ day ≤ daysInMonth year month
  deriving DecidableEq

namespace Date

def epoch : Date := ⟨1970, 1, 1, by decide⟩

def of? (year : Int) (month day : Nat) : Option Date :=
  if h : 1 ≤ month ∧ month ≤ 12 ∧ 1 ≤ day ∧ day ≤ daysInMonth year month then
    some ⟨year, month, day, h⟩
  else none

/-- The day after, if it exists. -/
def next? (d : Date) : Option Date :=
  (of? d.year d.month (d.day + 1)).orElse fun _ =>
    (of? d.year (d.month + 1) 1).orElse fun _ => of? (d.year + 1) 1 1

def previous? (d : Date) : Option Date :=
  (of? d.year d.month (d.day - 1)).orElse fun _ =>
    (of? d.year (d.month - 1) (daysInMonth d.year (d.month - 1))).orElse fun _ =>
      of? (d.year - 1) 12 31

/-- The date that lies a number of days after the beginning of 1970. Years begin in March for the
count, so that a leap day is the last of its year. -/
def ofDays? (days : Int) : Option Date :=
  let z := days + 719468
  let era := z / 146097
  let dayOfEra := z % 146097
  let yearOfEra := (dayOfEra - dayOfEra / 1460 + dayOfEra / 36524 - dayOfEra / 146096) / 365
  let dayOfYear := dayOfEra - (365 * yearOfEra + yearOfEra / 4 - yearOfEra / 100)
  let shifted := (5 * dayOfYear + 2) / 153
  let day := dayOfYear - (153 * shifted + 2) / 5 + 1
  let month := if shifted < 10 then shifted + 3 else shifted - 9
  of? (yearOfEra + era * 400 + if month ≤ 2 then 1 else 0) month.toNat day.toNat

end Date

structure Timestamp where
  date : Date
  /-- The second of the day. -/
  second : Nat
  /-- The nanoseconds of the second. -/
  nano : Nat
  valid : second < 86400 ∧ nano < 2 * 10 ^ 9 ∧ (10 ^ 9 ≤ nano → second % 60 = 59)
  deriving DecidableEq

namespace Timestamp

def epoch : Timestamp := ⟨.epoch, 0, 0, by decide⟩

instance : Inhabited Timestamp := ⟨epoch⟩

def of? (date : Date) (second nano : Nat) : Option Timestamp :=
  if h : second < 86400 ∧ nano < 2 * 10 ^ 9 ∧ (10 ^ 9 ≤ nano → second % 60 = 59) then
    some ⟨date, second, nano, h⟩
  else none

/-- The calendar's name for a moment. -/
def ofMoment (m : Moment) : Timestamp :=
  let s := m.seconds
  ((Date.ofDays? (s / 86400)).bind fun d =>
    of? d (s % 86400).toNat (m.nanos % 10 ^ 9).toNat).getD epoch

/-- The first and the last year that a timestamp is read in. -/
def firstYear : Int := -262143
def lastYear : Int := 262142

/-! ### Writing -/

/-- Four digits, and a sign outside the years 0 to 9999. -/
def yearChars (y : Int) : List Char :=
  if 0 ≤ y ∧ y ≤ 9999 then (Text.Decimal.padded 4 y.toNat).toList
  else (if y < 0 then '-' else '+') :: (Text.Decimal.padded 4 y.natAbs).toList

/-- No fraction, or three, six or nine digits, as few as hold it. -/
def fractionChars (nano : Nat) : List Char :=
  if nano = 0 then []
  else if nano % 10 ^ 6 = 0 then '.' :: (Text.Decimal.padded 3 (nano / 10 ^ 6)).toList
  else if nano % 10 ^ 3 = 0 then '.' :: (Text.Decimal.padded 6 (nano / 10 ^ 3)).toList
  else '.' :: (Text.Decimal.padded 9 nano).toList

def chars (t : Timestamp) : List Char :=
  let two (n : Nat) := (Text.Decimal.padded 2 n).toList
  let leap := 10 ^ 9 ≤ t.nano
  yearChars t.date.year ++ '-' :: two t.date.month ++ '-' :: two t.date.day ++
    'T' :: two (t.second / 3600) ++ ':' :: two (t.second / 60 % 60) ++
    ':' :: two (t.second % 60 + if leap then 1 else 0) ++
    fractionChars (t.nano % 10 ^ 9) ++ ['Z']

def text (t : Timestamp) : String := String.ofList t.chars

/-- The text with an offset of zero in place of the `Z`. -/
def offsetText (t : Timestamp) : String := String.ofList (t.chars.dropLast ++ "+00:00".toList)

/-! ### Reading -/

def skipBlanks (cs : List Char) : List Char := cs.dropWhile Text.isBlank

/-- One digit or more, and no more than `limit`. -/
def number? (limit : Option Nat) (cs : List Char) : Option (Nat × List Char) :=
  let ds := cs.takeWhile fun c => (Text.Decimal.digit? c).isSome
  let ds := match limit with
    | some n => ds.take n
    | none => ds
  (Text.Decimal.digits? ds).map fun n => (n, cs.drop ds.length)

def char? (c : Char) : List Char → Option (List Char)
  | d :: r => if d = c then some r else none
  | [] => none

/-- A year has up to four digits, or a sign and any number of them. -/
def year? (cs : List Char) : Option (Int × List Char) :=
  match skipBlanks cs with
  | '-' :: r => (number? none r).map fun (n, r) => (-(n : Int), r)
  | '+' :: r => (number? none r).map fun (n, r) => ((n : Int), r)
  | r => (number? (some 4) r).map fun (n, r) => ((n : Int), r)

/-- A field of one or two digits. -/
def field? (cs : List Char) : Option (Nat × List Char) := number? (some 2) (skipBlanks cs)

/-- The nanoseconds after a point; digits after the ninth say nothing. -/
def fraction? : List Char → Option (Nat × List Char)
  | '.' :: r => do
    let ds := r.takeWhile fun c => (Text.Decimal.digit? c).isSome
    let n ← Text.Decimal.digits? (ds.take 9)
    some (n * 10 ^ (9 - min 9 ds.length), r.drop ds.length)
  | cs => some (0, cs)

/-- The seconds by which local time is ahead of UTC. -/
def offset? (cs : List Char) : Option (Int × List Char) :=
  match cs with
  | 'Z' :: r => some (0, r)
  | 'z' :: r => some (0, r)
  | _ =>
    if (cs.take 3).map Char.toUpper = ['U', 'T', 'C'] then some (0, cs.drop 3)
    else do
      let (negative, r) ← match cs with
        | '+' :: r => some (false, r)
        | '-' :: r => some (true, r)
        | '−' :: r => some (true, r)
        | _ => none
      let (h₁, h₂, r) ← match r with
        | a :: b :: r => some (← Text.Decimal.digit? a, ← Text.Decimal.digit? b, r)
        | _ => none
      let r := r.dropWhile fun c => c = ':' || Text.isBlank c
      let (m₁, m₂, r) ← match r with
        | a :: b :: r => some (← Text.Decimal.digit? a, ← Text.Decimal.digit? b, r)
        | _ => none
      if 6 ≤ m₁ then none
      else
        let s : Int := (h₁ * 10 + h₂) * 3600 + (m₁ * 10 + m₂) * 60
        some (if negative then -s else s, r)

/-- The same moment on the calendar of UTC. -/
def toUtc? (date : Date) (second nano : Nat) (offset : Int) : Option Timestamp := do
  let s : Int := second - offset
  let date ← if s < 0 then date.previous? else if 86400 ≤ s then date.next? else some date
  if date.year < firstYear ∨ lastYear < date.year then none
  else of? date (s % 86400).toNat nano

def read? (cs : List Char) : Option Timestamp := do
  let (year, r) ← year? cs
  let r ← char? '-' (skipBlanks r)
  let (month, r) ← field? r
  let r ← char? '-' (skipBlanks r)
  let (day, r) ← field? r
  let r ← match r with
    | 'T' :: r => some r
    | 't' :: r => some r
    | ' ' :: r => some r
    | _ => none
  let (hour, r) ← field? r
  let r ← char? ':' (skipBlanks r)
  let (minute, r) ← field? r
  let r ← char? ':' (skipBlanks r)
  let (second, r) ← field? r
  let (nano, r) ← fraction? r
  let (offset, r) ← offset? (skipBlanks r)
  if !(skipBlanks r).isEmpty then none
  else if year < firstYear ∨ lastYear < year then none
  else if 24 ≤ hour ∨ 60 ≤ minute ∨ 61 ≤ second then none
  else if 86400 ≤ offset.natAbs then none
  else
    let date ← Date.of? year month day
    let (second, nano) := if second = 60 then (59, nano + 10 ^ 9) else (second, nano)
    toUtc? date (hour * 3600 + minute * 60 + second) nano offset

def parse? (s : String) : Option Timestamp := read? s.toList

def toJson (t : Timestamp) : Json.Value := .string t.text

def reader : Json.Reader Timestamp := fun bs => (Json.string bs).filterMap parse?

example : (parse? "2024-1-2 3:4:5.5 +0900").map chars = some "2024-01-01T18:04:05.500Z".toList := by
  decide +kernel
example : (parse? "2016-12-31T23:59:60Z").map chars = some "2016-12-31T23:59:60Z".toList := by
  decide +kernel
example : (ofMoment (.ofSeconds 951782400)).chars = "2000-02-29T00:00:00Z".toList := by
  decide +kernel

end Timestamp
end SignOn
