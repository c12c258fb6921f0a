import SlideDeck.Toml.Number

/-!
# Dates and times in TOML 1.0

A date is a day of the Gregorian calendar; a time has seconds, perhaps with a fraction, and may
count a leap second. A date and a time together may have an offset from universal time.
-/

namespace SlideDeck.Toml

/-- Whether the two digits spell a number from `low` to `high`. -/
def isBetween (low high : Nat) (a b : Char) : Bool :=
  (digitsValue? 10 [a, b]).any fun n => low ≤ n && n ≤ high

def isLeapYear (year : Nat) : Bool := year % 4 = 0 && (year % 100 != 0 || year % 400 = 0)

def daysInMonth (year : Nat) : Nat → Nat
  | 2 => if isLeapYear year then 29 else 28
  | 4 | 6 | 9 | 11 => 30
  | _ => 31

/-- Whether the word is a date, as in `1979-05-27`. -/
def isDate : List Char → Bool
  | [y, y', y'', y''', '-', m, m', '-', d, d'] =>
    match digitsValue? 10 [y, y', y'', y'''], digitsValue? 10 [m, m'] with
    | some year, some month =>
      1 ≤ month && month ≤ 12 && isBetween 1 (daysInMonth year month) d d'
    | _, _ => false
  | _ => false

/-- What follows a time, as in `07:32:00.5`. -/
def afterTime? : List Char → Option (List Char)
  | h :: h' :: ':' :: m :: m' :: ':' :: s :: s' :: rest =>
    if isBetween 0 23 h h' && isBetween 0 59 m m' && isBetween 0 60 s s' then
      match rest with
      | '.' :: d :: rest => if d.isDigit then some (rest.dropWhile Char.isDigit) else none
      | _ => some rest
    else none
  | _ => none

/-- Whether the text is an offset, as in `Z` or `+01:00`, or empty. -/
def isOffset : List Char → Bool
  | [] | ['Z'] | ['z'] => true
  | [sign, h, h', ':', m, m'] =>
    (sign == '+' || sign == '-') && isBetween 0 23 h h' && isBetween 0 59 m m'
  | _ => false

/-- Whether the word is a time, perhaps with an offset. -/
def isTimeWithOffset (word : List Char) : Bool := (afterTime? word).any isOffset

/-- Whether the word is a date, a time, or both with a `T` between them. -/
def isDateTime (word : List Char) : Bool :=
  isDate word || afterTime? word == some [] ||
    match word.drop 10 with
    | mark :: time => isDate (word.take 10) && (mark == 'T' || mark == 't') && isTimeWithOffset time
    | [] => false

end SlideDeck.Toml
