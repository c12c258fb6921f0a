/-!
# Numbers in TOML 1.0

Digits may be grouped by single underscores. Decimal integers have no leading zero; those with a
radix mark have no sign. An integer has 64 bits with sign. A float is refused where it would round
to plus infinity.
-/

namespace SlideDeck.Toml

/-- The value of a digit in the base, which is at most 16. -/
def digitValue? (base : Nat) (c : Char) : Option Nat :=
  let value :=
    if '0' ≤ c ∧ c ≤ '9' then c.toNat - '0'.toNat
    else if 'a' ≤ c ∧ c ≤ 'f' then c.toNat - 'a'.toNat + 10
    else if 'A' ≤ c ∧ c ≤ 'F' then c.toNat - 'A'.toNat + 10
    else base
  if value < base then some value else none

/-- The value of digits, the highest first. -/
def digitsValue? (base : Nat) (digits : List Char) : Option Nat :=
  digits.foldlM (fun n c => (digitValue? base c).map (base * n + ·)) 0

/-- The characters without the underscores between two of them; an underscore elsewhere stays. -/
def ungroup : List Char → Option (List Char)
  | [] => none
  | [d] => some [d]
  | d :: '_' :: rest => (ungroup rest).map (d :: ·)
  | d :: rest => (ungroup rest).map (d :: ·)

/-- The value of grouped digits. -/
def natural? (base : Nat) (word : List Char) : Option Nat := (ungroup word).bind (digitsValue? base)

/-- The value of grouped decimal digits without a leading zero. -/
def decimal? (word : List Char) : Option Nat :=
  match word with
  | '0' :: _ :: _ => none
  | _ => natural? 10 word

/-- Whether there is a minus sign, and what follows the sign. -/
def splitSign : List Char → Bool × List Char
  | '+' :: rest => (false, rest)
  | '-' :: rest => (true, rest)
  | rest => (false, rest)

/-- The integer that the word spells. -/
def integer? (word : List Char) : Option Int := do
  let n : Int ← match word with
    | '0' :: 'x' :: digits => (natural? 16 digits).map Int.ofNat
    | '0' :: 'o' :: digits => (natural? 8 digits).map Int.ofNat
    | '0' :: 'b' :: digits => (natural? 2 digits).map Int.ofNat
    | _ =>
      let (isNegative, digits) := splitSign word
      (decimal? digits).map fun n => if isNegative then -Int.ofNat n else Int.ofNat n
  if Int64.minValue.toInt ≤ n ∧ n ≤ Int64.maxValue.toInt then some n else none

/-- The least number that rounds to infinity among the floats of 64 bits. -/
def overflowBound : Nat := Nat.pow 2 1024 - Nat.pow 2 970

/-- Whether `mantissa * 10 ^ exponent` rounds to infinity. Far from the bound the number of digits
tells. -/
def overflows (mantissa : Nat) (exponent : Int) : Bool :=
  let digits : Int := (Nat.toDigits 10 mantissa).length
  if mantissa = 0 ∨ digits + exponent ≤ 308 then false
  else if 310 ≤ digits + exponent then true
  else if 0 ≤ exponent then overflowBound ≤ mantissa * Nat.pow 10 exponent.toNat
  else overflowBound * Nat.pow 10 (-exponent).toNat ≤ mantissa

/-- The mantissa and the decimal exponent of a float with a fraction or an exponent, without its
sign. -/
def scientific? (word : List Char) : Option (Nat × Int) := do
  let isMark (c : Char) : Bool := c == 'e' || c == 'E'
  let significand := word.takeWhile (!isMark ·)
  let whole ← decimal? (significand.takeWhile (· != '.'))
  let fraction ← match significand.dropWhile (· != '.') with
    | [] => some []
    | _ :: grouped => ungroup grouped
  let exponent : Int ← match word.dropWhile (!isMark ·) with
    | [] => if fraction.isEmpty then none else some 0
    | _ :: signed =>
      let (isNegative, digits) := splitSign signed
      (natural? 10 digits).map fun n => if isNegative then -Int.ofNat n else Int.ofNat n
  let parts ← digitsValue? 10 fraction
  return (whole * Nat.pow 10 fraction.length + parts, exponent - fraction.length)

/-- Whether the word spells a float. -/
def isFloat (word : List Char) : Bool :=
  let (isNegative, digits) := splitSign word
  digits == ['i', 'n', 'f'] || digits == ['n', 'a', 'n'] ||
    (scientific? digits).any fun (mantissa, exponent) => isNegative || !overflows mantissa exponent

end SlideDeck.Toml
