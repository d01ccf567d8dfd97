/-!
# Decimal numbers

Decimal notation is read into an exact significand and power of ten, and a
binary floating point number is written with the fewest digits that read back
as the same number.
-/

namespace VersionedApi.Text

def digitValue? (radix : Nat) (c : Char) : Option Nat :=
  let value :=
    if c.isDigit then c.toNat - 48
    else if 'a' ≤ c ∧ c ≤ 'f' then c.toNat - 87
    else if 'A' ≤ c ∧ c ≤ 'F' then c.toNat - 55
    else radix
  if value < radix then some value else none

def digits? (radix : Nat) (text : List Char) : Option Nat :=
  if text.isEmpty then none
  else text.foldl (fun sum c => do return (← sum) * radix + (← digitValue? radix c)) (some 0)

/-- The number `significand * 10 ^ exponent`, with a sign. -/
structure Decimal where
  negative : Bool
  significand : Nat
  exponent : Int
  deriving Repr, DecidableEq

namespace Decimal

def splitSign : List Char → Bool × List Char
  | '-' :: rest => (true, rest)
  | '+' :: rest => (false, rest)
  | text => (false, text)

/-- The exponent written after a mantissa, if anything is. -/
def exponent? : List Char → Option Int
  | [] => some 0
  | mark :: rest =>
    if mark = 'e' ∨ mark = 'E' then
      let (negative, digits) := splitSign rest
      (digits? 10 digits).map fun value => if negative then -(value : Int) else value
    else none

/--
Read decimal notation: a sign, digits with at most one point among or beside
them, and an exponent.  Only the mantissa is mandatory.
-/
def read? (text : List Char) : Option Decimal :=
  let (negative, unsigned) := splitSign text
  let whole := unsigned.takeWhile Char.isDigit
  let afterWhole := unsigned.dropWhile Char.isDigit
  let (fraction, tail) :=
    match afterWhole with
    | '.' :: rest => (rest.takeWhile Char.isDigit, rest.dropWhile Char.isDigit)
    | rest => ([], rest)
  match digits? 10 (whole ++ fraction), exponent? tail with
  | some significand, some exponent =>
    some ⟨negative, significand, exponent - fraction.length⟩
  | _, _ => none

/-- The count of decimal digits of a number; zero has none. -/
def digitCount (value : Nat) : Nat :=
  if value = 0 then 0 else (Nat.toDigits 10 value).length

/--
The nearest floating point number.  Beyond the range of exponents the result
is infinite or zero, which spares computing an enormous power of ten.
-/
def toFloat (decimal : Decimal) : Float :=
  let magnitude := decimal.exponent + digitCount decimal.significand
  let size : Float :=
    if decimal.significand = 0 ∨ magnitude < -400 then 0
    else if magnitude > 400 then 1 / 0
    else if decimal.exponent < 0 then
      Float.ofScientific decimal.significand true decimal.exponent.natAbs
    else Float.ofScientific decimal.significand false decimal.exponent.natAbs
  if decimal.negative then -size else size

end Decimal

/-! ## Fewest digits -/

/-- Where a number goes that lies halfway between two decimals. -/
inductive Tie where
  /-- To the one whose last digit is even. -/
  | toEven
  /-- To the one with the greater absolute value. -/
  | awayFromZero
  deriving Repr, DecidableEq

/-- Whether the greater of two absolute values is taken; `below` are the digits of the smaller. -/
def Tie.goesUp (tie : Tie) (below : Nat) : Bool :=
  match tie with
  | toEven => below % 2 = 1
  | awayFromZero => true

/--
The interval of numbers that round to one floating point number, as integers
over a common denominator.  Its ends belong to it if `closed` holds.
-/
structure Interval where
  low : Nat
  centre : Nat
  high : Nat
  denominator : Nat
  closed : Bool

namespace Interval

/-- The interval of `mantissa * 2 ^ exponent`; below a power of two it is half as wide. -/
def ofBinary (mantissa : Nat) (exponent : Int) (narrow : Bool) : Interval :=
  let unit := Nat.pow 2 exponent.toNat
  { low := 4 * mantissa * unit - (if narrow then unit else 2 * unit)
    centre := 4 * mantissa * unit
    high := 4 * mantissa * unit + 2 * unit
    denominator := 4 * Nat.pow 2 (-exponent).toNat
    closed := mantissa % 2 = 0 }

def contains (interval : Interval) (digits : Nat) (exponent : Int) : Bool :=
  let scaled := digits * Nat.pow 10 exponent.toNat * interval.denominator
  let low := interval.low * Nat.pow 10 (-exponent).toNat
  let high := interval.high * Nat.pow 10 (-exponent).toNat
  if interval.closed then low ≤ scaled && scaled ≤ high else low < scaled && scaled < high

/-- The multiples of `10 ^ exponent` on either side of the centre, the nearer one first. -/
def neighbours (interval : Interval) (tie : Tie) (exponent : Int) : List Nat :=
  let unit := Nat.pow 10 exponent.toNat * interval.denominator
  let centre := interval.centre * Nat.pow 10 (-exponent).toNat
  let below := centre / unit
  let rest := centre % unit
  if unit < 2 * rest ∨ (2 * rest = unit ∧ tie.goesUp below) then [below + 1, below]
  else [below, below + 1]

/-- The power of ten above the centre, searched upwards. -/
def ceilingFrom (interval : Interval) : Nat → Int → Int
  | 0, exponent => exponent
  | fuel + 1, exponent =>
    if interval.centre * Nat.pow 10 (-exponent).toNat <
        Nat.pow 10 exponent.toNat * interval.denominator then exponent
    else interval.ceilingFrom fuel (exponent + 1)

def firstHit (interval : Interval) (tie : Tie) (ceiling : Int) :
    List Nat → Option (Nat × Int)
  | [] => none
  | count :: counts =>
    let exponent := ceiling - count
    match (interval.neighbours tie exponent).find? (interval.contains · exponent) with
    | some digits => some (digits, exponent)
    | none => interval.firstHit tie ceiling counts

/--
The shortest decimal in the interval, and of those the nearest to its centre;
`tie` decides between two that are equally near.  Only a single digit can reach
the next power of ten, which is then written as one.
-/
def shortest (interval : Interval) (tie : Tie) : Nat × Int :=
  let ceiling := interval.ceilingFrom 700 (-330)
  match interval.firstHit tie ceiling ((List.range 17).map (· + 1)) with
  | none => (interval.centre, 0)
  | some (digits, exponent) =>
    if digits = 10 then (1, ceiling) else (digits, exponent)

end Interval

/-- A finite number as sign, digits and power of ten; the digits of zero are `0`. -/
def shortestDecimal (value : Float) (tie : Tie) : Decimal :=
  let bits := value.toBits.toNat
  let negative := bits / Nat.pow 2 63 = 1
  let biased := bits / Nat.pow 2 52 % 2048
  let fraction := bits % Nat.pow 2 52
  if biased = 0 ∧ fraction = 0 then ⟨negative, 0, 0⟩
  else
    let mantissa := if biased = 0 then fraction else fraction + Nat.pow 2 52
    let exponent : Int := ((if biased = 0 then 1 else biased : Nat) : Int) - 1075
    let interval := Interval.ofBinary mantissa exponent (fraction = 0 && biased > 1)
    let (digits, power) := interval.shortest tie
    ⟨negative, digits, power⟩

/-! ## Layout -/

/--
How a number is laid out.  Within `positional` decimal exponents no power of
ten is written; outside of them the digits are followed by a signed power.
`tie` is the choice between two shortest decimals that are equally near.
-/
structure NumberLayout where
  positional : Int → Bool
  tie : Tie

namespace NumberLayout

/-- The digits with a point after the first `count` of them, padded with zeros. -/
def withPoint (digits : List Char) (count : Int) : List Char :=
  if count ≤ 0 then ['0', '.'] ++ List.replicate (-count).toNat '0' ++ digits
  else
    let whole := digits.take count.toNat
    let fraction := digits.drop count.toNat
    whole ++ List.replicate (count.toNat - whole.length) '0' ++ ['.'] ++
      (if fraction.isEmpty then ['0'] else fraction)

/-- The digits as a mantissa with one digit before the point, and their power of ten. -/
def withPower (digits : List Char) (power : Int) : List Char :=
  let mantissa :=
    match digits with
    | first :: second :: rest => first :: '.' :: second :: rest
    | digits => digits
  mantissa ++ ['e', if power < 0 then '-' else '+'] ++ Nat.toDigits 10 power.natAbs

def render (layout : NumberLayout) (value : Float) : String :=
  if value.isNaN then "NaN"
  else if value.isInf then if value < 0 then "-inf" else "inf"
  else
    let decimal := shortestDecimal value layout.tie
    let digits := Nat.toDigits 10 decimal.significand
    let count := decimal.exponent + digits.length
    let body :=
      if decimal.significand = 0 then ['0', '.', '0']
      else if layout.positional (count - 1) then withPoint digits count
      else withPower digits (count - 1)
    String.ofList (if decimal.negative then '-' :: body else body)

end NumberLayout

end VersionedApi.Text
