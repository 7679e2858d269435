import OperandCleanup.Number.Binary64

/-!
# The shortest decimal of a floating-point number

A finite number is written with the fewest digits that read back to it, and of those with the ones
nearest to its value. The digits are chosen in exact integer arithmetic: the number and the two
ends of the interval of reals that round to it are integers in one common unit, a power of ten.
How the digits are laid out is a record, `DecimalLayout`.
-/

namespace OperandCleanup

/-- A number between the two ends of its rounding interval, all three as integers in units of ten
to `exponent`. -/
structure RoundingInterval where
  low : Nat
  value : Nat
  high : Nat
  /-- The ends themselves round to the number. -/
  closed : Bool
  exponent : Int
deriving Repr

/-- The interval of a positive significand. The gap below a power of two is half the gap above. -/
def RoundingInterval.of (significand : Nat) (exponent : Int) : RoundingInterval :=
  let below := if significand = Nat.pow 2 52 ∧ Binary64.leastExponent < exponent then 1 else 2
  let unit := exponent - 2
  let factor := if 0 ≤ unit then Nat.pow 2 unit.toNat else Nat.pow 5 (-unit).toNat
  { low := (4 * significand - below) * factor
    value := 4 * significand * factor
    high := (4 * significand + 2) * factor
    closed := significand % 2 = 0
    exponent := min unit 0 }

/-- Whether an integer lies in the interval. -/
def RoundingInterval.contains (interval : RoundingInterval) (n : Nat) : Bool :=
  if interval.closed then interval.low ≤ n && n ≤ interval.high
  else interval.low < n && n < interval.high

/-- The multiple of ten to `k` that the interval holds, given without its zeros: of the two
neighbours of the value the one that lies in the interval, of both the nearer, of a tie the even. -/
def RoundingInterval.candidate? (interval : RoundingInterval) (k : Nat) : Option Nat :=
  let grid := Nat.pow 10 k
  let floor := interval.value / grid
  let lower := interval.contains (floor * grid)
  let upper := interval.contains ((floor + 1) * grid)
  let rest := interval.value - floor * grid
  if lower && upper then
    if 2 * rest < grid || (2 * rest = grid && floor % 2 = 0) then some floor else some (floor + 1)
  else if lower then some floor
  else if upper then some (floor + 1)
  else none

/-- A coefficient and a power of ten without zeros at the coefficient's end. -/
def withoutTrailingZeros (digits : List Char) (exponent : Int) : List Char × Int :=
  let zeros := (digits.reverse.takeWhile (· == '0')).length
  (digits.take (digits.length - zeros), exponent + zeros)

/-- The fewest digits that read back to a positive finite number, and the power of ten that the
last of them counts. Seventeen always suffice. -/
def Binary64.shortest (significand : Nat) (exponent : Int) : List Char × Int :=
  let interval := RoundingInterval.of significand exponent
  let size := (Nat.toDigits 10 interval.value).length
  let found := (List.range 17).findSome? fun i =>
    let k := size - (i + 1)
    (interval.candidate? k).map fun c => (c, k)
  let (coefficient, k) := found.getD (interval.value, 0)
  withoutTrailingZeros (Nat.toDigits 10 coefficient) (interval.exponent + k)

/-- How a number's digits are laid out. -/
structure DecimalLayout where
  /-- The least decimal exponent that is written positionally. -/
  positionalFrom : Int
  /-- The first decimal exponent that is no longer written positionally. -/
  positionalBelow : Int
  /-- The least number of digits of a written exponent. -/
  exponentWidth : Nat
  infinity : String
  nan : String
deriving Repr

namespace DecimalLayout

/-- The exponent part: a mark, a sign and the digits. -/
def exponentPart (layout : DecimalLayout) (exponent : Int) : List Char :=
  let digits := Nat.toDigits 10 exponent.natAbs
  'e' :: (if exponent < 0 then '-' else '+') ::
    (List.replicate (layout.exponentWidth - digits.length) '0' ++ digits)

/-- Lay out digits of which the last counts ten to `exponent`. A whole number keeps a zero after
its point; with an exponent the point is left out when nothing follows it. -/
def place (layout : DecimalLayout) (digits : List Char) (exponent : Int) : List Char :=
  let leading : Int := (digits.length : Int) - 1 + exponent
  if layout.positionalFrom ≤ leading ∧ leading < layout.positionalBelow then
    if leading < 0 then
      '0' :: '.' :: (List.replicate (-leading - 1).toNat '0' ++ digits)
    else if 0 ≤ exponent then
      digits ++ List.replicate exponent.toNat '0' ++ ['.', '0']
    else
      digits.take (leading.toNat + 1) ++ '.' :: digits.drop (leading.toNat + 1)
  else
    match digits with
    | [] => []
    | [d] => d :: layout.exponentPart leading
    | d :: rest => d :: '.' :: (rest ++ layout.exponentPart leading)

/-- The text of a number. -/
def render (layout : DecimalLayout) : Binary64 → List Char
  | .nan => layout.nan.toList
  | .infinite negative => sign negative ++ layout.infinity.toList
  | .finite negative significand exponent =>
    if significand = 0 then sign negative ++ ['0', '.', '0']
    else
      let (digits, last) := Binary64.shortest significand exponent
      sign negative ++ layout.place digits last
where
  /-- A minus sign for a negative number, the zero included. -/
  sign (negative : Bool) : List Char := if negative then ['-'] else []

end DecimalLayout

end OperandCleanup
