/-!
# Floating point numbers as text

The fewest digits that read back as the same number, and of those the nearest to it. A number is
written positionally while its first digit stands between the fifth place after the point and the
sixteenth before it.
-/

namespace FetchKit.Text

/-- A positive number `mantissa * 2 ^ exponent` as it is stored. `narrow` when the number below is
only half as far away as the number above. -/
structure Binary where
  mantissa : Nat
  exponent : Int
  narrow : Bool
  deriving Repr, DecidableEq

/-- Digits, and the power of ten of the last of them. -/
structure Decimal where
  digits : Nat
  exponent : Int
  deriving Repr, DecidableEq

namespace Binary

/-- A quarter of the distance to the number above, as a fraction. -/
def quarter (b : Binary) : Nat × Nat :=
  if 2 ≤ b.exponent then (Nat.pow 2 (b.exponent - 2).toNat, 1)
  else (1, Nat.pow 2 (2 - b.exponent).toNat)

/-- `n * 10 ^ e`, as a fraction. -/
def scaled (n : Nat) (e : Int) : Nat × Nat :=
  if 0 ≤ e then (n * Nat.pow 10 e.toNat, 1) else (n, Nat.pow 10 (-e).toNat)

/-- Whether a decimal reads back as this number: it lies between the middles to the numbers around,
which themselves count when the mantissa is even. -/
def readsBack (b : Binary) (d : Decimal) : Bool :=
  let (qn, qd) := b.quarter
  let (n, m) := scaled d.digits d.exponent
  let low := (4 * b.mantissa - (if b.narrow then 1 else 2)) * qn * m
  let high := (4 * b.mantissa + 2) * qn * m
  let value := n * qd
  if b.mantissa % 2 = 0 then low ≤ value && value ≤ high else low < value && value < high

/-- How far a decimal is from this number, in units that all decimals of one exponent share. -/
def distance (b : Binary) (d : Decimal) : Nat :=
  let (qn, qd) := b.quarter
  let (n, m) := scaled d.digits d.exponent
  let exact := 4 * b.mantissa * qn * m
  let value := n * qd
  if value ≤ exact then exact - value else value - exact

/-- The decimal with this exponent just below the number. -/
def floorAt (b : Binary) (e : Int) : Decimal :=
  let (qn, qd) := b.quarter
  let n := 4 * b.mantissa * qn
  ⟨if 0 ≤ e then n / (qd * Nat.pow 10 e.toNat) else n * Nat.pow 10 (-e).toNat / qd, e⟩

/-- The power of ten of the first digit. -/
def magnitude (b : Binary) : Int :=
  let places := (List.range 700).map fun i => (Int.ofNat i) - 345
  ((places.find? fun e => (b.floorAt (e + 1)).digits == 0).getD 0)

/-- The better of the two decimals with this exponent around the number, if one reads back. -/
def bestAt (b : Binary) (e : Int) : Option Decimal :=
  let below := b.floorAt e
  let above : Decimal := ⟨below.digits + 1, e⟩
  match b.readsBack below, b.readsBack above with
  | true, true =>
    if b.distance below < b.distance above then some below
    else if b.distance above < b.distance below then some above
    else some (if below.digits % 2 = 0 then below else above)
  | true, false => some below
  | false, true => some above
  | false, false => none

def shortest (b : Binary) : Decimal :=
  let first := b.magnitude
  ((List.range 17).findSome? fun (i : Nat) => b.bestAt (first - i)).getD (b.floorAt (first - 16))

end Binary

/-! ## Text -/

def stripZeros : List Char → List Char
  | cs => (cs.reverse.dropWhile (· == '0')).reverse

def zeros (n : Nat) : List Char := List.replicate n '0'

/-- Which places of the first digit are written positionally. -/
def isPositional (e : Int) : Bool := -5 ≤ e && e ≤ 15

def Decimal.text (d : Decimal) : List Char :=
  let all := Nat.toDigits 10 d.digits
  let e : Int := d.exponent + Int.ofNat (all.length - 1)
  let digits := stripZeros all
  if isPositional e then
    if 0 ≤ e then
      let whole := e.toNat + 1
      if digits.length ≤ whole then digits ++ zeros (whole - digits.length) ++ ['.', '0']
      else digits.take whole ++ '.' :: digits.drop whole
    else ['0', '.'] ++ zeros ((-e).toNat - 1) ++ digits
  else
    let exponent := (if 0 ≤ e then ['e', '+'] else ['e', '-']) ++ Nat.toDigits 10 e.natAbs
    match digits with
    | [c] => c :: exponent
    | c :: rest => c :: '.' :: rest ++ exponent
    | [] => exponent

/-- The bits of a number that is neither infinite nor undefined: its sign, and the number without it
unless it is zero. -/
def decodeBits (bits : UInt64) : Bool × Option Binary :=
  let n := bits.toNat
  let exponent : Nat := n / 0x10000000000000 % 0x800
  let fraction := n % 0x10000000000000
  let negative := n / 0x8000000000000000 == 1
  if exponent = 0 then
    (negative, if fraction = 0 then none else some ⟨fraction, -1074, false⟩)
  else
    let mantissa := 0x10000000000000 + fraction
    (negative, some ⟨mantissa, Int.ofNat exponent - 1075, fraction == 0 && exponent > 1⟩)

def floatText (x : Float) : String :=
  let (negative, b) := decodeBits x.toBits
  let body := match b with
    | some b => b.shortest.text
    | none => ['0', '.', '0']
  String.ofList (if negative then '-' :: body else body)

end FetchKit.Text
