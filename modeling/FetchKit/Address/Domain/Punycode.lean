/-!
# Labels by their numbers

A label beyond ASCII is written by its ASCII characters and then by the numbers of the others, each
as the distance from the one before. A number has as many digits as it needs: a digit below its
threshold is the last, and thresholds follow the numbers that came.
-/

namespace FetchKit.Address.Punycode

/-! ## Digits -/

def digitChar (d : Nat) : Char := if d < 26 then Char.ofNat (0x61 + d) else Char.ofNat (0x16 + d)

def digitValue (c : Char) : Option Nat :=
  if c.isLower then some (c.toNat - 0x61)
  else if c.isUpper then some (c.toNat - 0x41)
  else if c.isDigit then some (c.toNat - 0x30 + 26)
  else none

/-- The threshold at place `k`, which counts by 36: how far the place is beyond the bias, from 1 to
26. -/
def threshold (k bias : Nat) : Nat := max 1 (min 26 (k - bias))

theorem one_le_threshold (k bias : Nat) : 1 ≤ threshold k bias := Nat.le_max_left ..

def shrink (k delta : Nat) : Nat :=
  if 455 < delta then shrink (k + 36) (delta / 35) else k + 36 * delta / (delta + 38)
termination_by delta
decreasing_by omega

/-- The bias after a distance, when `count` characters are known. -/
def adapt (delta count : Nat) (first : Bool) : Nat :=
  let delta := if first then delta / 700 else delta / 2
  shrink 0 (delta + delta / count)

def bias₀ : Nat := 72

/-- The digits of a number. -/
def digits (bias k q : Nat) : List Char :=
  let t := threshold k bias
  if h : q < t then [digitChar q]
  else digitChar (t + (q - t) % (36 - t)) :: digits bias (k + 36) ((q - t) / (36 - t))
termination_by q
decreasing_by
  have := one_le_threshold k bias
  exact Nat.lt_of_le_of_lt (Nat.div_le_self ..) (by omega)

/-! ## Writing -/

structure Writer where
  delta : Nat
  bias : Nat
  /-- How many characters are written. -/
  count : Nat
  out : List Char

/-- Writes the places where the character `n` stands. -/
def writeChar (basic n : Nat) (w : Writer) (c : Char) : Writer :=
  if c.toNat < n then { w with delta := w.delta + 1 }
  else if c.toNat = n then
    { delta := 0, bias := adapt w.delta (w.count + 1) (w.count == basic), count := w.count + 1,
      out := w.out ++ digits w.bias 36 w.delta }
  else w

/-- Writes the characters with these numbers; the numbers rise, and all below `n` are written. -/
def writeAll (label : List Char) (basic n : Nat) (w : Writer) : List Nat → Writer
  | [] => w
  | m :: more =>
    let w := { w with delta := w.delta + (m - n) * (w.count + 1) }
    let w := label.foldl (writeChar basic m) w
    writeAll label basic (m + 1) { w with delta := w.delta + 1 } more

def isBasic (c : Char) : Bool := c.toNat < 0x80

def encode (label : List Char) : List Char :=
  let basic := label.filter isBasic
  let numbers := ((label.filter (!isBasic ·)).map Char.toNat).eraseDups.mergeSort
  let start : Writer := { delta := 0, bias := bias₀, count := basic.length, out := [] }
  (if basic.isEmpty then [] else basic ++ ['-']) ++
    (writeAll label basic.length 0x80 start numbers).out

/-! ## Reading -/

structure Reader where
  out : List Nat
  n : Nat := 0x80
  /-- The place of the next character. -/
  i : Nat := 0
  /-- Where the number that is being read started. -/
  start : Nat := 0
  weight : Nat := 1
  k : Nat := 36
  bias : Nat := bias₀

def insertAt (i n : Nat) (out : List Nat) : List Nat := out.take i ++ n :: out.drop i

/-- The character whose number is read. -/
def Reader.settle (r : Reader) : Reader :=
  let count := r.out.length + 1
  let n := r.n + r.i / count
  let i := r.i % count
  { out := insertAt i n r.out, n, i := i + 1, start := i + 1,
    bias := adapt (r.i - r.start) count (r.start == 0) }

def Reader.step (r : Reader) (c : Char) : Option Reader :=
  match digitValue c with
  | none => none
  | some d =>
    let r := { r with i := r.i + d * r.weight }
    let t := threshold r.k r.bias
    if d < t then some r.settle
    else some { r with weight := r.weight * (36 - t), k := r.k + 36 }

def scalar? (n : Nat) : Option Char :=
  if h : n.isValidChar then some (Char.ofNatAux n h) else none

/-- The ASCII part before the last hyphen, and the digits after it. A hyphen with nothing before it
ends no ASCII part. -/
def splitLast (cs : List Char) : List Char × List Char :=
  let after := cs.reverse.takeWhile (· != '-')
  match cs.reverse.dropWhile (· != '-') with
  | _ :: c :: before => ((c :: before).reverse, after.reverse)
  | _ => ([], cs)

def decode (cs : List Char) : Option (List Char) :=
  let (basic, rest) := splitLast cs
  if !basic.all isBasic then none
  else
    match rest.foldlM Reader.step { out := basic.map Char.toNat } with
    | some r => if r.k = 36 then r.out.mapM scalar? else none
    | none => none

end FetchKit.Address.Punycode
