import FetchKit.Text.Quoted

/-! # Addresses of hosts as numbers -/

namespace FetchKit.Address

open FetchKit.Text

def isDecimal (c : Char) : Bool := '0' ≤ c && c ≤ '9'

def isHex (c : Char) : Bool := (hexValue c).isSome

/-- The number that digits of a base write. -/
def ofDigits (base : Nat) (digits : List Char) : Nat :=
  digits.foldl (fun n c => base * n + (hexValue c).getD 0) 0

def decimal (n : Nat) : List Char := Nat.toDigits 10 n

/-! ## Four parts -/

/-- One part of a dotted address: decimal, octal after `0`, hexadecimal after `0x`. -/
def ipv4Number (cs : List Char) : Option Nat :=
  match cs with
  | [] => none
  | '0' :: 'x' :: digits => if digits.all isHex then some (ofDigits 16 digits) else none
  | '0' :: 'X' :: digits => if digits.all isHex then some (ofDigits 16 digits) else none
  | '0' :: digits =>
    if digits.all fun c => '0' ≤ c && c ≤ '7' then some (ofDigits 8 digits) else none
  | digits => if digits.all isDecimal then some (ofDigits 10 digits) else none

/-- The parts between points; a point at the end counts for nothing. -/
def dotted (cs : List Char) : List (List Char) :=
  let parts := cs.splitOn '.'
  if parts.length > 1 && parts.getLast? == some [] then parts.dropLast else parts

/-- Whether a name can only be meant as a number: its last part is one. -/
def endsInNumber (cs : List Char) : Bool :=
  match (dotted cs).getLast? with
  | some part => (!part.isEmpty && part.all isDecimal) || (ipv4Number part).isSome
  | none => false

/-- The value of the numbers: each but the last fills one byte, the last one fills the rest. -/
def ipv4Value (numbers : List Nat) : Option Nat :=
  match numbers.reverse with
  | [] => none
  | last :: others =>
    let others := others.reverse
    if others.length > 3 || others.any (· > 255) || last ≥ Nat.pow 256 (4 - others.length) then none
    else some (others.zipIdx.foldl (fun sum (n, i) => sum + n * Nat.pow 256 (3 - i)) last)

def ipv4? (cs : List Char) : Option Nat :=
  match (dotted cs).mapM ipv4Number with
  | some numbers => ipv4Value numbers
  | none => none

def ipv4Text (n : Nat) : List Char :=
  decimal (n / 0x1000000 % 256) ++ '.' :: decimal (n / 0x10000 % 256) ++ '.' ::
    decimal (n / 256 % 256) ++ '.' :: decimal (n % 256)

/-! ## Eight pieces -/

/-- Pieces read so far, and where `::` ends among them. It counts for one piece of zero at least. -/
structure Pieces where
  read : List Nat := []
  gap : Option Nat := none
  deriving Repr

def Pieces.add (p : Pieces) (n : Nat) : Pieces := { p with read := p.read ++ [n] }

/-- A number below 256 without a zero in front. -/
def ipv4Byte (cs : List Char) : Option Nat :=
  if cs.isEmpty || !cs.all isDecimal || (cs.length > 1 && cs.head? == some '0') then none
  else if ofDigits 10 cs > 255 then none
  else some (ofDigits 10 cs)

/-- The last two pieces, written as four numbers. -/
def ipv4Tail (cs : List Char) : Option (Nat × Nat) :=
  match (cs.splitOn '.').mapM ipv4Byte with
  | some [a, b, c, d] => some (256 * a + b, 256 * c + d)
  | _ => none

def readPieces (cs : List Char) (p : Pieces) : Option Pieces :=
  match cs with
  | [] => some p
  | ':' :: rest =>
    if p.read.length ≥ 8 || p.gap.isSome then none
    else readPieces rest { read := p.read ++ [0], gap := some (p.read.length + 1) }
  | c :: more =>
    if p.read.length ≥ 8 then none
    else
      let digits := ((c :: more).take 4).takeWhile isHex
      let value := ofDigits 16 digits
      match h : (c :: more).drop digits.length with
      | [] => some (p.add value)
      | '.' :: _ =>
        if digits.isEmpty || p.read.length > 6 then none
        else (ipv4Tail (c :: more)).map fun (high, low) => (p.add high).add low
      | [':'] => none
      | ':' :: rest =>
        have : rest.length < (c :: more).length := by
          have := congrArg List.length h
          simp only [List.length_drop, List.length_cons] at this ⊢
          omega
        readPieces rest (p.add value)
      | _ => none
termination_by cs.length
decreasing_by
  · simp only [List.length_cons]
    omega
  · exact this

/-- Fills the gap with zeros. -/
def Pieces.fill (p : Pieces) : Option (List Nat) :=
  match p.gap with
  | none => if p.read.length = 8 then some p.read else none
  | some k =>
    if p.read.length ≤ 8 then
      some (p.read.take k ++ List.replicate (8 - p.read.length) 0 ++ p.read.drop k)
    else none

def ipv6? (cs : List Char) : Option (List Nat) :=
  match cs with
  | ':' :: ':' :: rest => (readPieces rest { read := [0], gap := some 1 }).bind Pieces.fill
  | ':' :: _ => none
  | cs => (readPieces cs {}).bind Pieces.fill

/-- How many zeros stand at the front. -/
def leadingZeros (ps : List Nat) : Nat := (ps.takeWhile (· == 0)).length

/-- Where the longest run of zeros starts, and how long it is; the first of two. -/
def longestZeros : List Nat → Nat × Nat
  | [] => (0, 0)
  | p :: ps =>
    let (start, length) := longestZeros ps
    let here := leadingZeros (p :: ps)
    if here ≥ length then (0, here) else (start + 1, length)

def pieceText (n : Nat) : List Char := hexDigits n

/-- Two or more zeros in a row are left out once, where most of them are. -/
def ipv6Text (ps : List Nat) : List Char :=
  let join (ps : List Nat) : List Char := [':'].intercalate (ps.map pieceText)
  let (start, length) := longestZeros ps
  if length < 2 then join ps
  else join (ps.take start) ++ [':', ':'] ++ join (ps.drop (start + length))

end FetchKit.Address
