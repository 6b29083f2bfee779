import FetchKit.Text.Quoted

/-!
# Text as bytes

`Utf8.encode` writes a text, `Utf8.decode` reads one that is well formed. `Utf8.lossy` reads any
bytes: what cannot be part of a character becomes a replacement character, one for each longest
stretch that starts a character and breaks off.
-/

namespace FetchKit.Text.Utf8

def encode (cs : List Char) : List UInt8 := cs.flatMap String.utf8EncodeChar

/-- For the first byte of a longer character: the bits it gives, how many bytes follow, and the
bounds of the next one. -/
structure Lead where
  bits : Nat
  follow : Nat
  low : Nat := 0x80
  high : Nat := 0xBF
  deriving Repr, DecidableEq

def lead? (b : Nat) : Option Lead :=
  if b < 0xC2 then none
  else if b < 0xE0 then some { bits := b - 0xC0, follow := 1 }
  else if b = 0xE0 then some { bits := 0, follow := 2, low := 0xA0 }
  else if b = 0xED then some { bits := 0xD, follow := 2, high := 0x9F }
  else if b < 0xF0 then some { bits := b - 0xE0, follow := 2 }
  else if b = 0xF0 then some { bits := 0, follow := 3, low := 0x90 }
  else if b < 0xF4 then some { bits := b - 0xF0, follow := 3 }
  else if b = 0xF4 then some { bits := 4, follow := 3, high := 0x8F }
  else none

/-- The bytes that follow, the first of them within bounds: the character, if it is whole, and what
is left. -/
def follow : Nat → Nat → Nat → Nat → List UInt8 → Option Char × List UInt8
  | 0, bits, _, _, bs => (scalar? bits, bs)
  | _ + 1, _, _, _, [] => (none, [])
  | n + 1, bits, low, high, b :: bs =>
    if low ≤ b.toNat ∧ b.toNat ≤ high then follow n (64 * bits + (b.toNat - 0x80)) 0x80 0xBF bs
    else (none, b :: bs)

/-- The character that starts with this byte, if it is whole, and what is left. -/
def next (b : UInt8) (bs : List UInt8) : Option Char × List UInt8 :=
  if b.toNat < 0x80 then (scalar? b.toNat, bs)
  else
    match lead? b.toNat with
    | some l => follow l.follow l.bits l.low l.high bs
    | none => (none, bs)

theorem follow_length_le (n bits low high : Nat) (bs : List UInt8) :
    (follow n bits low high bs).2.length ≤ bs.length := by
  induction n generalizing bits low high bs with
  | zero => simp [follow]
  | succ n ih =>
    cases bs with
    | nil => simp [follow]
    | cons b bs =>
      rw [follow]
      split
      · exact Nat.le_succ_of_le (ih ..)
      · simp

theorem next_length_le (b : UInt8) (bs : List UInt8) : (next b bs).2.length ≤ bs.length := by
  unfold next
  split
  · simp
  · split
    · exact follow_length_le ..
    · simp

/-- What stands for bytes that are no character. -/
def replacement : Char := '\uFFFD'

def lossy (bs : List UInt8) : List Char :=
  match bs with
  | [] => []
  | b :: rest =>
    have := next_length_le b rest
    ((next b rest).1.getD replacement) :: lossy (next b rest).2
termination_by bs.length
decreasing_by simp; omega

def decode (bs : List UInt8) : Option (List Char) :=
  match bs with
  | [] => some []
  | b :: rest =>
    have := next_length_le b rest
    match (next b rest).1 with
    | some c => (decode (next b rest).2).map (c :: ·)
    | none => none
termination_by bs.length
decreasing_by simp; omega

end FetchKit.Text.Utf8
