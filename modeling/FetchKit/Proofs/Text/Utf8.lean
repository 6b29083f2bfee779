import FetchKit.Proofs.Text.Quoted
import FetchKit.Text.Utf8

/-!
# Text as bytes and back

The bytes of a character are read as that character, and nothing of what follows them.
-/

namespace FetchKit.Text.Utf8

theorem toNat_byte {k : Nat} (hk : k < 256) : (UInt8.ofNat k).toNat = k :=
  UInt8.toNat_ofNat_of_lt hk

theorem follow_ofNat {n bits low high x : Nat} (hx : x < 64) (hlow : low ≤ x + 128)
    (hhigh : x + 128 ≤ high) (bs : List UInt8) :
    follow (n + 1) bits low high (UInt8.ofNat (x + 128) :: bs) =
      follow n (64 * bits + x) 0x80 0xBF bs := by
  rw [follow, toNat_byte (by omega), if_pos ⟨hlow, hhigh⟩, Nat.add_sub_cancel]

theorem follow_toNat (c : Char) {bits low high : Nat} (h : bits = c.toNat) (bs : List UInt8) :
    follow 0 bits low high bs = (some c, bs) := by
  rw [follow, h, scalar?_toNat]

theorem next_ofNat {k bits n low high : Nat} (hk : 0x80 ≤ k) (hk' : k < 256)
    (hl : lead? k = some ⟨bits, n, low, high⟩) (bs : List UInt8) :
    next (UInt8.ofNat k) bs = follow n bits low high bs := by
  rw [next, toNat_byte hk', if_neg (by omega), hl]

section

variable (c : Char) (tail : List UInt8)

theorem next_one (h : c.toNat ≤ 0x7F) : next (UInt8.ofNat c.toNat) tail = (some c, tail) := by
  rw [next, toNat_byte (by omega), if_pos (by omega), scalar?_toNat]

theorem next_two (h : 0x7F < c.toNat) (h' : c.toNat ≤ 0x7FF) :
    next (UInt8.ofNat (c.toNat / 64 % 32 + 192)) (UInt8.ofNat (c.toNat % 64 + 128) :: tail) =
      (some c, tail) := by
  have hlead : lead? (c.toNat / 64 % 32 + 192) = some { bits := c.toNat / 64 % 32, follow := 1 } := by
    rw [lead?, if_neg (by omega), if_pos (by omega)]
    simp
  rw [next_ofNat (by omega) (by omega) hlead, follow_ofNat (by omega) (by omega) (by omega),
    follow_toNat c (by omega)]

theorem lead_three (h : 0x7FF < c.toNat) (h' : c.toNat ≤ 0xFFFF) :
    ∃ low high, lead? (c.toNat / 4096 % 16 + 224) =
        some { bits := c.toNat / 4096 % 16, follow := 2, low, high } ∧
      low ≤ c.toNat / 64 % 64 + 128 ∧ c.toNat / 64 % 64 + 128 ≤ high := by
  -- The bounds of the second byte keep out what is too small and half of a pair.
  have hvalid : c.toNat < 0xD800 ∨ 0xDFFF < c.toNat ∧ c.toNat < 0x110000 := c.valid
  by_cases hfirst : c.toNat / 4096 % 16 = 0
  · refine ⟨0xA0, 0xBF, ?_, by omega, by omega⟩
    simp [lead?, hfirst]
  · by_cases hpair : c.toNat / 4096 % 16 = 0xD
    · refine ⟨0x80, 0x9F, ?_, by omega, by omega⟩
      simp [lead?, hpair]
    · refine ⟨0x80, 0xBF, ?_, by omega, by omega⟩
      rw [lead?, if_neg (by omega), if_neg (by omega), if_neg (by omega), if_neg (by omega),
        if_pos (by omega)]
      simp

theorem next_three (h : 0x7FF < c.toNat) (h' : c.toNat ≤ 0xFFFF) :
    next (UInt8.ofNat (c.toNat / 4096 % 16 + 224))
        (UInt8.ofNat (c.toNat / 64 % 64 + 128) :: UInt8.ofNat (c.toNat % 64 + 128) :: tail) =
      (some c, tail) := by
  obtain ⟨low, high, hlead, hlow, hhigh⟩ := lead_three c h h'
  rw [next_ofNat (by omega) (by omega) hlead, follow_ofNat (by omega) hlow hhigh,
    follow_ofNat (by omega) (by omega) (by omega), follow_toNat c (by omega)]

theorem lead_four (h : 0xFFFF < c.toNat) :
    ∃ low high, lead? (c.toNat / 262144 % 8 + 240) =
        some { bits := c.toNat / 262144 % 8, follow := 3, low, high } ∧
      low ≤ c.toNat / 4096 % 64 + 128 ∧ c.toNat / 4096 % 64 + 128 ≤ high := by
  -- The bounds of the second byte keep out what is too small and what is beyond the last.
  have hvalid : c.toNat < 0xD800 ∨ 0xDFFF < c.toNat ∧ c.toNat < 0x110000 := c.valid
  by_cases hfirst : c.toNat / 262144 % 8 = 0
  · refine ⟨0x90, 0xBF, ?_, by omega, by omega⟩
    simp [lead?, hfirst]
  · by_cases hlast : c.toNat / 262144 % 8 = 4
    · refine ⟨0x80, 0x8F, ?_, by omega, by omega⟩
      simp [lead?, hlast]
    · refine ⟨0x80, 0xBF, ?_, by omega, by omega⟩
      rw [lead?, if_neg (by omega), if_neg (by omega), if_neg (by omega), if_neg (by omega),
        if_neg (by omega), if_neg (by omega), if_pos (by omega)]
      simp

theorem next_four (h : 0xFFFF < c.toNat) :
    next (UInt8.ofNat (c.toNat / 262144 % 8 + 240))
        (UInt8.ofNat (c.toNat / 4096 % 64 + 128) :: UInt8.ofNat (c.toNat / 64 % 64 + 128) ::
          UInt8.ofNat (c.toNat % 64 + 128) :: tail) = (some c, tail) := by
  have hvalid : c.toNat < 0xD800 ∨ 0xDFFF < c.toNat ∧ c.toNat < 0x110000 := c.valid
  obtain ⟨low, high, hlead, hlow, hhigh⟩ := lead_four c h
  rw [next_ofNat (by omega) (by omega) hlead, follow_ofNat (by omega) hlow hhigh,
    follow_ofNat (by omega) (by omega) (by omega), follow_ofNat (by omega) (by omega) (by omega),
    follow_toNat c (by omega)]

theorem next_encode : ∃ b bs, String.utf8EncodeChar c = b :: bs ∧ next b (bs ++ tail) = (some c, tail) := by
  have hv : c.val.toNat = c.toNat := rfl
  unfold String.utf8EncodeChar
  simp only [hv]
  split
  · next h => exact ⟨_, _, rfl, next_one c tail h⟩
  split
  · next h h' => exact ⟨_, _, rfl, next_two c tail (by omega) h'⟩
  split
  · next h h' h'' => exact ⟨_, _, rfl, next_three c tail (by omega) h''⟩
  · next h h' h'' => exact ⟨_, _, rfl, next_four c tail (by omega)⟩

end

theorem decode_encode (cs : List Char) : decode (encode cs) = some cs := by
  induction cs with
  | nil => simp [encode, decode]
  | cons c cs ih =>
    obtain ⟨b, bs, hbytes, hnext⟩ := next_encode c (encode cs)
    have hencode : encode (c :: cs) = b :: (bs ++ encode cs) := by
      simp [encode, hbytes]
    rw [hencode, decode, hnext]
    simp [ih]

theorem lossy_encode_append (cs : List Char) (rest : List UInt8) :
    lossy (encode cs ++ rest) = cs ++ lossy rest := by
  induction cs with
  | nil => rfl
  | cons c cs ih =>
    obtain ⟨b, bs, hbytes, hnext⟩ := next_encode c (encode cs ++ rest)
    have hencode : encode (c :: cs) ++ rest = b :: (bs ++ (encode cs ++ rest)) := by
      simp [encode, hbytes]
    rw [hencode, lossy, hnext, Option.getD_some, ih, List.cons_append]

theorem lossy_encode (cs : List Char) : lossy (encode cs) = cs := by
  simpa [lossy] using lossy_encode_append cs []

end FetchKit.Text.Utf8
