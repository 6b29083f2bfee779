import FetchKit.Proofs.Text.Utf8
import FetchKit.Wire.Write

/-!
# What is written is read back

Each part of a document is read as the value it was written for, whatever comes after it there. A
record is read field by field; what was seen so far is carried along.
-/

namespace FetchKit.Wire

open FetchKit.Text Read

variable {α β σ : Type}

/-! ## Running readers -/

theorem run_bind (x : Read α) (f : α → Read β) (bs : List UInt8) :
    (x >>= f) bs =
      match x bs with
      | (.ok a, rest) => f a rest
      | (.error p, rest) => (.error p, rest) := by
  change (ExceptT.bindCont f (x bs).1) (x bs).2 = _
  rcases x bs with ⟨⟨⟩, rest⟩ <;> rfl

theorem run_pure (a : α) (bs : List UInt8) : (pure a : Read α) bs = (.ok a, bs) := rfl

theorem run_map (f : α → β) (x : Read α) (bs : List UInt8) :
    (f <$> x) bs =
      match x bs with
      | (.ok a, rest) => (.ok (f a), rest)
      | (.error p, rest) => (.error p, rest) := by
  rw [← bind_pure_comp]
  exact run_bind x (pure ∘ f) bs

theorem run_peek? (bs : List UInt8) : peek? bs = (.ok bs.head?, bs) := rfl

theorem run_eat (bs : List UInt8) : eat bs = (.ok (), bs.tail) := rfl

theorem run_next? (bs : List UInt8) : next? bs = (.ok bs.head?, bs.tail) := rfl

theorem run_get (bs : List UInt8) : (get : Read (List UInt8)) bs = (.ok bs, bs) := rfl

theorem run_set (new bs : List UInt8) : (set new : Read PUnit) bs = (.ok (), new) := rfl

theorem run_skipBlanks {b : UInt8} (hb : isBlankByte b = false) (bs : List UInt8) :
    skipBlanks (b :: bs) = (.ok (some b), b :: bs) := by
  change (Except.ok ((b :: bs).dropWhile isBlankByte).head?, (b :: bs).dropWhile isBlankByte) = _
  simp [hb]

theorem run_skipBlanks_nil : skipBlanks [] = (.ok none, []) := rfl

theorem run_start {b : UInt8} (hb : isBlankByte b = false) (bs : List UInt8) :
    start (b :: bs) = (.ok b, b :: bs) := by
  simp [start, run_bind, run_skipBlanks hb, run_pure]

theorem placed_of_ok {r : Read α} {bs rest : List UInt8} {a : α} (h : r bs = (.ok a, rest)) :
    placed r bs = (.ok a, rest) := by
  simp [placed, h]

theorem closedBy_of_ok {r : Read α} {close : Read Unit} {bs mid rest : List UInt8} {a : α}
    (h : r bs = (.ok a, mid)) (hclose : close mid = (.ok (), rest)) :
    closedBy r close bs = (.ok a, rest) := by
  simp [closedBy, h, hclose]

/-! ## Texts -/

theorem textBytes_go {mode mode' : TextMode} {b : UInt8} {bs out more rest : List UInt8}
    (hstep : mode.step b = .go mode' out) (h : textBytes mode' bs = (.ok more, rest)) :
    textBytes mode (b :: bs) = (.ok (out ++ more), rest) := by
  simp [textBytes, hstep, h]

theorem byteHexValue_digitChar {d : Nat} (hd : d < 16) : byteHexValue (byte d.digitChar) = some d := by
  revert d
  decide

theorem textBytes_control {b : UInt8} (hb : b.toNat < 32) {bs more rest : List UInt8}
    (h : textBytes .plain bs = (.ok more, rest)) :
    textBytes (.hex none 2 (some 0))
        (byte (b.toNat / 16).digitChar :: byte (b.toNat % 16).digitChar :: bs) =
      (.ok (b :: more), rest) := by
  have hchar : ∀ n < 32, charBytes n = [UInt8.ofNat n] := by decide
  have hhigh := byteHexValue_digitChar (d := b.toNat / 16) (by omega)
  have hlow := byteHexValue_digitChar (d := b.toNat % 16) (by omega)
  have hfirst : TextMode.step (.hex none 2 (some 0)) (byte (b.toNat / 16).digitChar) =
      .go (.hex none 1 (some (b.toNat / 16))) [] := by
    simp [TextMode.step, hhigh]
  have hsecond : TextMode.step (.hex none 1 (some (b.toNat / 16))) (byte (b.toNat % 16).digitChar) =
      .go .plain [b] := by
    have hvalue : 16 * (b.toNat / 16) + b.toNat % 16 = b.toNat := Nat.div_add_mod b.toNat 16
    simp only [TextMode.step, hlow, hvalue, finishHex, Nat.le_refl, if_true]
    rw [if_neg (by omega), if_neg (by omega), hchar b.toNat hb, UInt8.ofNat_toNat]
  exact textBytes_go hfirst (textBytes_go hsecond h)

theorem textBytes_escapeByte (b : UInt8) {bs more rest : List UInt8}
    (h : textBytes .plain bs = (.ok more, rest)) :
    textBytes .plain (escapeByte b ++ bs) = (.ok (b :: more), rest) := by
  have hopen : TextMode.step .plain (byte '\\') = .go .escape [] := rfl
  have hpair : ∀ e, TextMode.step .escape e = .go .plain [b] →
      textBytes .plain ([byte '\\', e] ++ bs) = (.ok (b :: more), rest) := by
    intro e he
    exact textBytes_go hopen (textBytes_go he h)
  unfold escapeByte
  split
  · next hb => exact hpair _ (by rw [hb]; rfl)
  split
  · next hb => exact hpair _ (by rw [hb]; rfl)
  split
  · next hb => exact hpair _ (by rw [hb]; rfl)
  split
  · next hb => exact hpair _ (by rw [hb]; rfl)
  split
  · next hb => exact hpair _ (by rw [hb]; rfl)
  split
  · next hb => exact hpair _ (by rw [hb]; rfl)
  split
  · next hb => exact hpair _ (by rw [hb]; rfl)
  split
  · next hb =>
    have hcontrol := textBytes_control (UInt8.lt_iff_toNat_lt.1 hb) h
    have hlong : TextMode.step .escape (byte 'u') = .go (.hex none 4 (some 0)) [] := rfl
    have hfirst : TextMode.step (.hex none 4 (some 0)) (byte '0') = .go (.hex none 3 (some 0)) [] :=
      rfl
    have hsecond : TextMode.step (.hex none 3 (some 0)) (byte '0') = .go (.hex none 2 (some 0)) [] :=
      rfl
    exact textBytes_go hopen (textBytes_go hlong (textBytes_go hfirst
      (textBytes_go hsecond hcontrol)))
  · next hquote hback _ _ _ _ _ hcontrol =>
    have hstep : TextMode.step .plain b = .go .plain [b] := by
      simp [TextMode.step, hquote, hback, hcontrol]
    exact textBytes_go hstep h

theorem textBytes_escaped (bytes tail : List UInt8) :
    textBytes .plain (bytes.flatMap escapeByte ++ byte '"' :: tail) =
      (.ok bytes, byte '"' :: tail) := by
  induction bytes with
  | nil => simp [textBytes, TextMode.step]
  | cons b bytes ih =>
    rw [List.flatMap_cons, List.append_assoc]
    exact textBytes_escapeByte b ih

theorem textBody_reads (s : String) (tail : List UInt8) :
    textBody ((Utf8.encode s.toList).flatMap escapeByte ++ byte '"' :: tail) = (.ok s, tail) := by
  simp [textBody, run_bind, run_get, run_set, textBytes_escaped, Utf8.decode_encode, run_map,
    run_eat]

theorem text_reads (s : String) (tail : List UInt8) : text (writeText s ++ tail) = (.ok s, tail) := by
  have hbody := textBody_reads s tail
  have hsplit : writeText s ++ tail =
      byte '"' :: ((Utf8.encode s.toList).flatMap escapeByte ++ byte '"' :: tail) := by
    simp [writeText]
  rw [hsplit, text, run_bind, run_start (by decide)]
  exact placed_of_ok (by simp [run_bind, run_eat, hbody])

/-! ## Loops -/

/-- The rounds of a loop from one state to the last. Every round but the last takes a byte. -/
inductive Rounds (body : σ → Read (σ × Bool)) : σ → List UInt8 → σ → List UInt8 → Prop
  | last {s bs s' rest} (h : body s bs = (.ok (s', false), rest)) : Rounds body s bs s' rest
  | again {s bs s' mid s'' rest} (h : body s bs = (.ok (s', true), mid))
    (hlt : mid.length < bs.length) (hmore : Rounds body s' mid s'' rest) :
    Rounds body s bs s'' rest

theorem Rounds.repeatFor_eq {body : σ → Read (σ × Bool)} {s s' : σ} {bs rest : List UInt8}
    (h : Rounds body s bs s' rest) {n : Nat} (hn : bs.length < n) :
    repeatFor n s body bs = (.ok s', rest) := by
  induction h generalizing n with
  | last h =>
    obtain ⟨n, rfl⟩ : ∃ k, n = k + 1 := ⟨n - 1, by omega⟩
    simp [repeatFor, run_bind, h, run_pure]
  | again h hlt hmore ih =>
    obtain ⟨n, rfl⟩ : ∃ k, n = k + 1 := ⟨n - 1, by omega⟩
    simp [repeatFor, run_bind, h, ih (n := n) (by omega)]

theorem Rounds.repeatWhile_eq {body : σ → Read (σ × Bool)} {s s' : σ} {bs rest : List UInt8}
    (h : Rounds body s bs s' rest) : repeatWhile s body bs = (.ok s', rest) := by
  rw [repeatWhile, run_bind, run_get]
  exact h.repeatFor_eq (Nat.lt_succ_self _)

/-! ## Numbers -/

/-- What can come after a value: the end, a comma or a closing bracket. -/
def EndsValue (tail : List UInt8) : Prop :=
  ∀ b ∈ tail.head?, b ∈ [byte ',', byte ']', byte '}']

def valueOf (digits : List UInt8) (start : Nat) : Nat :=
  digits.foldl (fun n d => 10 * n + digitOf d) start

theorem le_valueOf (digits : List UInt8) (start : Nat) : start ≤ valueOf digits start := by
  induction digits generalizing start with
  | nil => exact Nat.le_refl start
  | cons d ds ih =>
    have := ih (10 * start + digitOf d)
    simp only [valueOf, List.foldl_cons] at this ⊢
    omega

theorem writeNatural_digits (n : Nat) :
    ∃ d ds, writeNatural n = d :: ds ∧ (∀ b ∈ d :: ds, isDigitByte b = true) ∧
      (d = byte '0' → n = 0 ∧ ds = []) ∧ valueOf ds (digitOf d) = n := by
  have hdigit : ∀ k < 10, isDigitByte (byte k.digitChar) = true ∧
      digitOf (byte k.digitChar) = k ∧ (byte k.digitChar = byte '0' → k = 0) := by decide
  induction n using Nat.strongRecOn with
  | ind n ih =>
    unfold writeNatural at ih ⊢
    rw [Nat.toDigits_eq_if (by decide)]
    split
    · next hn =>
      obtain ⟨hone, hvalue, hzero⟩ := hdigit n hn
      exact ⟨_, [], rfl, by simp [hone], fun h => ⟨hzero h, rfl⟩, hvalue⟩
    · next hn =>
      obtain ⟨d, ds, hds, hall, hzero, hvalue⟩ := ih (n / 10) (by omega)
      obtain ⟨hone, hlast, -⟩ := hdigit (n % 10) (Nat.mod_lt n (by decide))
      refine ⟨d, ds ++ [byte (n % 10).digitChar], by simp [hds], ?_, fun h => ?_, ?_⟩
      · intro b hb
        rw [← List.cons_append] at hb
        rcases List.mem_append.1 hb with hb | hb
        · exact hall b hb
        · rw [List.mem_singleton.1 hb]
          exact hone
      · have := (hzero h).1
        omega
      · unfold valueOf at hvalue ⊢
        rw [List.foldl_append, hvalue, List.foldl_cons, List.foldl_nil, hlast, Nat.div_add_mod]

theorem EndsValue.not_number {tail : List UInt8} (h : EndsValue tail) :
    ((tail.head?.map isDigitByte).getD false = false ∧ tail.takeWhile isDigitByte = [] ∧
      tail.dropWhile isDigitByte = tail) ∧
    tail.head? ≠ some (byte '.') ∧ tail.head? ≠ some (byte 'e') ∧ tail.head? ≠ some (byte 'E') := by
  have hall : ∀ b ∈ [byte ',', byte ']', byte '}'], isDigitByte b = false ∧ b ≠ byte '.' ∧
      b ≠ byte 'e' ∧ b ≠ byte 'E' := by
    simp only [List.forall_mem_cons, List.not_mem_nil, false_imp_iff, implies_true]
    decide
  cases tail with
  | nil => simp
  | cons b bs =>
    obtain ⟨hdigit, hpoint, hlow, hhigh⟩ := hall b (h b rfl)
    simp [hdigit, hpoint, hlow, hhigh]

theorem takeDigits_reads {digits tail : List UInt8} {first : Nat}
    (hall : ∀ b ∈ digits, isDigitByte b = true) (htail : EndsValue tail)
    (hlt : valueOf digits first < UInt64.size) :
    takeDigits first (digits ++ tail) = (.ok (valueOf digits first, digits.length), tail) := by
  unfold takeDigits
  apply Rounds.repeatWhile_eq
  rw [← Nat.zero_add digits.length]
  generalize 0 = count
  induction digits generalizing first count with
  | nil =>
    apply Rounds.last
    obtain ⟨⟨hdigit, -⟩, -⟩ := htail.not_number
    cases tail with
    | nil => simp [run_bind, run_peek?, run_pure, valueOf]
    | cons b bs =>
      have hb : isDigitByte b = false := by simpa using hdigit
      simp [run_bind, run_peek?, run_pure, valueOf, hb]
  | cons d ds ih =>
    have hd := hall d List.mem_cons_self
    have hnext : 10 * first + digitOf d < UInt64.size :=
      Nat.lt_of_le_of_lt (le_valueOf ds (10 * first + digitOf d)) hlt
    have hmore := ih (fun b hb => hall b (List.mem_cons_of_mem d hb)) hlt (count + 1)
    rw [Nat.add_assoc, Nat.add_comm 1] at hmore
    refine .again ?_ ?_ hmore
    · simp [run_bind, run_peek?, run_eat, run_map, hd, hnext]
    · simp

theorem run_peekDigit (bs : List UInt8) :
    peekDigit bs = (.ok ((bs.head?.map isDigitByte).getD false), bs) := by
  simp [peekDigit, run_map, run_peek?]

theorem isDigitByte_zero : isDigitByte (byte '0') = true := by decide

theorem number_reads {n : Nat} (hn : n < UInt64.size) {tail : List UInt8} (htail : EndsValue tail) :
    number true (writeNatural n ++ tail) = (.ok (.natural n), tail) := by
  obtain ⟨d, ds, hds, hall, hzero, hvalue⟩ := writeNatural_digits n
  obtain ⟨⟨hdigit, htake, hdrop⟩, hpoint, hlow, hhigh⟩ := htail.not_number
  have hd := hall d List.mem_cons_self
  have hskip : skipDigits tail = (.ok 0, tail) := by
    simp [skipDigits, run_bind, run_get, run_set, run_map, htake, hdrop]
  have hexponent : peekExponent tail = (.ok false, tail) := by
    simp [peekExponent, run_bind, run_map, run_peek?, beq_eq_false_iff_ne.2 hlow,
      beq_eq_false_iff_ne.2 hhigh]
  rw [hds, List.cons_append, number]
  by_cases hfirst : d = byte '0'
  · obtain ⟨rfl, rfl⟩ := hzero hfirst
    simp [run_bind, run_next?, hfirst, run_peekDigit, hdigit, run_pure, hskip, run_peek?, hpoint,
      hexponent, isDigitByte_zero]
  · have hdigits := takeDigits_reads (fun b hb => hall b (List.mem_cons_of_mem d hb)) htail
      (hvalue ▸ hn : valueOf ds (digitOf d) < UInt64.size)
    simp [run_bind, run_next?, run_peekDigit, hfirst, hd, hdigits, hskip, run_peek?, hpoint,
      hexponent, run_pure, hvalue]


/-! ## Values -/

/-- These bytes stand for a value: its reader takes them, and nothing of what can come after a
value. They start with neither a blank nor the end of a list. -/
structure Spells (r : Read α) (bs : List UInt8) (a : α) : Prop where
  starts : ∃ b rest, bs = b :: rest ∧ isBlankByte b = false ∧ b ≠ byte ']'
  reads {tail : List UInt8} (htail : EndsValue tail) : r (bs ++ tail) = (.ok a, tail)

theorem endsValue_cons {b : UInt8} (hb : b ∈ [byte ',', byte ']', byte '}']) (bs : List UInt8) :
    EndsValue (b :: bs) := by
  intro d hd
  cases hd
  exact hb

theorem text_spells (s : String) : Spells text (writeText s) s where
  starts := ⟨byte '"', _, rfl, by decide, by decide⟩
  reads _ := text_reads s _

theorem not_blank_of_isDigitByte {b : UInt8} (h : isDigitByte b = true) :
    isBlankByte b = false ∧ b ≠ byte '-' ∧ b ≠ byte ']' := by
  have hne : ∀ c, isDigitByte c = false → b ≠ c := by
    rintro c hc rfl
    simp [h] at hc
  refine ⟨?_, hne _ (by decide), hne _ (by decide)⟩
  simp [isBlankByte, hne 32 (by decide), hne 10 (by decide), hne 9 (by decide), hne 13 (by decide)]

theorem integer_reads {n : Nat} {high : Int} (hn : n < UInt64.size) (hhigh : (n : Int) ≤ high)
    (low : Int) (expected : String) {tail : List UInt8} (htail : EndsValue tail) :
    integer low high expected (writeNatural n ++ tail) = (.ok n, tail) := by
  have hnumber := number_reads hn htail
  obtain ⟨d, ds, hds, hall, -⟩ := writeNatural_digits n
  have hd := hall d List.mem_cons_self
  obtain ⟨hblank, hminus, -⟩ := not_blank_of_isDigitByte hd
  rw [hds, List.cons_append] at hnumber ⊢
  rw [integer, run_bind, run_start hblank]
  apply placed_of_ok
  simp [hminus, hd, run_bind, hnumber, hhigh, run_pure]

theorem u64_spells (n : UInt64) : Spells u64 (writeNatural n.toNat) n where
  starts := by
    obtain ⟨d, ds, hds, hall, -⟩ := writeNatural_digits n.toNat
    obtain ⟨hblank, -, hend⟩ := not_blank_of_isDigitByte (hall d List.mem_cons_self)
    exact ⟨d, ds, hds, hblank, hend⟩
  reads htail := by
    have hlt : n.toNat < UInt64.size := n.toNat_lt
    have hhigh : (n.toNat : Int) ≤ 0xFFFFFFFFFFFFFFFF := by
      have hsize : UInt64.size = 0x10000000000000000 := rfl
      omega
    simp [u64, run_map, integer_reads hlt hhigh 0 "u64" htail]

theorem optional_spells_none (r : Read α) (write : α → List UInt8) :
    Spells (optional r) (writeOptional write none) none where
  starts := ⟨byte 'n', _, rfl, by decide, by decide⟩
  reads {tail} _ := by
    have hnull : writeOptional write none ++ tail =
        byte 'n' :: byte 'u' :: byte 'l' :: byte 'l' :: tail := rfl
    rw [hnull, optional, run_bind, run_skipBlanks (by decide)]
    simp [run_bind, run_eat, run_map, word, run_next?, run_pure]

theorem optional_spells_some {r : Read α} {bs : List UInt8} {a : α} (h : Spells r bs a)
    (hnull : bs.head? ≠ some (byte 'n')) : Spells (optional r) bs (some a) where
  starts := h.starts
  reads htail := by
    obtain ⟨b, rest, rfl, hblank, -⟩ := h.starts
    have hreads := h.reads htail
    have hb : b ≠ byte 'n' := by simpa using hnull
    rw [List.cons_append] at hreads ⊢
    simp [optional, run_bind, run_skipBlanks hblank, hb, run_map, hreads]

/-! ## Lists -/

theorem separated_cons (p : List UInt8) (ps : List (List UInt8)) :
    separated (p :: ps) = p ++ ps.flatMap (byte ',' :: ·) := by
  induction ps generalizing p with
  | nil => simp [separated, List.intercalate]
  | cons q ps ih =>
    have hcons : separated (p :: q :: ps) = p ++ byte ',' :: separated (q :: ps) := by
      simp [separated, List.intercalate]
    rw [hcons, ih]
    simp

theorem hasElement_end (first : Bool) (tail : List UInt8) :
    hasElement first (byte ']' :: tail) = (.ok false, byte ']' :: tail) := by
  simp [hasElement, run_bind, run_skipBlanks (b := byte ']') (by decide), run_pure]

theorem hasElement_first {b : UInt8} (hblank : isBlankByte b = false) (hb : b ≠ byte ']')
    (tail : List UInt8) : hasElement true (b :: tail) = (.ok true, b :: tail) := by
  simp [hasElement, run_bind, run_skipBlanks hblank, hb, run_pure]

theorem hasElement_comma {b : UInt8} (hblank : isBlankByte b = false) (hb : b ≠ byte ']')
    (tail : List UInt8) : hasElement false (byte ',' :: b :: tail) = (.ok true, b :: tail) := by
  have hcomma : byte ',' ≠ byte ']' := by decide
  simp [hasElement, run_bind, run_skipBlanks (b := byte ',') (by decide), hcomma, run_eat,
    run_skipBlanks hblank, hb, run_pure]

section

variable {item : Read α} {write : α → List UInt8} (hitem : ∀ a, Spells item (write a) a)
include hitem

theorem nextElement_reads (a : α) (found : List α) (first : Bool) {tail : List UInt8}
    (htail : EndsValue tail) :
    nextElement item (found, first) ((if first then [] else [byte ',']) ++ (write a ++ tail)) =
      (.ok ((a :: found, false), true), tail) := by
  obtain ⟨b, rest, hwrite, hblank, hend⟩ := (hitem a).starts
  have hreads := (hitem a).reads htail
  rw [hwrite, List.cons_append] at hreads ⊢
  have hhas : hasElement first ((if first then [] else [byte ',']) ++ b :: (rest ++ tail)) =
      (.ok true, b :: (rest ++ tail)) := by
    cases first with
    | true => exact hasElement_first hblank hend _
    | false => exact hasElement_comma hblank hend _
  simp [nextElement, run_bind, hhas, run_map, hreads]

omit hitem in
theorem endsValue_separated (ps : List (List UInt8)) {b : UInt8} (tail : List UInt8)
    (hb : b ∈ [byte ',', byte ']', byte '}']) :
    EndsValue (ps.flatMap (byte ',' :: ·) ++ b :: tail) := by
  cases ps with
  | nil => exact endsValue_cons hb tail
  | cons p ps => exact endsValue_cons (by decide) _

theorem rounds_nextElement (as found : List α) (tail : List UInt8) :
    Rounds (nextElement item) (found, false)
      ((as.map write).flatMap (byte ',' :: ·) ++ byte ']' :: tail) (as.reverse ++ found, false)
      (byte ']' :: tail) := by
  induction as generalizing found with
  | nil =>
    apply Rounds.last
    simp [nextElement, run_bind, hasElement_end, run_pure]
  | cons a as ih =>
    have hround := nextElement_reads hitem a found false
      (endsValue_separated (as.map write) tail (b := byte ']') (by decide))
    have hmore := ih (a :: found)
    rw [List.reverse_cons, List.append_assoc, List.singleton_append]
    refine .again (by simpa using hround) ?_ hmore
    simp only [List.map_cons, List.flatMap_cons, List.cons_append, List.length_cons,
      List.length_append]
    omega

theorem elements_reads (as : List α) (tail : List UInt8) :
    elements item (separated (as.map write) ++ byte ']' :: tail) = (.ok as, byte ']' :: tail) := by
  have hrounds : ∃ first, Rounds (nextElement item) ([], true)
      (separated (as.map write) ++ byte ']' :: tail) (as.reverse, first) (byte ']' :: tail) := by
    cases as with
    | nil =>
      refine ⟨true, .last ?_⟩
      simp [separated, nextElement, run_bind, hasElement_end, run_pure]
    | cons a as =>
      have hround := nextElement_reads hitem a [] true
        (endsValue_separated (as.map write) tail (b := byte ']') (by decide))
      obtain ⟨b, rest, hwrite, -⟩ := (hitem a).starts
      rw [List.map_cons, separated_cons, List.append_assoc, List.reverse_cons]
      refine ⟨false, .again hround ?_ (rounds_nextElement hitem as [a] tail)⟩
      simp only [hwrite, List.cons_append, List.length_cons, List.length_append]
      omega
  obtain ⟨first, hrounds⟩ := hrounds
  simp [elements, run_map, hrounds.repeatWhile_eq]

theorem list_spells (as : List α) : Spells (list item) (writeList write as) as where
  starts := ⟨byte '[', _, rfl, by decide, by decide⟩
  reads {tail} _ := by
    have hend : endList (byte ']' :: tail) = (.ok (), tail) := by
      simp [endList, run_bind, run_skipBlanks (b := byte ']') (by decide), run_eat]
    have hall := closedBy_of_ok (elements_reads hitem as tail) hend
    have hsplit : writeList write as ++ tail =
        byte '[' :: (separated (as.map write) ++ byte ']' :: tail) := by
      simp [writeList]
    rw [hsplit, list, run_bind, run_start (by decide)]
    exact placed_of_ok (by simp [run_bind, run_eat, hall])

end

/-! ## Records -/

/-- Fields that come one after the other: each has a reader that takes what was seen so far from
one state to the next. -/
inductive Fills (r : Record σ α) : σ → List (String × List UInt8) → σ → Prop
  | nil {s} : Fills r s [] s
  | cons {s s' s'' name bs read fields} (hfield : r.field name = some read)
    (hread : ∀ tail, EndsValue tail → read s (byte ':' :: (bs ++ tail)) = (.ok s', tail))
    (hmore : Fills r s' fields s'') : Fills r s ((name, bs) :: fields) s''

theorem once_reads {seen : σ → Option β} {put : β → σ → σ} {r : Read β} {bs : List UInt8} {b : β}
    (h : Spells r bs b) (name : String) {s : σ} (hseen : seen s = none) (tail : List UInt8)
    (htail : EndsValue tail) :
    once name seen put r s (byte ':' :: (bs ++ tail)) = (.ok (put b s), tail) := by
  have hcolon : colon (byte ':' :: (bs ++ tail)) = (.ok (), bs ++ tail) := by
    simp [colon, run_bind, run_skipBlanks (b := byte ':') (by decide), run_eat]
  simp [once, hseen, run_bind, hcolon, run_map, h.reads htail]

theorem hasKey_end (first : Bool) (tail : List UInt8) :
    hasKey first (byte '}' :: tail) = (.ok false, byte '}' :: tail) := by
  simp [hasKey, run_bind, run_skipBlanks (b := byte '}') (by decide), run_pure]

theorem hasKey_quote (first : Bool) (tail : List UInt8) :
    hasKey first ((if first then [] else [byte ',']) ++ byte '"' :: tail) =
      (.ok true, byte '"' :: tail) := by
  have hquote : byte '"' ≠ byte '}' := by decide
  have hcomma : byte ',' ≠ byte '}' := by decide
  cases first with
  | true => simp [hasKey, run_bind, run_skipBlanks (b := byte '"') (by decide), hquote, run_pure]
  | false =>
    simp [hasKey, run_bind, run_skipBlanks (b := byte ',') (by decide), hcomma, run_eat,
      run_skipBlanks (b := byte '"') (by decide), run_pure]

section

variable {r : Record σ α}

theorem nextEntry_reads {s s' : σ} {name : String} {bs : List UInt8} {read : σ → Read σ}
    (hfield : r.field name = some read)
    (hread : ∀ tail, EndsValue tail → read s (byte ':' :: (bs ++ tail)) = (.ok s', tail))
    (first : Bool) {tail : List UInt8} (htail : EndsValue tail) :
    nextEntry r (s, first) ((if first then [] else [byte ',']) ++ (writeField (name, bs) ++ tail)) =
      (.ok ((s', false), true), tail) := by
  have hkey := textBody_reads name (byte ':' :: (bs ++ tail))
  have hsplit : writeField (name, bs) ++ tail = byte '"' ::
      ((Utf8.encode name.toList).flatMap escapeByte ++ byte '"' :: byte ':' :: (bs ++ tail)) := by
    simp [writeField, writeText]
  rw [hsplit]
  simp [nextEntry, run_bind, hasKey_quote, run_eat, hkey, hfield, run_map, hread tail htail]

theorem Fills.rounds {s s' : σ} {fields : List (String × List UInt8)} (h : Fills r s fields s')
    (tail : List UInt8) :
    Rounds (nextEntry r) (s, false)
      ((fields.map writeField).flatMap (byte ',' :: ·) ++ byte '}' :: tail) (s', false)
      (byte '}' :: tail) := by
  induction h with
  | nil =>
    apply Rounds.last
    simp [nextEntry, run_bind, hasKey_end, run_pure]
  | @cons s s' s'' name bs read fields hfield hread hmore ih =>
    have hround := nextEntry_reads hfield hread false
      (endsValue_separated (fields.map writeField) tail (b := byte '}') (by decide))
    refine .again (by simpa using hround) ?_ ih
    simp only [List.map_cons, List.flatMap_cons, List.cons_append, List.length_cons,
      List.length_append]
    omega

theorem entries_reads {s : σ} {fields : List (String × List UInt8)} {a : α}
    (h : Fills r r.empty fields s) (hfinish : ∀ bs, r.finish s bs = (.ok a, bs))
    (tail : List UInt8) :
    entries r (separated (fields.map writeField) ++ byte '}' :: tail) = (.ok a, byte '}' :: tail) := by
  have hrounds : ∃ first, Rounds (nextEntry r) (r.empty, true)
      (separated (fields.map writeField) ++ byte '}' :: tail) (s, first) (byte '}' :: tail) := by
    cases h with
    | nil =>
      refine ⟨true, .last ?_⟩
      simp [separated, nextEntry, run_bind, hasKey_end, run_pure]
    | @cons _ s' _ name bs read fields hfield hread hmore =>
      have hround := nextEntry_reads hfield hread true
        (endsValue_separated (fields.map writeField) tail (b := byte '}') (by decide))
      rw [List.map_cons, separated_cons, List.append_assoc]
      refine ⟨false, .again hround ?_ (hmore.rounds tail)⟩
      simp [writeField, writeText]
      omega
  obtain ⟨first, hrounds⟩ := hrounds
  simp [entries, run_bind, hrounds.repeatWhile_eq, hfinish]

theorem record_spells {s : σ} {fields : List (String × List UInt8)} {a : α}
    (h : Fills r r.empty fields s) (hfinish : ∀ bs, r.finish s bs = (.ok a, bs)) :
    Spells (record r) (writeRecord fields) a where
  starts := ⟨byte '{', _, rfl, by decide, by decide⟩
  reads {tail} _ := by
    have hend : endObject (byte '}' :: tail) = (.ok (), tail) := by
      simp [endObject, run_bind, run_skipBlanks (b := byte '}') (by decide), run_eat]
    have hall := closedBy_of_ok (entries_reads h hfinish tail) hend
    have hbracket : byte '{' ≠ byte '[' := by decide
    have hsplit : writeRecord fields ++ tail =
        byte '{' :: (separated (fields.map writeField) ++ byte '}' :: tail) := by
      simp [writeRecord]
    rw [hsplit, record, run_bind, run_start (by decide)]
    exact placed_of_ok (by simp [hbracket, run_bind, run_eat, hall])

end

/-! ## The types of documents -/

theorem networkResponse_spells (v : NetworkResponse) :
    Spells (record NetworkResponse.layout) v.write v :=
  record_spells (.cons rfl (once_reads (text_spells v.id) "id" rfl) .nil) fun _ => rfl

theorem args_spells (v : Args) : Spells (record Args.layout) v.write v :=
  record_spells (.cons rfl (once_reads (text_spells v.q) "q" rfl) .nil) fun _ => rfl

theorem optional_args_spells (v : Option Args) :
    Spells (optional (record Args.layout)) (writeOptional Args.write v) v := by
  cases v with
  | none => exact optional_spells_none _ _
  | some v =>
    have hstart : (writeOptional Args.write (some v)).head? = some (byte '{') := rfl
    exact optional_spells_some (args_spells v) (by rw [hstart]; decide)

theorem user_spells (v : User) : Spells (record User.layout) v.write v :=
  record_spells
    (.cons rfl (once_reads (u64_spells v.id) "id" rfl)
      (.cons rfl (once_reads (text_spells v.name) "name" rfl)
        (.cons rfl (once_reads (optional_args_spells v.args) "args" rfl) .nil))) fun _ => rfl

theorem page_spells {item : Read α} {write : α → List UInt8} (hitem : ∀ a, Spells item (write a) a)
    (v : Page α) : Spells (record (Page.layout item)) (v.write write) v :=
  record_spells (.cons rfl (once_reads (list_spells hitem v.items) "items" rfl) .nil) fun _ => rfl

theorem Spells.decode_eq {r : Read α} {bs : List UInt8} {a : α} (h : Spells r bs a) :
    decode r bs = .ok a := by
  have hend : EndsValue [] := by
    intro b hb
    cases hb
  have hreads := h.reads hend
  rw [List.append_nil] at hreads
  have hdocument : document r bs = (.ok a, []) := by
    simp [document, run_bind, hreads, run_skipBlanks_nil, run_pure]
  rw [decode, hdocument]
  rfl

end FetchKit.Wire
