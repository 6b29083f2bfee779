import FetchKit.Text.Utf8
import FetchKit.Wire.Flaw

/-!
# Reading a document

A reader takes bytes off the front of a document. It can fail at a place; a failure whose place is
open gets one when the reader around it is done.
-/

namespace FetchKit.Wire

open FetchKit.Text

/-- A reader. What is left of the document is known also after a failure. -/
abbrev Read (α : Type) := ExceptT Problem (StateM (List UInt8)) α

def byte (c : Char) : UInt8 := UInt8.ofNat c.toNat

namespace Read

/-! ## Failing -/

/-- Fails at the place that was reached. -/
def fail {α : Type} (f : Flaw) : Read α := do
  throw { flaw := f, left := some (← get).length }

/-- Fails at the next byte. -/
def failNext {α : Type} (f : Flaw) : Read α := do
  throw { flaw := f, left := some ((← get).length - 1) }

/-- Fails where the reader around this one ends. -/
def failOpen {α : Type} (f : Flaw) : Read α := throw { flaw := f }

/-- Gives an open failure its place. -/
def placed {α : Type} (r : Read α) : Read α := fun bs =>
  match r bs with
  | (.error { flaw, left := none }, rest) => (.error { flaw, left := some rest.length }, rest)
  | result => result

/-- Reads the end of a list or object also when its content failed. The first failure counts. -/
def closedBy {α : Type} (r : Read α) (close : Read Unit) : Read α := fun bs =>
  let (result, rest) := r bs
  let (closed, rest) := close rest
  match result, closed with
  | .ok a, .ok () => (.ok a, rest)
  | .error p, _ => (.error p, rest)
  | .ok _, .error p => (.error p, rest)

/-! ## Bytes -/

def peek? : Read (Option UInt8) := do return (← get).head?

def eat : Read Unit := modify List.tail

def next? : Read (Option UInt8) := do
  let bs ← get
  set bs.tail
  return bs.head?

def isBlankByte (b : UInt8) : Bool := b == 32 || b == 10 || b == 9 || b == 13

/-- Skips blanks and shows what follows. -/
def skipBlanks : Read (Option UInt8) := do
  modify (·.dropWhile isBlankByte)
  peek?

/-- The rest of a word, after its first letter. -/
def word : List Char → Read Unit
  | [] => pure ()
  | c :: cs => do
    match ← next? with
    | none => fail .eofInValue
    | some b => if b = byte c then word cs else fail .noWord

/-- Repeats a reader that takes at least one byte in each round but the last. -/
def repeatFor {σ : Type} : Nat → σ → (σ → Read (σ × Bool)) → Read σ
  | 0, s, _ => pure s
  | n + 1, s, body => do
    let (s, again) ← body s
    if again then repeatFor n s body else pure s

def repeatWhile {σ : Type} (s : σ) (body : σ → Read (σ × Bool)) : Read σ := do
  repeatFor ((← get).length + 1) s body

/-! ## Texts -/

/-- Where the reader of a text stands between two bytes. -/
inductive TextMode where
  | plain
  | escape
  /-- Digits of an escape: after a leading half of a pair or not, how many are left, and their value
  unless one of them is no digit. -/
  | hex (half : Option Nat) (left : Nat) (value : Option Nat)
  /-- After a leading half. -/
  | half (high : Nat)
  /-- After a leading half and a backslash. -/
  | halfEscape (high : Nat)
  deriving Repr, DecidableEq

/-- What a byte does. -/
inductive TextStep where
  | go (mode : TextMode) (out : List UInt8)
  | close
  | flawed (f : Flaw)

def charBytes (n : Nat) : List UInt8 :=
  match scalar? n with
  | some c => String.utf8EncodeChar c
  | none => []

/-- An escape after its last digit. -/
def finishHex (half : Option Nat) (value : Option Nat) : TextStep :=
  match half, value with
  | _, none => .flawed .badEscape
  | none, some n =>
    if 0xDC00 ≤ n ∧ n ≤ 0xDFFF then .flawed .loneSurrogate
    else if 0xD800 ≤ n ∧ n ≤ 0xDBFF then .go (.half n) []
    else .go .plain (charBytes n)
  | some high, some n =>
    if 0xDC00 ≤ n ∧ n ≤ 0xDFFF then
      .go .plain (charBytes (0x10000 + (high - 0xD800) * 0x400 + (n - 0xDC00)))
    else .flawed .loneSurrogate

/-- The byte that a short escape stands for. -/
def shortEscape (b : UInt8) : Option UInt8 :=
  if b = byte '"' || b = byte '\\' || b = byte '/' then some b
  else if b = byte 'b' then some 8
  else if b = byte 'f' then some 12
  else if b = byte 'n' then some 10
  else if b = byte 'r' then some 13
  else if b = byte 't' then some 9
  else none

def byteHexValue (b : UInt8) : Option Nat := hexValue (Char.ofNat b.toNat)

def TextMode.step (mode : TextMode) (b : UInt8) : TextStep :=
  match mode with
  | plain =>
    if b = byte '"' then .close
    else if b = byte '\\' then .go .escape []
    else if b < 32 then .flawed .control
    else .go .plain [b]
  | escape =>
    if b = byte 'u' then .go (.hex none 4 (some 0)) []
    else
      match shortEscape b with
      | some out => .go .plain [out]
      | none => .flawed .badEscape
  | hex first left value =>
    let value := match value, byteHexValue b with
      | some v, some d => some (16 * v + d)
      | _, _ => none
    if left ≤ 1 then finishHex first value else .go (.hex first (left - 1) value) []
  | half high => if b = byte '\\' then .go (.halfEscape high) [] else .flawed .cutEscape
  | halfEscape high =>
    if b = byte 'u' then .go (.hex (some high) 4 (some 0)) [] else .flawed .cutEscape

/-- The bytes of a text up to its closing quote, and what is left from the quote on; or a flaw and
what is left after it. -/
def textBytes : TextMode → List UInt8 → Except Flaw (List UInt8) × List UInt8
  | _, [] => (.error .eofInString, [])
  | mode, b :: bs =>
    match mode.step b with
    | .close => (.ok [], b :: bs)
    | .flawed f => (.error f, bs)
    | .go mode out =>
      match textBytes mode bs with
      | (.ok more, rest) => (.ok (out ++ more), rest)
      | failed => failed

/-- A text after its opening quote. -/
def textBody : Read String := do
  let (result, rest) := textBytes .plain (← get)
  set rest
  match result with
  | .error f => fail f
  | .ok bytes =>
    match Utf8.decode bytes with
    | none => fail .badUnicode
    | some cs =>
      eat
      return String.ofList cs

/-! ## Numbers -/

inductive Number where
  | natural (n : Nat)
  | negative (n : Int)
  | float (x : Float)
  deriving Repr

def Number.found : Number → Found
  | natural n => .integer n
  | negative n => .integer n
  | float x => .float x

def isDigitByte (b : UInt8) : Bool := 48 ≤ b && b ≤ 57

def digitOf (b : UInt8) : Nat := b.toNat - 48

def peekDigit : Read Bool := do return ((← peek?).map isDigitByte).getD false

def peekExponent : Read Bool := do
  return (← peek?) == some (byte 'e') || (← peek?) == some (byte 'E')

def signed (positive : Bool) (x : Float) : Float := if positive then x else -x

/-- `significand * 10 ^ exponent` in steps of one multiplication or division each. -/
def floatOfParts (significand : Nat) : Nat → Int → Option Float
  | 0, _ => none
  | n + 1, exponent =>
    let start := (UInt64.ofNat significand).toFloat
    scale start n exponent
where
  scale (f : Float) : Nat → Int → Option Float
    | 0, _ => some f
    | n + 1, exponent =>
      if exponent.natAbs ≤ 308 then
        let power := Float.ofScientific 1 false exponent.natAbs
        if 0 ≤ exponent then
          let product := f * power
          if product.isInf then none else some product
        else some (f / power)
      else if f == 0 then some f
      else if 0 ≤ exponent then none
      else scale (f / 1e308) n (exponent + 308)

def fromParts (positive : Bool) (significand : Nat) (exponent : Int) : Read Float := do
  match floatOfParts significand (exponent.natAbs + 2) exponent with
  | some x => return signed positive x
  | none => fail .outOfRange

/-- Skips digits. Gives how many there were. -/
def skipDigits : Read Nat := do
  let bs ← get
  set (bs.dropWhile isDigitByte)
  return (bs.takeWhile isDigitByte).length

/-- Takes digits into a number while it stays below 2 ^ 64. Gives the number and how many digits
went into it. -/
def takeDigits (start : Nat) : Read (Nat × Nat) :=
  repeatWhile (start, 0) fun (n, count) => do
    match ← peek? with
    | some b =>
      if isDigitByte b && 10 * n + digitOf b < UInt64.size then
        eat
        return ((10 * n + digitOf b, count + 1), true)
      else return ((n, count), false)
    | none => return ((n, count), false)

/-- `n`, unless it is beyond 32 bits. -/
def saturate (n : Int) : Int := max (-0x80000000) (min 0x7FFFFFFF n)

def exponentPart (positive : Bool) (significand : Nat) (before : Int) : Read Float := do
  eat
  let negative := (← peek?) == some (byte '-')
  if negative || (← peek?) == some (byte '+') then eat
  match ← next? with
  | none => fail .eofInValue
  | some b =>
    unless isDigitByte b do fail .badNumber
    let (value, tooLarge) ← repeatWhile (digitOf b, false) fun (n, tooLarge) => do
      if !tooLarge && (← peekDigit) then
        let d := (← peek?).getD 0
        eat
        let n := 10 * n + digitOf d
        return ((n, 0x80000000 ≤ n), true)
      else return ((n, tooLarge), false)
    if tooLarge then
      if significand != 0 && !negative then fail .outOfRange
      let _ ← skipDigits
      return signed positive 0
    fromParts positive significand
      (saturate (if negative then before - value else before + value))

def decimalPart (positive : Bool) (significand : Nat) (before : Int) : Read Float := do
  eat
  let (significand, count) ← takeDigits significand
  let more ← skipDigits
  if count + more = 0 then
    match ← peek? with
    | some _ => failNext .badNumber
    | none => failNext .eofInValue
  let exponent := before - count
  if ← peekExponent then exponentPart positive significand exponent
  else fromParts positive significand exponent

/-- A number after its sign. -/
def number (positive : Bool) : Read Number := do
  match ← next? with
  | none => fail .eofInValue
  | some b =>
    if b = byte '0' && (← peekDigit) then failNext .badNumber
    unless isDigitByte b do fail .badNumber
    let (significand, _) ← if b = byte '0' then pure (0, 0) else takeDigits (digitOf b)
    let beyond ← skipDigits
    if (← peek?) == some (byte '.') then return .float (← decimalPart positive significand beyond)
    else if ← peekExponent then return .float (← exponentPart positive significand beyond)
    else if beyond != 0 then return .float (← fromParts positive significand beyond)
    else if positive then return .natural significand
    else if significand = 0 || 0x8000000000000000 < significand then
      return .float (-(UInt64.ofNat significand).toFloat)
    else return .negative (-(significand : Int))

/-! ## Skipping -/

def skipExponent : Read Unit := do
  eat
  if (← peek?) == some (byte '+') || (← peek?) == some (byte '-') then eat
  match ← next? with
  | some b => unless isDigitByte b do fail .badNumber
  | none => fail .badNumber
  let _ ← skipDigits

def skipNumber : Read Unit := do
  match ← next? with
  | none => fail .badNumber
  | some b =>
    if b = byte '0' && (← peekDigit) then failNext .badNumber
    unless isDigitByte b do fail .badNumber
    let _ ← skipDigits
    if (← peek?) == some (byte '.') then
      eat
      if (← skipDigits) = 0 then failNext .badNumber
    if ← peekExponent then skipExponent

/-- Where the reader of a text that is not kept stands: how many digits of an escape are left. -/
inductive SkipMode where
  | plain
  | escape
  | hex (left : Nat) (valid : Bool)

/-- What is left after a text that is not kept; or a flaw and what is left where it is. -/
def skipTextBytes : SkipMode → List UInt8 → Option Flaw × List UInt8
  | _, [] => (some .eofInString, [])
  | .plain, b :: bs =>
    if b = byte '"' then (none, bs)
    else if b = byte '\\' then skipTextBytes .escape bs
    else if b < 32 then (some .control, b :: bs)
    else skipTextBytes .plain bs
  | .escape, b :: bs =>
    if b = byte 'u' then skipTextBytes (.hex 4 true) bs
    else if (shortEscape b).isSome then skipTextBytes .plain bs
    else (some .badEscape, bs)
  | .hex left valid, b :: bs =>
    let valid := valid && (byteHexValue b).isSome
    if left ≤ 1 then
      if valid then skipTextBytes .plain bs else (some .badEscape, bs)
    else skipTextBytes (.hex (left - 1) valid) bs

def skipText : Read Unit := do
  let (flaw, rest) := skipTextBytes .plain (← get)
  set rest
  match flaw with
  | some f => fail f
  | none => return ()

/-- What a value that is skipped stands in. -/
inductive Frame where
  | list
  | object
  deriving Repr, DecidableEq

/-- The start of a value: a frame, or a value without parts. -/
def skipStart : Read (Option Frame) := do
  match ← skipBlanks with
  | none => failNext .eofInValue
  | some b =>
    if b = byte 'n' then
      eat
      word ['u', 'l', 'l']
      return none
    else if b = byte 't' then
      eat
      word ['r', 'u', 'e']
      return none
    else if b = byte 'f' then
      eat
      word ['a', 'l', 's', 'e']
      return none
    else if b = byte '-' then
      eat
      skipNumber
      return none
    else if isDigitByte b then
      skipNumber
      return none
    else if b = byte '"' then
      eat
      skipText
      return none
    else if b = byte '[' then
      eat
      return some .list
    else if b = byte '{' then
      eat
      return some .object
    else failNext .noValue

/-- Goes on after a value or after an opening: closes frames up to the one that goes on. -/
def skipClose (frames : List Frame) (afterValue : Bool) : Read (List Frame) := do
  let (frames, _) ← repeatWhile (frames, afterValue) fun (frames, afterValue) => do
    match frames with
    | [] => return (([], afterValue), false)
    | frame :: outer =>
      match ← skipBlanks with
      | none => failNext (if frame = .list then .eofInList else .eofInObject)
      | some b =>
        if b = byte ',' && afterValue then
          eat
          return ((frame :: outer, afterValue), false)
        else if (b = byte ']' && frame = .list) || (b = byte '}' && frame = .object) then
          eat
          return ((outer, true), true)
        else if afterValue then failNext (if frame = .list then .noListEnd else .noObjectEnd)
        else return ((frame :: outer, afterValue), false)
  return frames

/-- The key of an entry and its colon. -/
def skipKey : Read Unit := do
  match ← skipBlanks with
  | none => failNext .eofInObject
  | some b =>
    unless b = byte '"' do failNext .keyNotText
    eat
    skipText
    match ← skipBlanks with
    | none => failNext .eofInObject
    | some b =>
      unless b = byte ':' do failNext .noColon
      eat

/-- Skips a value, however deep it nests. -/
def skipValue : Read Unit := do
  let _ ← repeatWhile ([] : List Frame) fun frames => do
    let opened ← skipStart
    let frames ← match opened with
      | some frame => skipClose (frame :: frames) false
      | none => skipClose frames true
    match frames with
    | [] => return ([], false)
    | frame :: _ =>
      if frame = .object then skipKey
      return (frames, true)

end Read

end FetchKit.Wire
