import FetchKit.Wire.Read

/-!
# Decoding values of a type

An object and a list both stand for a record: the object by the names of its fields, the list by
their order. Fields that a record does not have are skipped.
-/

namespace FetchKit.Wire

open Read

/-- Tells that a value of the wrong kind stands here. -/
def wrongKind {α : Type} (expected : String) : Read α := do
  let typed (f : Found) : Read α := failOpen (.wrongType f expected)
  match ← peek? with
  | none => failNext .noValue
  | some b =>
    if b = byte 'n' then
      eat
      word ['u', 'l', 'l']
      typed .null
    else if b = byte 't' then
      eat
      word ['r', 'u', 'e']
      typed (.bool true)
    else if b = byte 'f' then
      eat
      word ['a', 'l', 's', 'e']
      typed (.bool false)
    else if b = byte '-' then
      eat
      typed (← number false).found
    else if isDigitByte b then typed (← number true).found
    else if b = byte '"' then
      eat
      typed (.text (← textBody))
    else if b = byte '[' then typed .sequence
    else if b = byte '{' then typed .map
    else failNext .noValue

/-- The first byte of a value. -/
def start : Read UInt8 := do
  match ← skipBlanks with
  | some b => return b
  | none => failNext .eofInValue

def text : Read String := do
  let b ← start
  placed do
    if b = byte '"' then
      eat
      textBody
    else wrongKind "a string"

/-- A whole number within bounds. -/
def integer (low high : Int) (expected : String) : Read Int := do
  let b ← start
  placed do
    let n ←
      if b = byte '-' then
        eat
        number false
      else if isDigitByte b then number true
      else wrongKind expected
    match n with
    | .float x => failOpen (.wrongType (.float x) expected)
    | .natural n =>
      if (n : Int) ≤ high then return n else failOpen (.wrongValue n expected)
    | .negative n => if low ≤ n then return n else failOpen (.wrongValue n expected)

/-- A value, or null. -/
def optional {α : Type} (r : Read α) : Read (Option α) := do
  match ← skipBlanks with
  | some b =>
    if b = byte 'n' then
      eat
      word ['u', 'l', 'l']
      return none
    else return some (← r)
  | none => return some (← r)

/-! ## Lists -/

/-- Whether an element comes next; it is the first one or not. -/
def hasElement (first : Bool) : Read Bool := do
  let last : Read Bool := do
    match ← skipBlanks with
    | some b => if b = byte ']' then failNext .trailingComma else return true
    | none => failNext .eofInValue
  match ← skipBlanks with
  | none => failNext .eofInList
  | some b =>
    if b = byte ']' then return false
    else if first then return true
    else if b = byte ',' then
      eat
      last
    else failNext .noListEnd

def endList : Read Unit := do
  match ← skipBlanks with
  | none => failNext .eofInList
  | some b =>
    if b = byte ']' then eat
    else if b = byte ',' then
      eat
      match ← skipBlanks with
      | some b => if b = byte ']' then failNext .trailingComma else failNext .trailing
      | none => failNext .trailing
    else failNext .trailing

/-- One more element, the last found first; whether it is the first one. -/
def nextElement {α : Type} (item : Read α) : List α × Bool → Read ((List α × Bool) × Bool) :=
  fun (found, first) => do
    if ← hasElement first then return (((← item) :: found, false), true)
    else return ((found, first), false)

def elements {α : Type} (item : Read α) : Read (List α) := do
  let (found, _) ← repeatWhile ([], true) (nextElement item)
  return found.reverse

def list {α : Type} (item : Read α) : Read (List α) := do
  let b ← start
  placed do
    if b = byte '[' then
      eat
      closedBy (elements item) endList
    else wrongKind "a sequence"

/-! ## Records -/

def hasKey (first : Bool) : Read Bool := do
  let key (b : Option UInt8) : Read Bool := do
    match b with
    | none => failNext .eofInValue
    | some b =>
      if b = byte '"' then return true
      else if b = byte '}' then failNext .trailingComma
      else failNext .keyNotText
  match ← skipBlanks with
  | none => failNext .eofInObject
  | some b =>
    if b = byte '}' then return false
    else if first then key (some b)
    else if b = byte ',' then
      eat
      key (← skipBlanks)
    else failNext .noObjectEnd

def endObject : Read Unit := do
  match ← skipBlanks with
  | none => failNext .eofInObject
  | some b =>
    if b = byte '}' then eat
    else if b = byte ',' then failNext .trailingComma
    else failNext .trailing

def colon : Read Unit := do
  match ← skipBlanks with
  | none => failNext .eofInObject
  | some b => if b = byte ':' then eat else failNext .noColon

/-- How a record is read. `σ` holds the fields that were seen. -/
structure Record (σ α : Type) where
  name : String
  size : Nat
  empty : σ
  /-- The reader of a field, by its name. -/
  field : String → Option (σ → Read σ)
  finish : σ → Read α
  /-- The fields in order. -/
  inOrder : Read α

/-- A field that may come once. -/
def once {σ β : Type} (name : String) (seen : σ → Option β) (put : β → σ → σ) (r : Read β)
    (s : σ) : Read σ := do
  if (seen s).isSome then failOpen (.duplicate name)
  colon
  return put (← r) s

/-- A field that must have come. -/
def must {β : Type} (name : String) : Option β → Read β
  | some b => pure b
  | none => failOpen (.missing name)

def Record.expected {σ α : Type} (r : Record σ α) : String := "struct " ++ r.name

/-- An element of a record that is written in order; `place` elements come before it. -/
def element {β : Type} (name : String) (size place : Nat) (r : Read β) : Read β := do
  if ← hasElement (place == 0) then r
  else
    failOpen (.wrongLength place
      ("struct " ++ name ++ " with " ++ toString size ++ (if size = 1 then " element" else " elements")))

/-- One more entry of an object; whether it is the first one. -/
def nextEntry {σ α : Type} (r : Record σ α) : σ × Bool → Read ((σ × Bool) × Bool) :=
  fun (seen, first) => do
    if ← hasKey first then
      eat
      let key ← textBody
      match r.field key with
      | some read => return ((← read seen, false), true)
      | none =>
        colon
        skipValue
        return ((seen, false), true)
    else return ((seen, first), false)

def entries {σ α : Type} (r : Record σ α) : Read α := do
  let (seen, _) ← repeatWhile (r.empty, true) (nextEntry r)
  r.finish seen

def record {σ α : Type} (r : Record σ α) : Read α := do
  let b ← start
  placed do
    if b = byte '[' then
      eat
      closedBy r.inOrder endList
    else if b = byte '{' then
      eat
      closedBy (entries r) endObject
    else wrongKind r.expected

/-! ## Documents -/

/-- One value and nothing after it. -/
def document {α : Type} (r : Read α) : Read α := do
  let a ← r
  match ← skipBlanks with
  | some _ => failNext .trailing
  | none => return a

def decode {α : Type} (r : Read α) (body : List UInt8) : Except Misread α :=
  (document r body).1.mapError (·.located body)

end FetchKit.Wire
