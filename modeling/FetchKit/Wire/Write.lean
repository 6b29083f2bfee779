import FetchKit.Wire.Payload

/-!
# Writing documents

The compact form: nothing between the parts, and the fields of a record in their order. A text is
escaped byte by byte; only quotes, backslashes and control characters are.
-/

namespace FetchKit.Wire

open FetchKit.Text

/-! ## Texts and numbers -/

/-- A byte of a text. -/
def escapeByte (b : UInt8) : List UInt8 :=
  if b = byte '"' then [byte '\\', byte '"']
  else if b = byte '\\' then [byte '\\', byte '\\']
  else if b = 8 then [byte '\\', byte 'b']
  else if b = 12 then [byte '\\', byte 'f']
  else if b = 10 then [byte '\\', byte 'n']
  else if b = 13 then [byte '\\', byte 'r']
  else if b = 9 then [byte '\\', byte 't']
  else if b < 32 then
    [byte '\\', byte 'u', byte '0', byte '0', byte (b.toNat / 16).digitChar,
      byte (b.toNat % 16).digitChar]
  else [b]

def writeText (s : String) : List UInt8 :=
  byte '"' :: (Utf8.encode s.toList).flatMap escapeByte ++ [byte '"']

def writeNatural (n : Nat) : List UInt8 := (Nat.toDigits 10 n).map byte

/-! ## Compounds -/

/-- Parts with commas between them. -/
def separated (parts : List (List UInt8)) : List UInt8 := [byte ','].intercalate parts

def writeOptional {α : Type} (write : α → List UInt8) : Option α → List UInt8
  | some a => write a
  | none => "null".toList.map byte

def writeList {α : Type} (write : α → List UInt8) (as : List α) : List UInt8 :=
  byte '[' :: separated (as.map write) ++ [byte ']']

/-- A field: its name, and its value as it is written. -/
def writeField (f : String × List UInt8) : List UInt8 := writeText f.1 ++ byte ':' :: f.2

def writeRecord (fields : List (String × List UInt8)) : List UInt8 :=
  byte '{' :: separated (fields.map writeField) ++ [byte '}']

/-! ## The types of documents -/

def NetworkResponse.write (v : NetworkResponse) : List UInt8 := writeRecord [("id", writeText v.id)]

def Args.write (v : Args) : List UInt8 := writeRecord [("q", writeText v.q)]

def User.write (v : User) : List UInt8 :=
  writeRecord [("id", writeNatural v.id.toNat), ("name", writeText v.name),
    ("args", writeOptional Args.write v.args)]

def Page.write {α : Type} (write : α → List UInt8) (v : Page α) : List UInt8 :=
  writeRecord [("items", writeList write v.items)]

end FetchKit.Wire
