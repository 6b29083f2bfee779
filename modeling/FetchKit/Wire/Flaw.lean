import FetchKit.Text.Quoted
import FetchKit.Text.Shortest

/-! # What can be wrong with a document -/

namespace FetchKit.Wire

open FetchKit.Text

/-- What stands where something else is needed. -/
inductive Found where
  | null
  | bool (b : Bool)
  | integer (n : Int)
  | float (x : Float)
  | text (s : String)
  | sequence
  | map
  deriving Repr, Inhabited

/-- A text as it is shown in a message. -/
def shown (s : String) : String :=
  let char (c : Char) : List Char := if c.toNat = 0 then ['\\', '0'] else escapeChar c
  String.ofList ('"' :: s.toList.flatMap char ++ ['"'])

def Found.message : Found → String
  | null => "null"
  | bool b => "boolean `" ++ (if b then "true" else "false") ++ "`"
  | integer n => "integer `" ++ toString n ++ "`"
  | float x => "floating point `" ++ floatText x ++ "`"
  | text s => "string " ++ shown s
  | sequence => "sequence"
  | map => "map"

inductive Flaw where
  | eofInValue
  | eofInObject
  | eofInList
  | eofInString
  | noValue
  | noWord
  | noColon
  | noListEnd
  | noObjectEnd
  | keyNotText
  | badNumber
  | outOfRange
  | badEscape
  | loneSurrogate
  | cutEscape
  | badUnicode
  | control
  | trailingComma
  | trailing
  | wrongType (found : Found) (expected : String)
  | wrongValue (n : Int) (expected : String)
  | wrongLength (n : Nat) (expected : String)
  | missing (field : String)
  | duplicate (field : String)
  deriving Repr, Inhabited

def Flaw.message : Flaw → String
  | eofInValue => "EOF while parsing a value"
  | eofInObject => "EOF while parsing an object"
  | eofInList => "EOF while parsing a list"
  | eofInString => "EOF while parsing a string"
  | noValue => "expected value"
  | noWord => "expected ident"
  | noColon => "expected `:`"
  | noListEnd => "expected `,` or `]`"
  | noObjectEnd => "expected `,` or `\x7d`"
  | keyNotText => "key must be a string"
  | badNumber => "invalid number"
  | outOfRange => "number out of range"
  | badEscape => "invalid escape"
  | loneSurrogate => "lone leading surrogate in hex escape"
  | cutEscape => "unexpected end of hex escape"
  | badUnicode => "invalid unicode code point"
  | control => "control character (\\u0000-\\u001F) found while parsing a string"
  | trailingComma => "trailing comma"
  | trailing => "trailing characters"
  | wrongType found expected => "invalid type: " ++ found.message ++ ", expected " ++ expected
  | wrongValue n expected => "invalid value: " ++ (Found.integer n).message ++ ", expected " ++ expected
  | wrongLength n expected => "invalid length " ++ toString n ++ ", expected " ++ expected
  | missing field => "missing field `" ++ field ++ "`"
  | duplicate field => "duplicate field `" ++ field ++ "`"

/-- A flaw, and how many bytes were left where it is; `none` while its place is open. -/
structure Problem where
  flaw : Flaw
  left : Option Nat := none
  deriving Repr, Inhabited

/-! ## Places -/

/-- Line and column after these bytes. Lines count from 1 and columns from 0. -/
def place (bs : List UInt8) : Nat × Nat :=
  bs.foldl (fun (line, column) b => if (b : UInt8) = 10 then (line + 1, 0) else (line, column + 1)) (1, 0)

/-- A flaw of a document, and where in it. -/
structure Misread where
  flaw : Flaw
  line : Nat
  column : Nat
  deriving Repr, Inhabited

def Problem.located (p : Problem) (body : List UInt8) : Misread :=
  let (line, column) := place (body.take (body.length - p.left.getD 0))
  { flaw := p.flaw, line, column }

def Misread.message (m : Misread) : String :=
  m.flaw.message ++ " at line " ++ toString m.line ++ " column " ++ toString m.column

end FetchKit.Wire
