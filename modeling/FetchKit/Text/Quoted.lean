import FetchKit.Text.Printable

/-!
# Texts as string literals

`quote` writes a text as a string literal, `unquote` reads the value of a literal: plain (`"…"`,
with escapes) or raw (`r#"…"#`), whatever suffix follows the closing quote.
-/

namespace FetchKit.Text

/-! ## Writing -/

/-- Hexadecimal digits, the fewest that do. -/
def hexDigits (n : Nat) : List Char := Nat.toDigits 16 n

/-- One character inside a string literal. A single quote needs no escape there. -/
def escapeChar (c : Char) : List Char :=
  if c = '\t' then ['\\', 't']
  else if c = '\r' then ['\\', 'r']
  else if c = '\n' then ['\\', 'n']
  else if c = '\\' then ['\\', '\\']
  else if c = '"' then ['\\', '"']
  else if isPlain c then [c]
  else ['\\', 'u', '{'] ++ hexDigits c.toNat ++ ['}']

/-- A NUL is written short, unless a digit follows that would read as a longer octal escape. -/
def escape : List Char → List Char
  | [] => []
  | c :: cs =>
    (if c.toNat = 0 then
      match cs with
      | d :: _ => if '0' ≤ d ∧ d ≤ '7' then ['\\', 'x', '0', '0'] else ['\\', '0']
      | [] => ['\\', '0']
    else escapeChar c) ++ escape cs

def quote (s : String) : String := String.ofList ('"' :: escape s.toList ++ ['"'])

/-! ## Reading -/

def hexValue (c : Char) : Option Nat :=
  if '0' ≤ c ∧ c ≤ '9' then some (c.toNat - '0'.toNat)
  else if 'a' ≤ c ∧ c ≤ 'f' then some (c.toNat - 'a'.toNat + 10)
  else if 'A' ≤ c ∧ c ≤ 'F' then some (c.toNat - 'A'.toNat + 10)
  else none

/-- A scalar value of the Unicode standard, if `n` is one. -/
def scalar? (n : Nat) : Option Char :=
  if h : n.isValidChar then some (Char.ofNatAux n h) else none

/-- Where the reader of a plain literal stands between two characters. -/
inductive Reading where
  | plain
  | escape
  | hexHigh
  | hexLow (high : Nat)
  | brace
  | digits (value : Nat)
  | carriage
  | newline
  deriving Repr, DecidableEq

/-- The value of a plain literal after its opening quote. A line that ends in a backslash goes on
after the spaces, tabs and line ends that follow, and `\r\n` reads as `\n`. -/
def unescape : Reading → List Char → Option (List Char)
  | _, [] => none
  | .plain, c :: cs =>
    if c = '"' then some []
    else if c = '\\' then unescape .escape cs
    else if c = '\r' then unescape .carriage cs
    else (unescape .plain cs).map (c :: ·)
  | .escape, c :: cs =>
    if c = 'x' then unescape .hexHigh cs
    else if c = 'u' then unescape .brace cs
    else if c = 'n' then (unescape .plain cs).map ('\n' :: ·)
    else if c = 'r' then (unescape .plain cs).map ('\r' :: ·)
    else if c = 't' then (unescape .plain cs).map ('\t' :: ·)
    else if c = '0' then (unescape .plain cs).map (Char.ofNat 0 :: ·)
    else if c = '\\' || c = '\'' || c = '"' then (unescape .plain cs).map (c :: ·)
    else if c = '\n' || c = '\r' then unescape .newline cs
    else none
  | .hexHigh, c :: cs =>
    match hexValue c with
    | some d => unescape (.hexLow d) cs
    | none => none
  | .hexLow high, c :: cs =>
    match hexValue c with
    | some d => (unescape .plain cs).map (Char.ofNat (16 * high + d) :: ·)
    | none => none
  | .brace, c :: cs => if c = '{' then unescape (.digits 0) cs else none
  | .digits value, c :: cs =>
    if c = '}' then
      match scalar? value with
      | some u => (unescape .plain cs).map (u :: ·)
      | none => none
    else if c = '_' then unescape (.digits value) cs
    else
      match hexValue c with
      | some d => unescape (.digits (16 * value + d)) cs
      | none => none
  | .carriage, c :: cs => if c = '\n' then (unescape .plain cs).map ('\n' :: ·) else none
  | .newline, c :: cs =>
    if c = ' ' || c = '\t' || c = '\n' || c = '\r' then unescape .newline cs
    else if c = '"' then some []
    else if c = '\\' then unescape .escape cs
    else (unescape .plain cs).map (c :: ·)

/-- What stands before the last double quote. -/
def beforeLastQuote (cs : List Char) : Option (List Char) :=
  match cs.reverse.dropWhile (· != '"') with
  | _ :: body => some body.reverse
  | [] => none

/-- The value of a raw literal after its `r`. -/
def unquoteRaw (cs : List Char) : Option (List Char) :=
  match cs.dropWhile (· == '#') with
  | '"' :: rest => beforeLastQuote rest
  | _ => none

/-- The value of a string literal, and nothing for a literal of another kind. -/
def unquote (s : String) : Option String :=
  match s.toList with
  | '"' :: cs => (unescape .plain cs).map String.ofList
  | 'r' :: cs => (unquoteRaw cs).map String.ofList
  | _ => none

end FetchKit.Text
