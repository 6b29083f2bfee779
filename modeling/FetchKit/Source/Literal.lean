import FetchKit.Text.Word
import FetchKit.Text.Quoted

/-!
# Literals in source text

Each scanner splits a literal off the front of a text: what it took, and what is left. Escapes are
checked here and read later; a suffix belongs to the literal.
-/

namespace FetchKit.Source

open FetchKit.Text

/-- What a scanner took, and what is left. -/
abbrev Split := List Char × List Char

/-- Counts these characters as taken, before those of `s`. -/
def Split.after (taken : List Char) (s : Split) : Split := (taken ++ s.1, s.2)

/-- The text after `lead`, if it starts so. -/
def stripLead : List Char → List Char → Option (List Char)
  | [], cs => some cs
  | _ :: _, [] => none
  | l :: ls, c :: cs => if l = c then stripLead ls cs else none

def startsWith (lead cs : List Char) : Bool := (stripLead lead cs).isSome

/-! ## Words -/

/-- A word, not raw. -/
def scanWord : List Char → Option Split
  | [] => none
  | c :: cs =>
    if isWordStart c then some (c :: cs.takeWhile isWordPart, cs.dropWhile isWordPart) else none

/-- With the suffix that may follow a literal. -/
def withSuffix (s : Split) : Split :=
  match scanWord s.2 with
  | some t => t.after s.1
  | none => s

/-! ## Quoted text -/

/-- Text in quotes, bytes (`b"…"`), or text that ends at the first NUL (`c"…"`). -/
inductive Flavour where
  | text
  | bytes
  | terminated
  deriving Repr, DecidableEq

/-- Where the scanner of a quoted text stands between two characters. -/
inductive Quoting where
  | plain
  | escape
  | hexHigh
  | hexLow (zero : Bool)
  | brace
  | digits (value count : Nat)
  | carriage
  | newline
  | newlineCarriage
  deriving Repr, DecidableEq

namespace Quoting

def ofPlain (f : Flavour) (c : Char) : Option Quoting :=
  if c = '\r' then some .carriage
  else if c = '\\' then some .escape
  else
    match f with
    | .text => some .plain
    | .bytes => if c.toNat < 0x80 then some .plain else none
    | .terminated => if c.toNat = 0 then none else some .plain

def ofEscape (f : Flavour) (c : Char) : Option Quoting :=
  if c = 'x' then some .hexHigh
  else if c = 'n' || c = 'r' || c = 't' || c = '\\' || c = '\'' || c = '"' then some .plain
  else if c = '0' then if f = .terminated then none else some .plain
  else if c = 'u' then if f = .bytes then none else some .brace
  else if c = '\n' then some .newline
  else if c = '\r' then some .newlineCarriage
  else none

/-- The next place after `c`, and nothing where `c` cannot stand. A quote that closes the text is
not asked about. -/
def step (f : Flavour) (q : Quoting) (c : Char) : Option Quoting :=
  match q with
  | plain => ofPlain f c
  | escape => ofEscape f c
  | hexHigh =>
    match hexValue c with
    | some d => if f = .text && 8 ≤ d then none else some (.hexLow (d = 0))
    | none => none
  | hexLow zero =>
    match hexValue c with
    | some d => if f = .terminated && zero && d = 0 then none else some .plain
    | none => none
  | brace => if c = '{' then some (.digits 0 0) else none
  | digits value count =>
    if c = '_' then if count = 0 then none else some (.digits value count)
    else if c = '}' then
      if count = 0 || (scalar? value).isNone || (f = .terminated && value = 0) then none
      else some .plain
    else
      match hexValue c with
      | some d => if count = 6 then none else some (.digits (16 * value + d) (count + 1))
      | none => none
  | carriage => if c = '\n' then some .plain else none
  | newline =>
    if c = ' ' || c = '\t' || c = '\n' then some .newline
    else if c = '\r' then some .newlineCarriage
    else ofPlain f c
  | newlineCarriage => if c = '\n' then some .newline else none

/-- Whether a quote closes the text here. -/
def closes : Quoting → Bool
  | plain => true
  | newline => true
  | _ => false

end Quoting

/-- The rest of a quoted text, with its closing quote. -/
def scanQuoted (f : Flavour) : Quoting → List Char → Option Split
  | _, [] => none
  | q, c :: cs =>
    if c = '"' && q.closes then some (['"'], cs)
    else
      match q.step f c with
      | some q' => (scanQuoted f q' cs).map (Split.after [c])
      | none => none

/-- The rest of an escape after its backslash. -/
def scanEscape (f : Flavour) : Quoting → List Char → Option Split
  | _, [] => none
  | q, c :: cs =>
    match q.step f c with
    | some .plain => some ([c], cs)
    | some .newline => none
    | some .newlineCarriage => none
    | some q' => (scanEscape f q' cs).map (Split.after [c])
    | none => none

/-! ## Raw text -/

/-- Whether a character may stand in a raw text. -/
def rawAllows (f : Flavour) (c : Char) : Bool :=
  match f with
  | .text => true
  | .bytes => c.toNat < 0x80
  | .terminated => c.toNat != 0

/-- The rest of a raw text after its opening quote, with the closing quote and its marks. -/
def scanRawBody (f : Flavour) (marks : List Char) : List Char → Option Split
  | [] => none
  | c :: cs =>
    if c = '"' && startsWith marks cs then some ('"' :: marks, cs.drop marks.length)
    else if c = '\r' then
      match cs with
      | '\n' :: _ => (scanRawBody f marks cs).map (Split.after [c])
      | _ => none
    else if rawAllows f c then (scanRawBody f marks cs).map (Split.after [c])
    else none

/-- A raw text after its `r`; at most 255 marks. -/
def scanRaw (f : Flavour) (cs : List Char) : Option Split :=
  let marks := cs.takeWhile (· == '#')
  match cs.dropWhile (· == '#') with
  | '"' :: rest =>
    if marks.length ≤ 255 then (scanRawBody f marks rest).map (Split.after (marks ++ ['"'])) else none
  | _ => none

/-! ## Single characters -/

/-- A character in single quotes after the opening one. -/
def scanSingle (f : Flavour) (cs : List Char) : Option Split :=
  let body :=
    match cs with
    | '\\' :: rest => (scanEscape f .escape rest).map (Split.after ['\\'])
    | c :: rest => if f = .bytes && 0x80 ≤ c.toNat then none else some ([c], rest)
    | [] => none
  match body with
  | some (taken, '\'' :: rest) => some (taken ++ ['\''], rest)
  | _ => none

/-! ## Numbers -/

def isDigit (c : Char) : Bool := '0' ≤ c && c ≤ '9'

def isDigitOrMark (c : Char) : Bool := isDigit c || c == '_'

/-- A word after a number belongs to it; any other character of a word may not follow. -/
def closeNumber (s : Split) : Option Split :=
  match s.2 with
  | [] => some s
  | c :: _ => if isWordStart c then some (withSuffix s) else if isWordPart c then none else some s

/-- What follows `e` in a number: marks, a sign, digits and marks; at least one digit. -/
def scanExponent (cs : List Char) : Option Split :=
  let marks := cs.takeWhile (· == '_')
  let afterMarks := cs.dropWhile (· == '_')
  let (sign, afterSign) :=
    match afterMarks with
    | '+' :: rest => (['+'], rest)
    | '-' :: rest => (['-'], rest)
    | rest => ([], rest)
  let value := afterSign.takeWhile isDigitOrMark
  if value.any isDigit then some (marks ++ sign ++ value, afterSign.dropWhile isDigitOrMark) else none

/-- A number with a point, an exponent or both, without suffix. -/
def scanFloatDigits (cs : List Char) : Option Split :=
  let whole := cs.takeWhile isDigitOrMark
  match cs.dropWhile isDigitOrMark with
  | '.' :: rest =>
    let stops :=
      match rest with
      | c :: _ => c == '.' || isWordStart c
      | [] => false
    if stops then none
    else
      let fraction := rest.takeWhile isDigitOrMark
      let before := whole ++ '.' :: fraction
      match rest.dropWhile isDigitOrMark with
      | e :: more =>
        if e = 'e' || e = 'E' then
          match scanExponent more with
          | some s => some (s.after (before ++ [e]))
          | none => some (before, e :: more)
        else some (before, e :: more)
      | [] => some (before, [])
  | e :: more =>
    if e = 'e' || e = 'E' then (scanExponent more).map (Split.after (whole ++ [e])) else none
  | [] => none

def scanFloat (cs : List Char) : Option Split :=
  match cs with
  | c :: _ => if isDigit c then (scanFloatDigits cs).bind closeNumber else none
  | [] => none

/-- Digits of a base and marks. A decimal digit too large for the base is an error; letters that
are no digits end the number. -/
def scanDigits (base : Nat) : List Char → Option Split
  | [] => some ([], [])
  | c :: cs =>
    if c = '_' then (scanDigits base cs).map (Split.after [c])
    else
      match hexValue c with
      | some d =>
        if d < base then (scanDigits base cs).map (Split.after [c])
        else if isDigit c then none
        else some ([], c :: cs)
      | none => some ([], c :: cs)

def scanBased (base : Nat) (lead : List Char) (cs : List Char) : Option Split :=
  match scanDigits base cs with
  | some s =>
    if s.1.all (· == '_') then none
    else if base = 10 && s.1.head? == some '_' then none
    else some (s.after lead)
  | none => none

def scanInt (cs : List Char) : Option Split :=
  let digits :=
    match cs with
    | '0' :: 'x' :: rest => scanBased 16 ['0', 'x'] rest
    | '0' :: 'o' :: rest => scanBased 8 ['0', 'o'] rest
    | '0' :: 'b' :: rest => scanBased 2 ['0', 'b'] rest
    | cs => scanBased 10 [] cs
  digits.bind closeNumber

/-! ## Any literal -/

/-- A quoted, raw or single-quoted literal after one of its openings. -/
def scanOpened (cs : List Char) : Option Split :=
  match cs with
  | '"' :: rest => (scanQuoted .text .plain rest).map (Split.after ['"'])
  | 'r' :: rest => (scanRaw .text rest).map (Split.after ['r'])
  | 'b' :: '"' :: rest => (scanQuoted .bytes .plain rest).map (Split.after ['b', '"'])
  | 'b' :: 'r' :: rest => (scanRaw .bytes rest).map (Split.after ['b', 'r'])
  | 'b' :: '\'' :: rest => (scanSingle .bytes rest).map (Split.after ['b', '\''])
  | 'c' :: '"' :: rest => (scanQuoted .terminated .plain rest).map (Split.after ['c', '"'])
  | 'c' :: 'r' :: rest => (scanRaw .terminated rest).map (Split.after ['c', 'r'])
  | '\'' :: rest => (scanSingle .text rest).map (Split.after ['\''])
  | _ => none

/-- A literal, with its suffix. -/
def scanLiteral (cs : List Char) : Option Split :=
  match scanOpened cs with
  | some s => some (withSuffix s)
  | none =>
    match scanFloat cs with
    | some s => some s
    | none => scanInt cs

/-! ## The value of a whole number -/

def valueOfDigits (base : Nat) (digits : List Char) : Nat :=
  digits.foldl (fun value c =>
    match hexValue c with
    | some d => base * value + d
    | none => value) 0

/-- The value and the suffix of the text of a whole number. -/
def integer? (text : String) : Option (Nat × String) :=
  let cs := text.toList
  let read (base : Nat) (rest : List Char) : Option (Nat × String) :=
    match scanDigits base rest with
    | some (digits, suffix) =>
      if digits.any (· != '_') then some (valueOfDigits base digits, String.ofList suffix) else none
    | none => none
  match cs with
  | '0' :: 'x' :: rest => read 16 rest
  | '0' :: 'o' :: rest => read 8 rest
  | '0' :: 'b' :: rest => read 2 rest
  | c :: _ => if isDigit c && (scanFloat cs).isNone then read 10 cs else none
  | [] => none

end FetchKit.Source
