import FetchKit.Source.Token
import FetchKit.Source.Literal
import FetchKit.Text.Blank

/-!
# From source text to token trees

Text is cut into lexemes one after the other, and the lexemes are nested by their delimiters.
Comments vanish, except those that document something: they stand for an attribute that holds
their text.
-/

namespace FetchKit.Source

open FetchKit.Text

/-! ## Comments and blanks -/

/-- A block comment inside `depth` open ones, up to the end of the outermost. -/
def scanBlock : Nat → List Char → Option Split
  | _, [] => none
  | _, [_] => none
  | depth, '/' :: '*' :: cs => (scanBlock (depth + 1) cs).map (Split.after ['/', '*'])
  | depth, '*' :: '/' :: cs =>
    if depth ≤ 1 then some (['*', '/'], cs)
    else (scanBlock (depth - 1) cs).map (Split.after ['*', '/'])
  | depth, c :: d :: cs => (scanBlock depth (d :: cs)).map (Split.after [c])

/-- The rest of a line, with the `\r` of a `\r\n` but without the `\n`; and its text, without
either. -/
def scanLine : List Char → List Char × Split
  | [] => ([], [], [])
  | c :: cs =>
    if c = '\n' then ([], [], c :: cs)
    else if c = '\r' && cs.head? == some '\n' then ([], [c], cs)
    else
      let (text, s) := scanLine cs
      (c :: text, s.after [c])

/-- Text that shows no `\r` without its `\n`. -/
def noBareCarriage : List Char → Bool
  | [] => true
  | c :: cs => (c != '\r' || cs.head? == some '\n') && noBareCarriage cs

/-- A comment that documents: whether it documents what holds it, its text, and the split. -/
def scanDoc (cs : List Char) : Option (Bool × List Char × Split) :=
  match cs with
  | '/' :: '/' :: '!' :: rest =>
    let (text, s) := scanLine rest
    some (true, text, s.after ['/', '/', '!'])
  | '/' :: '*' :: '!' :: _ =>
    (scanBlock 0 cs).map fun s => (true, (s.1.drop 3).take (s.1.length - 5), s)
  | '/' :: '/' :: '/' :: rest =>
    if rest.head? == some '/' then none
    else
      let (text, s) := scanLine rest
      some (false, text, s.after ['/', '/', '/'])
  | '/' :: '*' :: '*' :: rest =>
    if rest.head? == some '*' then none
    else (scanBlock 0 cs).map fun s => (false, (s.1.drop 3).take (s.1.length - 5), s)
  | _ => none

/-- One blank or one comment that vanishes. -/
def scanBlank (cs : List Char) : Option Split :=
  match cs with
  | '/' :: '/' :: rest =>
    if (startsWith ['/'] rest && !startsWith ['/', '/'] rest) || startsWith ['!'] rest then none
    else some ((scanLine rest).2.after ['/', '/'])
  | '/' :: '*' :: rest =>
    if startsWith ['*', '/'] rest then some (['/', '*', '*', '/'], rest.drop 2)
    else if (startsWith ['*'] rest && !startsWith ['*', '*'] rest) || startsWith ['!'] rest then none
    else scanBlock 0 cs
  | c :: rest =>
    if isBlank c || c.toNat = 0x200E || c.toNat = 0x200F then some ([c], rest) else none
  | [] => none

/-! ## Punctuation and words -/

def punctuation : List Char := "~!@#$%^&*-=+|;:,<.>/?'".toList

/-- The character that stands as punctuation at the front, and what follows it. -/
def punctChar? (cs : List Char) : Option (Char × List Char) :=
  match cs with
  | c :: rest =>
    if startsWith ['/', '/'] cs || startsWith ['/', '*'] cs then none
    else if punctuation.contains c then some (c, rest)
    else none
  | [] => none

/-- A word, raw or not: its name, whether it is raw, and the split. -/
def scanAnyWord (cs : List Char) : Option (String × Bool × Split) :=
  match cs with
  | 'r' :: '#' :: rest =>
    match scanWord rest with
    | some s =>
      let name := String.ofList s.1
      if neverRaw.contains name then none else some (name, true, s.after ['r', '#'])
    | none => none
  | _ => (scanWord cs).map fun s => (String.ofList s.1, false, s)

/-- Openings of literals that no word can start with. -/
def literalLeads : List (List Char) :=
  ["r\"", "r#\"", "r##", "b\"", "b'", "br\"", "br#", "c\"", "cr\"", "cr#"].map String.toList

def scanIdent (cs : List Char) : Option (String × Bool × Split) :=
  if literalLeads.any (startsWith · cs) then none else scanAnyWord cs

/-- Whether it is joint, and what follows. A quote is punctuation only before the word of a label
or lifetime. -/
def scanPunct (cs : List Char) : Option (Char × Bool × List Char) :=
  match punctChar? cs with
  | some (c, rest) =>
    if c = '\'' then
      match scanAnyWord rest with
      | some (_, _, _, after) =>
        if startsWith ['\''] after || (startsWith ['#'] after && !startsWith ['r', '#'] rest) then none
        else some (c, true, rest)
      | none => none
    else some (c, (punctChar? rest).isSome, rest)
  | none => none

/-! ## Lexemes -/

inductive Lexeme where
  | leaf (t : Tree)
  | opens (d : Delimiter) (span : Span)
  | closes (d : Delimiter) (span : Span)
  deriving Repr

/-- The attribute that a documenting comment stands for. All its trees have the comment's span. -/
def docTrees (inner : Bool) (text : List Char) (span : Span) : List Tree :=
  let bang := if inner then [Tree.punct '!' false span] else []
  let content :=
    [.ident ⟨"doc", false, span⟩, .punct '=' false span, .literal (quote (String.ofList text)) span]
  .punct '#' false span :: bang ++ [.group .bracket content span]

def openDelimiter? : Char → Option Delimiter
  | '(' => some .paren
  | '[' => some .bracket
  | '{' => some .brace
  | _ => none

def closeDelimiter? : Char → Option Delimiter
  | ')' => some .paren
  | ']' => some .bracket
  | '}' => some .brace
  | _ => none

/-- What the compiler writes where a literal had an error. -/
def errorLiteral : List Char := "(/*ERROR*/)".toList

/-- A literal, a punctuation character or a word, with its span. -/
def scanLeaf (p : Position) (cs : List Char) : Option (Tree × Split) :=
  match scanLiteral cs with
  | some s => some (.literal (String.ofList s.1) ⟨p, p.advance s.1⟩, s)
  | none =>
    match scanPunct cs with
    | some (c, joint, rest) => some (.punct c joint ⟨p, p.advance [c]⟩, ([c], rest))
    | none =>
      match scanIdent cs with
      | some (name, raw, s) => some (.ident ⟨name, raw, ⟨p, p.advance s.1⟩⟩, s)
      | none =>
        match stripLead errorLiteral cs with
        | some rest =>
          some (.literal (String.ofList errorLiteral) ⟨p, p.advance errorLiteral⟩, (errorLiteral, rest))
        | none => none

/-- What stands at the front of a text that is not empty. -/
def scanLexeme (p : Position) (cs : List Char) : Option (List Lexeme × Split) :=
  match scanBlank cs with
  | some s => some ([], s)
  | none =>
    match scanDoc cs with
    | some (inner, text, s) =>
      if noBareCarriage text then
        some ((docTrees inner text ⟨p, p.advance s.1⟩).map .leaf, s)
      else none
    | none =>
      match cs with
      | [] => none
      | c :: rest =>
        let span : Span := ⟨p, p.advance [c]⟩
        match openDelimiter? c, closeDelimiter? c with
        | some d, _ =>
          if startsWith errorLiteral cs then (scanLeaf p cs).map fun (t, s) => ([.leaf t], s)
          else some ([.opens d span], [c], rest)
        | none, some d => some ([.closes d span], [c], rest)
        | none, none => (scanLeaf p cs).map fun (t, s) => ([.leaf t], s)

/-- All lexemes of a text, if `n` steps are enough. -/
def scanAll : Nat → Position → List Char → Option (List Lexeme)
  | _, _, [] => some []
  | 0, _, _ :: _ => none
  | n + 1, p, cs =>
    match scanLexeme p cs with
    | some (found, taken, rest) => (scanAll n (p.advance taken) rest).map (found ++ ·)
    | none => none

/-! ## Nesting -/

/-- A group that is still open: its delimiter, where it opened, and the trees before it, the last
first. -/
structure Frame where
  delimiter : Delimiter
  start : Position
  before : List Tree
  deriving Repr

/-- Builds the trees, the last first, under the frames that are open. -/
def nest : List Frame → List Tree → List Lexeme → Option (List Tree)
  | [], trees, [] => some trees.reverse
  | _ :: _, _, [] => none
  | frames, trees, .leaf t :: ls => nest frames (t :: trees) ls
  | frames, trees, .opens d span :: ls => nest (⟨d, span.start, trees⟩ :: frames) [] ls
  | [], _, .closes _ _ :: _ => none
  | frame :: frames, trees, .closes d span :: ls =>
    if d = frame.delimiter then
      nest frames (.group d trees.reverse ⟨frame.start, span.stop⟩ :: frame.before) ls
    else none

/-- A mark at the front that only names the encoding, and the rest. It takes a column. -/
def splitMark (cs : List Char) : Split :=
  match cs with
  | c :: rest => if c.toNat = 0xFEFF then ([c], rest) else ([], cs)
  | [] => ([], [])

/-- The token trees of a source text, and nothing where it is no token stream. -/
def scan (source : String) : Option (List Tree) :=
  let (mark, cs) := splitMark source.toList
  (scanAll cs.length (Position.start.advance mark) cs).bind (nest [] [])

end FetchKit.Source
