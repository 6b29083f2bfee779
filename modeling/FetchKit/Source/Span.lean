/-!
# Places in source text

Lines count from 1 and columns from 0, in characters. Only `\n` ends a line.
-/

namespace FetchKit.Source

structure Position where
  line : Nat
  column : Nat
  deriving Repr, DecidableEq, Inhabited

namespace Position

def start : Position := ⟨1, 0⟩

/-- The place after one more character. -/
def next (p : Position) (c : Char) : Position :=
  if c = '\n' then ⟨p.line + 1, 0⟩ else ⟨p.line, p.column + 1⟩

def advance (p : Position) (text : List Char) : Position := text.foldl next p

@[simp] theorem advance_nil (p : Position) : p.advance [] = p := rfl

@[simp] theorem advance_cons (p : Position) (c : Char) (text : List Char) :
    p.advance (c :: text) = (p.next c).advance text := rfl

theorem advance_append (p : Position) (a b : List Char) :
    p.advance (a ++ b) = (p.advance a).advance b := by
  simp [advance, List.foldl_append]

end Position

/-- A stretch of source text, its end not included. -/
structure Span where
  start : Position
  stop : Position
  deriving Repr, DecidableEq, Inhabited

namespace Span

/-- The span of what was not written in any source text. -/
def callSite : Span := ⟨.start, .start⟩

/-- From the start of one span to the end of another. -/
def join (a b : Span) : Span := ⟨a.start, b.stop⟩

/-- The first character of a span that starts with an opening delimiter. -/
def first (s : Span) : Span := ⟨s.start, ⟨s.start.line, s.start.column + 1⟩⟩

end Span

end FetchKit.Source
