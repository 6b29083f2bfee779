import FetchKit.Text.Utf8

/-!
# Headers

Names are compared without regard to the case of letters: a name is kept with small letters.
-/

namespace FetchKit.Http

open FetchKit.Text

/-! ## Names and values -/

def isNameChar (c : Char) : Bool :=
  c.isAlphanum ||
    ['!', '#', '$', '%', '&', '\'', '*', '+', '-', '.', '^', '_', '`', '|', '~'].contains c

def nameLimit : Nat := 65535

/-- The name of a header with small letters. -/
def headerName? (s : String) : Option String :=
  let cs := s.toList
  if !cs.isEmpty && cs.length ≤ nameLimit && cs.all isNameChar then
    some (String.ofList (cs.map Char.toLower))
  else none

/-- No controls but the tab. -/
def isValueByte (b : UInt8) : Bool := (32 ≤ b && b != 127) || b == 9

def headerValue? (s : String) : Option (List UInt8) :=
  let bs := Utf8.encode s.toList
  if bs.all isValueByte then some bs else none

/-! ## Maps -/

/-- One value for each name. -/
abbrev Headers := List (String × List UInt8)

namespace Headers

def get? (h : Headers) (name : String) : Option (List UInt8) := h.lookup name

/-- Gives a name a value. The place of a name does not change. -/
def insert (h : Headers) (name : String) (value : List UInt8) : Headers :=
  match h with
  | [] => [(name, value)]
  | (n, v) :: rest => if n = name then (n, value) :: rest else (n, v) :: insert rest name value

end Headers

end FetchKit.Http
