import FetchKit.Text.CharTable
import FetchKit.Text.Quoted

/-!
# Tables written as text

Entries stand between blanks, and all numbers are hexadecimal. An entry starts with a code point
`41`, a range `41-5a`, or a range `100~12e` of which every second code point is meant. After a colon
there may be numbers with commas between them.
-/

namespace FetchKit.Text

structure TableEntry where
  first : Nat
  last : Nat
  step : Nat
  values : List Nat
  deriving Repr, DecidableEq, Inhabited

namespace TableEntry

def has (e : TableEntry) (n : Nat) : Bool :=
  e.first ≤ n && n ≤ e.last && (n - e.first) % e.step == 0

def hexNumber (cs : List Char) : Nat := cs.foldl (fun n c => 16 * n + (hexValue c).getD 0) 0

def ofRange (values : List Nat) (cs : List Char) : TableEntry :=
  match cs.splitOnP (· == '-'), cs.splitOnP (· == '~') with
  | [a, b], _ => ⟨hexNumber a, hexNumber b, 1, values⟩
  | _, [a, b] => ⟨hexNumber a, hexNumber b, 2, values⟩
  | _, _ => ⟨hexNumber cs, hexNumber cs, 1, values⟩

def ofText (cs : List Char) : TableEntry :=
  match cs.splitOnP (· == ':') with
  | [range, values] => ofRange ((values.splitOnP (· == ',')).map hexNumber) range
  | _ => ofRange [] cs

end TableEntry

def readTable (s : String) : List TableEntry :=
  let words := s.toList.splitOnP fun c => c == ' ' || c == '\n'
  (words.filter (!·.isEmpty)).map .ofText

def readCharTable (s : String) : CharTable := (readTable s).map fun e => (e.first, e.last)

end FetchKit.Text
