import FetchKit.Address.Domain.Joiner
import FetchKit.Address.Domain.Mapping
import FetchKit.Address.Domain.Punycode
import FetchKit.Text.Utf8

/-!
# Names of domains

A name is written in ASCII: letters small, and a label beyond ASCII by its numbers, after `xn--`.
-/

namespace FetchKit.Address

open FetchKit.Text

/-- ASCII that no name may hold. -/
def deniedInDomain (c : Char) : Bool :=
  c.toNat ≤ 0x20 || c.toNat == 0x7F ||
    ['%', '#', '/', ':', '<', '>', '?', '@', '[', '\\', ']', '^', '|'].contains c

/-! ## Labels -/

/-- A label of a name, and how it is written. -/
structure Label where
  letters : List Char
  ascii : List Char
  deriving Repr, DecidableEq, Inhabited

def isAscii (cs : List Char) : Bool := cs.all (·.toNat < 0x80)

/-- What comes before a label that is written by its numbers. -/
def codedMark : List Char := ['x', 'n', '-', '-']

/-- How many characters a label beyond ASCII may have, and how many its numbers. -/
def labelLimit : Nat := 1000
def codedLimit : Nat := 2000

/-- A label that is written by its numbers: they stand for characters that need no mapping, and for
some beyond ASCII. -/
def readCoded (coded : List Char) : Option Label :=
  if coded.length > codedLimit then none
  else
    match Punycode.decode coded with
    | none => none
    | some letters =>
      if !isAscii letters && letters.all isPlain && compose letters == letters &&
          fitsLabel letters then
        some { letters, ascii := codedMark ++ coded }
      else none

def readLabel (cs : List Char) : Option Label :=
  if codedMark.isPrefixOf cs then readCoded (cs.drop codedMark.length)
  else if isAscii cs then some { letters := cs, ascii := cs }
  else if cs.length ≤ labelLimit && fitsLabel cs then
    some { letters := cs, ascii := codedMark ++ Punycode.encode cs }
  else none

/-! ## Names -/

/-- Whether no label mixes directions, where one is written from right to left. -/
def keepsDirections (labels : List Label) : Bool :=
  !labels.any (fun l => !isAscii l.letters && l.letters.any isRightToLeft) ||
    labels.all (fun l => keepsDirection l.letters)

/-- The characters of a name as they count. -/
def readName (cs : List Char) : Option (List Char) :=
  match mapChars cs with
  | some mapped =>
    let name := compose mapped
    if name.any deniedInDomain then none else some name
  | none => none

/-- The ASCII form of a name given as bytes. -/
def domainToAscii (bs : List UInt8) : Option (List Char) := do
  let name ← readName (← Utf8.decode bs)
  let labels ← (name.splitOnP (· == '.')).mapM readLabel
  if keepsDirections labels then
    some (['.'].intercalate (labels.map (·.ascii)))
  else none

end FetchKit.Address
