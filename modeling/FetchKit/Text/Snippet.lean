import FetchKit.Text.Utf8

/-! # The start of a long text -/

namespace FetchKit.Text

/-- What stands for the part that is left out. -/
def ellipsis : Char := '…'

/-- At most `limit` characters of a text, with a mark where more follow. -/
def snippet (cs : List Char) (limit : Nat) : List Char :=
  if cs.length ≤ limit then cs else cs.take limit ++ [ellipsis]

/-- How many characters of a body a message shows. -/
def snippetLimit : Nat := 256

/-- The start of a body, whatever its bytes are. -/
def bodySnippet (body : List UInt8) : List Char := snippet (Utf8.lossy body) snippetLimit

end FetchKit.Text
