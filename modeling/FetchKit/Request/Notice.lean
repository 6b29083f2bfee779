import FetchKit.Source.Token
import FetchKit.Text.Quoted

/-!
# Notices

What is told to whoever wrote the source: a message and the place it is about. Several notices are
reported one by one, in order.
-/

namespace FetchKit.Request

open FetchKit.Source

structure Notice where
  message : String
  span : Span := .callSite
  deriving Repr, DecidableEq, Inhabited

/-- A name from the root, as in `::core::fmt`. -/
def rooted (names : List String) : List Tree :=
  names.flatMap fun n => operator "::" ++ [word n]

def stringLiteral (s : String) : Tree := .literal (Text.quote s) .callSite

/-- The code that makes the compiler report a message. -/
def Notice.tokens (n : Notice) : List Tree :=
  rooted ["core", "compile_error"] ++ operator "!" ++ [group .brace [stringLiteral n.message]]

/-- The code that makes the compiler report every notice. -/
def errorTokens (ns : List Notice) : List Tree := ns.flatMap Notice.tokens

/-- All notices of several reports as one report; `none` without any report. -/
def combine : List (List Notice) → Option (List Notice)
  | [] => none
  | r :: rs => some (rs.foldl (· ++ ·) r)

end FetchKit.Request
