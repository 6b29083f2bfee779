import FetchKit.Source.Token

/-!
# Why tokens do not follow the grammar
-/

namespace FetchKit.Grammar

open FetchKit.Source

inductive Complaint where
  /-- One of these should have come next. `atEnd` when the tokens had run out. -/
  | expected (wanted : List String) (atEnd : Bool)
  /-- This operator should have come next. -/
  | missing (text : String)
  /-- A keyword stands where a name is needed. -/
  | keyword (text : String)
  /-- Tokens are left over: at the end, or at the end of a group. -/
  | leftover (scope : Option Delimiter)
  /-- A rule of its own is broken. -/
  | rule (text : String) (atEnd : Bool)
  /-- The tokens nest deeper than they can. -/
  | tooDeep
  deriving Repr, DecidableEq, Inhabited

namespace Complaint

def notice (atEnd : Bool) (text : String) : String :=
  if atEnd then "unexpected end of input, " ++ text else text

def message : Complaint → String
  | expected [] atEnd => if atEnd then "unexpected end of input" else "unexpected token"
  | expected [a] atEnd => notice atEnd ("expected " ++ a)
  | expected [a, b] atEnd => notice atEnd ("expected " ++ a ++ " or " ++ b)
  | expected wanted atEnd => notice atEnd ("expected one of: " ++ ", ".intercalate wanted)
  | missing text => "expected `" ++ text ++ "`"
  | keyword text => "expected identifier, found keyword `" ++ text ++ "`"
  | leftover none => "unexpected token"
  | leftover (some .paren) => "unexpected token, expected `)`"
  | leftover (some .bracket) => "unexpected token, expected `]`"
  | leftover (some .brace) => "unexpected token, expected `\x7d`"
  | rule text atEnd => notice atEnd text
  | tooDeep => "the tokens nest too deep"

end Complaint

end FetchKit.Grammar
