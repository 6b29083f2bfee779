import FetchKit.Request.Diagnostic
import FetchKit.Request.Synthesis

/-!
# Expansion

An item with a request on it is either given code or refused with diagnostics.
-/

namespace FetchKit.Request

open FetchKit.Source FetchKit.Grammar

inductive Expansion where
  | generated (tokens : List Tree)
  | diagnosed (diagnostics : List Diagnostic)
  deriving Repr, Inhabited

def Declaration.expand (d : Declaration) (a : Arguments) : Expansion :=
  match d.validate with
  | .valid ident => .generated (synthesize ident a)
  | outcome => .diagnosed (diagnose outcome d)

/-- Why no expansion could be tried. -/
inductive Refusal where
  | arguments (f : Fault)
  | item (c : Complaint)
  deriving Repr, Inhabited

def Refusal.notice : Refusal → Notice
  | arguments f => f.notice
  | item c => { message := c.message }

/-- Reads the arguments, then the item, and expands it. -/
def expand (attr item : List Tree) : Except Refusal Expansion :=
  match Arguments.parse attr with
  | .error f => .error (.arguments f)
  | .ok a =>
    match Declaration.parse item with
    | .error c => .error (.item c)
    | .ok d => .ok (d.expand a)

/-- What is put after the item. -/
def appendix (attr item : List Tree) : List Tree :=
  match expand attr item with
  | .error r => errorTokens [r.notice]
  | .ok (.generated tokens) => tokens
  | .ok (.diagnosed ds) =>
    match report ds with
    | some ns => errorTokens ns
    | none => []

end FetchKit.Request
