/-!
# The shared client

All callers who bring no client share one. It is made by the first who needs it, and kept in a cell
that is written once. Several callers may find the cell empty and each make a client; the first to
store its own wins and the others take that one.
-/

namespace FetchKit.Http.Shared

/-- Where a caller stands. -/
inductive Caller (γ : Type) where
  | idle
  /-- Found the cell empty. -/
  | missed
  | built (client : γ)
  | done (client : γ)
  | failed
  deriving Repr, DecidableEq, Inhabited

structure State (γ : Type) where
  cell : Option γ := none
  caller : Nat → Caller γ := fun _ => .idle

/-- What a caller can do next. Each is one access to the cell, or none. -/
inductive Action (γ : Type) where
  | look
  /-- Makes a client, or fails to. -/
  | build (result : Option γ)
  | store
  deriving Repr, DecidableEq, Inhabited

namespace State

variable {γ : Type}

def move (s : State γ) (i : Nat) (c : Caller γ) : State γ :=
  { s with caller := fun j => if j = i then c else s.caller j }

/-- What an action of a caller does; `none` where it cannot act so. -/
def step? (s : State γ) (i : Nat) : Action γ → Option (State γ)
  | .look =>
    match s.caller i, s.cell with
    | .idle, some c => some (s.move i (.done c))
    | .idle, none => some (s.move i .missed)
    | _, _ => none
  | .build result =>
    match s.caller i, result with
    | .missed, some c => some (s.move i (.built c))
    | .missed, none => some (s.move i .failed)
    | _, _ => none
  | .store =>
    match s.caller i, s.cell with
    | .built _, some c => some (s.move i (.done c))
    | .built c, none => some ({ s with cell := some c }.move i (.done c))
    | _, _ => none

/-- A run: callers act one after the other, in any order. -/
def run? (s : State γ) (actions : List (Nat × Action γ)) : Option (State γ) :=
  actions.foldlM (fun s (i, a) => s.step? i a) s

end State

end FetchKit.Http.Shared
