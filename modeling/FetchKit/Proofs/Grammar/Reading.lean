import FetchKit.Proofs.Grammar.PathList

/-!
# What rules read

For phrases of the language, that a rule takes just the phrase and writes it as it stands. Each rule
is run on the front of the phrase up to the rules it calls, whose phrases are known.
-/

namespace FetchKit.Grammar

open FetchKit.Source Rule

variable {α σ : Type}

/-- In front of `rest` the rule takes these trees and writes them as they are. -/
def Reads (r : Rule α) (ts rest : List Tree) (a : α) : Prop :=
  ∀ w l, r ⟨ts ++ rest, w, l⟩ = .ok (a, ⟨rest, ts.reverse ++ w, l⟩)

theorem pure_reads (a : α) (rest : List Tree) : Reads (pure a) [] rest a := by
  intro w l
  simp

theorem Reads.run {r : Rule α} {ts : List Tree} {a : α} (h : Reads r ts [] a) : r.run ts = .ok a := by
  have h := h [] none
  rw [List.append_nil] at h
  rw [Rule.run, run_self, h]

/-! ## Groups and parts -/

theorem Reads.enter {body : Rule α} {content : List Tree} {a : α} (h : Reads body content [] a)
    (d : Delimiter) (s : Span) (rest : List Tree) :
    Reads (enter d body) [.group d content s] rest (a, none) := by
  intro w l
  have hbody := h [] l
  rw [List.append_nil, List.append_nil] at hbody
  unfold Rule.enter
  simp [run_self, hbody]

theorem Reads.within {body : Rule α} {content : List Tree} {a : α} (h : Reads body content [] a)
    (d : Delimiter) (s : Span) (rest : List Tree) :
    Reads (within d body) [.group d content s] rest a := by
  intro w l
  unfold Rule.within
  rw [run_bind, h.enter d s rest w l]
  simp

theorem Reads.capture {r : Rule α} {ts rest : List Tree} {a : α} (h : Reads r ts rest a) :
    Reads (capture r) ts rest (a, ts) := by
  intro w l
  unfold Rule.capture
  rw [run_self, h [] l]
  simp

theorem Reads.withhold {r : Rule α} {ts rest : List Tree} {a : α} (h : Reads r ts rest a)
    (w : List Tree) (l : Option Delimiter) :
    withhold r ⟨ts ++ rest, w, l⟩ = .ok ((a, ts), ⟨rest, w, l⟩) := by
  unfold Rule.withhold
  rw [run_self, h [] l]
  simp

theorem Reads.keeping {r : Rule (Kept α)} {ts rest : List Tree} {a : Kept α} (h : Reads r ts rest a) :
    Reads (keeping r) ts rest a.phrase := by
  intro w l
  unfold Rule.keeping
  rw [run_self, h [] l]
  simp

/-! ## Operators and words -/

section Heads

variable {c d : Char} {cs : List Char}

theorem startsOperator_nil : startsOperator (c :: cs) [] = false := by
  cases cs <;> rfl

theorem startsOperator_ident (i : Ident) (ts : List Tree) :
    startsOperator (c :: cs) (.ident i :: ts) = false := by
  cases cs <;> rfl

theorem startsOperator_literal (text : String) (s : Span) (ts : List Tree) :
    startsOperator (c :: cs) (.literal text s :: ts) = false := by
  cases cs <;> rfl

theorem startsOperator_group (e : Delimiter) (content : List Tree) (s : Span) (ts : List Tree) :
    startsOperator (c :: cs) (.group e content s :: ts) = false := by
  cases cs <;> rfl

theorem startsOperator_last (joint : Bool) (s : Span) (ts : List Tree) :
    startsOperator [c] (.punct d joint s :: ts) = (c == d && d != '\'') := rfl

theorem startsOperator_cons (c' : Char) (joint : Bool) (s : Span) (ts : List Tree) :
    startsOperator (c :: c' :: cs) (.punct d joint s :: ts) =
      (c == d && joint && startsOperator (c' :: cs) ts) := rfl

end Heads

theorem startsOperator_one {c : Char} {ts : List Tree} (h : startsOperator [c] ts = true) :
    ∃ joint s us, ts = .punct c joint s :: us := by
  match ts with
  | .punct d joint s :: us =>
    simp only [startsOperator, Bool.and_eq_true, beq_iff_eq] at h
    exact ⟨joint, s, us, by rw [h.1]⟩
  | [] | .ident _ :: _ | .literal _ _ :: _ | .group _ _ _ :: _ => cases h

theorem startsOperator_more {c d : Char} {cs : List Char} {ts : List Tree}
    (h : startsOperator (c :: d :: cs) ts = true) :
    ∃ s us, ts = .punct c true s :: us ∧ startsOperator (d :: cs) us = true := by
  match ts with
  | .punct e joint s :: us =>
    simp only [startsOperator, Bool.and_eq_true, beq_iff_eq] at h
    obtain ⟨⟨rfl, rfl⟩, hmore⟩ := h
    exact ⟨s, us, rfl, hmore⟩
  | [] | .ident _ :: _ | .literal _ _ :: _ | .group _ _ _ :: _ => simp [startsOperator] at h

@[simp ↓]
theorem run_eatOp (s : String) (c : Cursor) : eatOp s c =
    if startsOperator s.toList c.rest then
      .ok ((), { c with rest := c.rest.drop s.toList.length
                        written := (setOperator (c.rest.take s.toList.length)).reverse ++ c.written })
    else .error (.missing s) := by
  rw [eatOp, run_bind, run_trees, andThen_ok, run_ite, run_advance, run_fail, String.length_toList]

@[simp ↓]
theorem run_eatOp? (s : String) (c : Cursor) : eatOp? s c =
    if startsOperator s.toList c.rest then andThen (eatOp s c) fun _ => pure true
    else .ok (false, c) := by
  simp [↓eatOp?]

@[simp ↓]
theorem run_eatWord? (s : String) (c : Cursor) : eatWord? s c =
    if startsWord s c.rest then andThen (eatWord s c) fun _ => pure true
    else .ok (false, c) := by
  simp [↓eatWord?]

@[simp ↓]
theorem run_eatWord_ident (s : String) (i : Ident) (ts w : List Tree) (l : Option Delimiter) :
    eatWord s ⟨.ident i :: ts, w, l⟩ =
      if i.isWord s then .ok ((), ⟨ts, .ident i :: w, l⟩)
      else .error (.expected
        (([kw s].filter fun p => !p.test (.ident i :: ts)).map (·.shown)) false) := by
  rw [eatWord, run_bind, run_trees, andThen_ok]
  simp only [run_ite]
  rfl

@[simp ↓]
theorem run_eatAnyIdent (i : Ident) (ts w : List Tree) (l : Option Delimiter) :
    eatAnyIdent ⟨.ident i :: ts, w, l⟩ = .ok (i, ⟨ts, .ident i :: w, l⟩) :=
  eatAnyIdent_eq_ok.2 ⟨ts, rfl, rfl⟩

theorem run_eatName {i : Ident} (hi : i.isName = true) (ts w : List Tree) (l : Option Delimiter) :
    eatName ⟨.ident i :: ts, w, l⟩ = .ok (i, ⟨ts, .ident i :: w, l⟩) :=
  eatName_eq_ok.2 ⟨hi, ts, rfl, rfl⟩

@[simp]
theorem isWord_plain (word : String) (s : Span) (w : String) :
    Ident.isWord ⟨word, false, s⟩ w = (word == w) := by
  simp [Ident.isWord]

theorem isWord_eq_false {i : Ident} (hi : i.isName = true) :
    ∀ w ∈ reservedWords, i.isWord w = false := by
  intro w hw
  simp only [Ident.isName, Bool.or_eq_true, Bool.not_eq_true'] at hi
  simp only [Ident.isWord, Bool.and_eq_false_iff, Bool.not_eq_false', beq_eq_false_iff_ne, ne_eq]
  rcases hi with hraw | hname
  · exact .inl hraw
  · refine .inr fun h => ?_
    rw [h] at hname
    simp [hw] at hname

attribute [local simp] startsOperator_nil startsOperator_ident startsOperator_literal
  startsOperator_group startsOperator_last startsOperator_cons startsWord startsName startsAnyIdent
  startsLifetime startsGroup startsLiteral setOperator

/-! ## Loops -/

/-- The rounds of a loop: all but the last take at least one tree. -/
inductive Loops (body : σ → Rule (Progress σ)) : σ → List Tree → List Tree → σ → Prop
  | done {s ts rest s'} (h : Reads (body s) ts rest (.done s')) : Loops body s ts rest s'
  | again {s t ts us rest s₁ s'} (h : Reads (body s) (t :: ts) (us ++ rest) (.again s₁))
    (hs : Loops body s₁ us rest s') : Loops body s (t :: ts ++ us) rest s'

theorem Loops.iterateFor_eq {body : σ → Rule (Progress σ)} {s s' : σ} {ts rest : List Tree}
    (h : Loops body s ts rest s') {n : Nat} (hn : ts.length < n) (w : List Tree)
    (l : Option Delimiter) :
    iterateFor n s body ⟨ts ++ rest, w, l⟩ = .ok (s', ⟨rest, ts.reverse ++ w, l⟩) := by
  -- On the rounds: each takes a tree, so the bound stays above what is left.
  induction h generalizing n w with
  | done h =>
    obtain ⟨n, rfl⟩ := Nat.exists_eq_add_of_lt hn
    rw [iterateFor, run_bind, h]
    rfl
  | @again s t ts us rest s₁ s' h hs ih =>
    obtain ⟨n, rfl⟩ := Nat.exists_eq_add_of_lt hn
    rw [iterateFor, run_bind, List.append_assoc, h, andThen_ok]
    refine (ih (by simp at hn ⊢; omega) _).trans ?_
    simp

theorem Loops.reads {body : σ → Rule (Progress σ)} {s s' : σ} {ts rest : List Tree}
    (h : Loops body s ts rest s') : Reads (iterate s body) ts rest s' := by
  intro w l
  have hlength : ts.length < (ts ++ rest).length + 1 := by
    rw [List.length_append]
    omega
  exact h.iterateFor_eq hlength w l

@[simp ↓]
theorem run_iterate (s : σ) (body : σ → Rule (Progress σ)) (c : Cursor) :
    iterate s body c = andThen (body s c) fun p =>
      match p with
      | .done s => pure s
      | .again s => iterateFor c.rest.length s body := by
  change iterateFor (c.rest.length + 1) s body c = _
  exact run_bind (body s) _ c

/-! ### Lists with commas -/

theorem loops_itemRound_last {item : Rule α} {t : Tree} {ts : List Tree} {a : α}
    (h : Reads item (t :: ts) [] a) (found : List α) :
    Loops (itemRound item) found (t :: ts) [] (a :: found) := by
  refine .done fun w l => ?_
  have h := h w l
  simp at h ⊢
  simp [↓itemRound, h]

theorem loops_itemRound_more {item : Rule α} {t : Tree} {ts us : List Tree} {a : α} {s : Span}
    {found out : List α} (h : Reads item (t :: ts) (.punct ',' false s :: us) a)
    (hs : Loops (itemRound item) (a :: found) us [] out) :
    Loops (itemRound item) found (t :: ts ++ .punct ',' false s :: us) [] out := by
  have hround : Reads (itemRound item found) (t :: (ts ++ [.punct ',' false s])) (us ++ [])
      (.again (a :: found)) := by
    intro w l
    have h := h w l
    simp at h ⊢
    simp [↓itemRound, h]
  simpa using Loops.again hround hs

theorem terminated_reads {item : Rule α} {ts : List Tree} {found : List α}
    (h : Loops (itemRound item) [] ts [] found) : Reads (terminated item) ts [] found.reverse := by
  intro w l
  rw [terminated_eq, run_bind, h.reads w l]
  rfl

theorem terminated_reads_nil (item : Rule α) : Reads (terminated item) [] [] [] := by
  intro w l
  simp [terminated_eq, ↓itemRound]

theorem terminated_reads_one {item : Rule α} {ts : List Tree} {a : α} (h : Reads item ts [] a)
    (hts : ts ≠ []) : Reads (terminated item) ts [] [a] := by
  obtain ⟨t, ts, rfl⟩ := List.exists_cons_of_ne_nil hts
  exact terminated_reads (loops_itemRound_last h [])

end FetchKit.Grammar
