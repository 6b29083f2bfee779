import FetchKit.Grammar.Item

/-!
# Running rules

A rule is a function of its cursor. The lemmas here say what each basic step makes of a cursor, so
that later proofs run a rule step by step and never open the monad.
-/

namespace FetchKit.Grammar.Rule

open FetchKit.Source

variable {α β σ : Type}

/-! ## Sequences of steps -/

/-- Goes on from what a rule gave, or stops at its complaint. -/
def andThen (r : Except Complaint (α × Cursor)) (f : α → Rule β) : Except Complaint (β × Cursor) :=
  match r with
  | .ok (a, c) => f a c
  | .error e => .error e

-- Only the first step is run; what follows is left alone until the step is done.
@[congr]
theorem andThen_congr {r r' : Except Complaint (α × Cursor)} (h : r = r') (f : α → Rule β) :
    andThen r f = andThen r' f := by
  rw [h]

-- None of these is proved by `rfl` alone: such a step leaves no trace in the proofs that use it, and
-- the kernel then runs the rule again to check them.
@[simp]
theorem andThen_ok (a : α) (c : Cursor) (f : α → Rule β) : andThen (.ok (a, c)) f = f a c := by
  rw [andThen]

@[simp]
theorem andThen_error (e : Complaint) (f : α → Rule β) : andThen (.error e) f = .error e := by
  rw [andThen]

@[simp ↓]
theorem run_bind (x : Rule α) (f : α → Rule β) (c : Cursor) : (x >>= f) c = andThen (x c) f := by
  change StateT.bind x f c = andThen (x c) f
  simp only [StateT.bind, bind, Except.bind, andThen]
  cases x c <;> rfl

theorem andThen_eq_ok {r : Except Complaint (α × Cursor)} {f : α → Rule β} {c' : Cursor} {b : β} :
    andThen r f = .ok (b, c') ↔ ∃ a c, r = .ok (a, c) ∧ f a c = .ok (b, c') := by
  constructor
  · intro h
    cases r with
    | error e => simp at h
    | ok p => exact ⟨p.1, p.2, rfl, h⟩
  · rintro ⟨a, c, rfl, hf⟩
    rw [andThen_ok, hf]

theorem bind_eq_ok {x : Rule α} {f : α → Rule β} {c c' : Cursor} {b : β} :
    (x >>= f) c = .ok (b, c') ↔ ∃ a c₁, x c = .ok (a, c₁) ∧ f a c₁ = .ok (b, c') := by
  rw [run_bind, andThen_eq_ok]

@[simp ↓]
theorem run_map (f : α → β) (x : Rule α) (c : Cursor) :
    (f <$> x) c = andThen (x c) fun a => pure (f a) := by
  change StateT.map f x c = andThen (x c) fun a => pure (f a)
  simp only [StateT.map, bind, Except.bind, andThen]
  cases x c <;> rfl

theorem run_self (r : Rule α) (c : Cursor) : StateT.run r c = r c := rfl

@[simp ↓]
theorem run_pure (a : α) (c : Cursor) : (pure a : Rule α) c = .ok (a, c) := by
  unfold pure
  rfl

@[simp ↓]
theorem run_fail (e : Complaint) (c : Cursor) : (fail e : Rule α) c = .error e := by
  unfold fail
  rfl

@[simp ↓]
theorem run_ite (p : Prop) [Decidable p] (x y : Rule α) (c : Cursor) :
    (if p then x else y) c = if p then x c else y c := by
  split <;> rfl

@[simp ↓]
theorem run_get (c : Cursor) : (get : Rule Cursor) c = .ok (c, c) := by
  unfold get
  rfl

@[simp ↓]
theorem run_set (c c' : Cursor) : (set c' : Rule PUnit) c = .ok (⟨⟩, c') := by
  unfold set
  rfl

/-! ## Looking ahead -/

@[simp ↓]
theorem run_trees (c : Cursor) : trees c = .ok (c.rest, c) := by simp [trees]

@[simp ↓]
theorem run_atEnd (c : Cursor) : atEnd c = .ok (c.rest.isEmpty, c) := by simp [atEnd]

@[simp ↓]
theorem run_peek (p : Probe) (c : Cursor) : peek p c = .ok (p.test c.rest, c) := by simp [peek]

@[simp ↓]
theorem run_peek2 (p : Probe) (c : Cursor) : peek2 p c = .ok (p.test (skip 1 c.rest), c) := by
  simp [peek2]

@[simp ↓]
theorem run_peek3 (p : Probe) (c : Cursor) : peek3 p c = .ok (p.test (skip 2 c.rest), c) := by
  simp [peek3]

@[simp ↓]
theorem run_peekAny (ps : List Probe) (c : Cursor) :
    peekAny ps c = .ok (ps.any (·.test c.rest), c) := by simp [peekAny]

@[simp]
theorem op_test (s : String) (ts : List Tree) : (op s).test ts = startsOperator s.toList ts := by
  rw [op]

@[simp]
theorem kw_test (w : String) (ts : List Tree) : (kw w).test ts = startsWord w ts := by
  rw [kw]

@[simp]
theorem name_test (ts : List Tree) : name.test ts = startsName ts := by
  rw [name]

@[simp]
theorem anyIdent_test (ts : List Tree) : anyIdent.test ts = startsAnyIdent ts := by
  rw [anyIdent]

@[simp]
theorem lifetime_test (ts : List Tree) : lifetime.test ts = startsLifetime ts := by
  rw [lifetime]

@[simp]
theorem paren_test (ts : List Tree) : paren.test ts = startsGroup .paren ts := by
  rw [paren]

@[simp]
theorem bracket_test (ts : List Tree) : bracket.test ts = startsGroup .bracket ts := by
  rw [bracket]

@[simp]
theorem brace_test (ts : List Tree) : brace.test ts = startsGroup .brace ts := by
  rw [brace]

@[simp]
theorem literal_test (ts : List Tree) : literal.test ts = startsLiteral ts := by
  rw [literal]

@[simp]
theorem string_test (ts : List Tree) : string.test ts = startsString ts := by
  rw [string]

@[simp] theorem skip_zero (ts : List Tree) : skip 0 ts = ts := rfl
@[simp] theorem skip_succ (n : Nat) (ts : List Tree) : skip (n + 1) ts = skip n (skipOne ts) := rfl
@[simp] theorem skipOne_nil : skipOne [] = [] := rfl
@[simp] theorem skipOne_ident (i : Ident) (ts : List Tree) : skipOne (.ident i :: ts) = ts := rfl

@[simp]
theorem skipOne_literal (text : String) (s : Span) (ts : List Tree) :
    skipOne (.literal text s :: ts) = ts := rfl

@[simp]
theorem skipOne_group (d : Delimiter) (content : List Tree) (s : Span) (ts : List Tree) :
    skipOne (.group d content s :: ts) = ts := rfl

@[simp]
theorem skipOne_punct {c : Char} (joint : Bool) (s : Span) (ts : List Tree) (h : c ≠ '\'') :
    skipOne (.punct c joint s :: ts) = ts := by
  unfold skipOne
  split
  · next heq =>
    cases heq
    exact absurd rfl h
  · next heq =>
    cases heq
    rfl
  · next heq => cases heq

/-! ## Taking and writing trees -/

@[simp ↓]
theorem run_advance (rest out : List Tree) (c : Cursor) :
    advance rest out c = .ok ((), { c with rest, written := out.reverse ++ c.written }) := by
  unfold advance
  rfl

@[simp ↓]
theorem run_write (ts : List Tree) (c : Cursor) :
    write ts c = .ok ((), { c with written := ts.reverse ++ c.written }) := by
  unfold write
  rfl

@[simp ↓]
theorem run_leave (missed : Option Delimiter) (c : Cursor) :
    leave missed c = .ok ((), { c with leftover := c.leftover.or missed }) := by
  unfold leave
  rfl

/-! ## Groups -/

/-- A group is read by a rule for what it holds, which starts with nothing written. -/
theorem enter_eq_ok {d : Delimiter} {body : Rule α} {c c' : Cursor} {a : α}
    {missed : Option Delimiter} : enter d body c = .ok ((a, missed), c') ↔
      ∃ content s ts inner, c.rest = .group d content s :: ts ∧
        body { rest := content, leftover := c.leftover } = .ok (a, inner) ∧
        missed = (if inner.rest.isEmpty then none else some d) ∧
        c' = { rest := ts, written := .group d inner.written.reverse s :: c.written,
               leftover := inner.leftover } := by
  unfold enter
  constructor
  · intro h
    split at h
    · next e content s ts hc =>
      split at h
      · next heq =>
        subst heq
        split at h
        · cases h
        · next inner hinner =>
          cases h
          exact ⟨content, s, ts, inner, hc, hinner, rfl, rfl⟩
      · cases h
    · cases h
  · rintro ⟨content, s, ts, inner, hc, hinner, rfl, rfl⟩
    simp only [hc, if_true, run_self, hinner]

/-! ## What a rule gives -/

/-- Whatever a rule gives from here has this property. -/
def Gives (P : α → Prop) (r : Rule α) (c : Cursor) : Prop :=
  ∀ a c', r c = .ok (a, c') → P a

section Gives

variable {P : β → Prop} {c : Cursor}

theorem gives_pure {b : β} (h : P b) : Gives P (pure b : Rule β) c := by
  intro a c' hr
  cases hr
  exact h

theorem gives_fail (e : Complaint) : Gives P (fail e : Rule β) c := by
  intro a c' hr
  cases hr

theorem gives_bind {x : Rule α} {f : α → Rule β} (h : ∀ a c₁, x c = .ok (a, c₁) → Gives P (f a) c₁) :
    Gives P (x >>= f) c := by
  intro b c' hr
  obtain ⟨a, c₁, hx, hf⟩ := bind_eq_ok.1 hr
  exact h a c₁ hx _ _ hf

theorem gives_ite {p : Prop} [Decidable p] {x y : Rule β} (hx : p → Gives P x c)
    (hy : ¬ p → Gives P y c) : Gives P (if p then x else y) c := by
  split
  · next h => exact hx h
  · next h => exact hy h

theorem gives_complain (text : String) : Gives P (complain text : Rule β) c :=
  gives_bind fun _ _ _ => gives_fail _

theorem gives_unmet (ps : List Probe) : Gives P (unmet ps : Rule β) c :=
  gives_bind fun _ _ _ => gives_fail _

theorem gives_peek {p : Probe} {f : Bool → Rule β} (h : Gives P (f (p.test c.rest)) c) :
    Gives P (peek p >>= f) c := by
  refine gives_bind fun a c₁ hp => ?_
  cases hp
  exact h

theorem gives_peek2 {p : Probe} {f : Bool → Rule β} (h : Gives P (f (p.test (skip 1 c.rest))) c) :
    Gives P (peek2 p >>= f) c := by
  refine gives_bind fun a c₁ hp => ?_
  cases hp
  exact h

theorem gives_peekSignature {safe : Bool} {f : Bool → Rule β} (h : ∀ b, Gives P (f b) c) :
    Gives P (peekSignature safe >>= f) c := by
  refine gives_bind fun b c₁ hp => ?_
  unfold peekSignature wouldRead at hp
  split at hp
  · cases hp
    exact h true
  · cases hp
    exact h false

end Gives

/-! ## Whole runs -/

theorem run_eq_ok {r : Rule α} {ts : List Tree} {a : α} : r.run ts = .ok a ↔
    ∃ out, r { rest := ts } = .ok (a, { rest := [], written := out }) := by
  unfold run
  rw [run_self]
  constructor
  · intro h
    split at h
    · cases h
    · next b c hc =>
      split at h
      · cases h
      · cases h
      · next hl hr =>
        cases h
        refine ⟨c.written, hc.trans ?_⟩
        rw [← hl, ← hr]
  · rintro ⟨out, h⟩
    rw [h]

end FetchKit.Grammar.Rule
