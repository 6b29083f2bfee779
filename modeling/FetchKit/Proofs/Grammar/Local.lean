import FetchKit.Proofs.Grammar.Depth

/-!
# Rules that do not reach further

A rule may look at trees that it does not take. Here it is shown for which trees after a phrase it
makes no difference which of them come next: the rule reads the phrase in the same way, and leaves
what follows as it is.
-/

namespace FetchKit.Grammar

open FetchKit.Source Rule

/-! ## Edges -/

/-- No type goes on with this tree. -/
def closes : Tree → Bool
  | .punct c _ _ => c == ',' || c == ';' || c == '>'
  | .group .brace _ _ => true
  | _ => false

/-- Trees that no type goes on with: there are none, or the first one tells. -/
def Closed (e : List Tree) : Prop := e.head?.all closes = true

/-- What may be exchanged for one another after a type. -/
class Edge (E : List Tree → List Tree → Prop) : Prop where
  closed : ∀ {e e'}, E e e' → Closed e ∧ Closed e'
  angle : ∀ {e e'}, E e e' → startsOperator ['>'] e = startsOperator ['>'] e'

/-- A closing angle bracket, whatever comes after it. -/
def AngleEdge (e e' : List Tree) : Prop :=
  startsOperator ['>'] e = true ∧ startsOperator ['>'] e' = true

theorem closed_of_angle {e : List Tree} (h : startsOperator ['>'] e = true) : Closed e := by
  obtain ⟨joint, s, ts, rfl⟩ := startsOperator_one h
  rfl

instance angleEdge_edge : Edge AngleEdge where
  closed h := ⟨closed_of_angle h.1, closed_of_angle h.2⟩
  angle h := h.1.trans h.2.symm

namespace Rule

variable {α β σ : Type} {E : List Tree → List Tree → Prop}

/-! ## Looking ahead -/

/-- What a probe finds does not hang on what is exchanged. -/
class Sees (E : List Tree → List Tree → Prop) (p : Probe) : Prop where
  eq : ∀ ts {e e'}, E e e' → p.test (ts ++ e) = p.test (ts ++ e')

/-- As `Sees`, whether one of several is found. -/
class SeesAny (E : List Tree → List Tree → Prop) (ps : List Probe) : Prop where
  eq : ∀ ts {e e'}, E e e' → (ps.any fun p => p.test (ts ++ e)) = ps.any fun p => p.test (ts ++ e')

instance seesAny_nil : SeesAny E [] := ⟨fun _ _ _ _ => rfl⟩

instance seesAny_cons {p : Probe} {ps : List Probe} [hp : Sees E p] [hps : SeesAny E ps] :
    SeesAny E (p :: ps) := by
  refine ⟨fun ts e e' h => ?_⟩
  rw [List.any_cons, List.any_cons, hp.eq ts h, hps.eq ts h]

/-- A probe for the first tree, which finds nothing where no type goes on. -/
class Front (p : Probe) : Prop where
  closed : ∀ {e}, Closed e → p.test e = false
  cons : ∀ t ts us, p.test (t :: ts) = p.test (t :: us)

instance Front.sees [Edge E] (p : Probe) [hp : Front p] : Sees E p := by
  refine ⟨fun ts e e' h => ?_⟩
  obtain ⟨hc, hc'⟩ := Edge.closed h
  cases ts with
  | nil => exact (hp.closed hc).trans (hp.closed hc').symm
  | cons t ts => exact hp.cons _ _ _

theorem closed_cases {e : List Tree} (h : Closed e) : e = [] ∨
    (∃ c joint s ts, e = .punct c joint s :: ts ∧ (c = ',' ∨ c = ';' ∨ c = '>')) ∨
    ∃ content s ts, e = .group .brace content s :: ts := by
  match e with
  | [] => exact .inl rfl
  | .punct c joint s :: ts =>
    refine .inr (.inl ⟨c, joint, s, ts, rfl, ?_⟩)
    simpa [Closed, closes, or_assoc] using h
  | .group .brace content s :: ts => exact .inr (.inr ⟨content, s, ts, rfl⟩)
  | .group .paren _ _ :: _ | .group .bracket _ _ :: _ | .ident _ :: _ | .literal _ _ :: _ => cases h

instance kw_front (w : String) : Front (kw w) where
  closed h := by
    obtain rfl | ⟨c, joint, s, ts, rfl, -⟩ | ⟨content, s, ts, rfl⟩ := closed_cases h <;> rfl
  cons t _ _ := by cases t <;> rfl

instance name_front : Front name where
  closed h := by
    obtain rfl | ⟨c, joint, s, ts, rfl, -⟩ | ⟨content, s, ts, rfl⟩ := closed_cases h <;> rfl
  cons t _ _ := by cases t <;> rfl

instance anyIdent_front : Front anyIdent where
  closed h := by
    obtain rfl | ⟨c, joint, s, ts, rfl, -⟩ | ⟨content, s, ts, rfl⟩ := closed_cases h <;> rfl
  cons t _ _ := by cases t <;> rfl

instance paren_front : Front paren where
  closed h := by
    obtain rfl | ⟨c, joint, s, ts, rfl, -⟩ | ⟨content, s, ts, rfl⟩ := closed_cases h <;> rfl
  cons t _ _ := by cases t <;> rfl

instance bracket_front : Front bracket where
  closed h := by
    obtain rfl | ⟨c, joint, s, ts, rfl, -⟩ | ⟨content, s, ts, rfl⟩ := closed_cases h <;> rfl
  cons t _ _ := by cases t <;> rfl

instance string_front : Front string where
  closed h := by
    obtain rfl | ⟨c, joint, s, ts, rfl, -⟩ | ⟨content, s, ts, rfl⟩ := closed_cases h <;> rfl
  cons t _ _ := by cases t <;> rfl

theorem startsLifetime_closed {e : List Tree} (h : Closed e) : startsLifetime e = false := by
  obtain rfl | ⟨c, joint, s, ts, rfl, hc⟩ | ⟨content, s, ts, rfl⟩ := closed_cases h
  · rfl
  · obtain rfl | rfl | rfl := hc <;> rfl
  · rfl

theorem startsLiteral_closed {e : List Tree} (h : Closed e) : startsLiteral e = false := by
  obtain rfl | ⟨c, joint, s, ts, rfl, hc⟩ | ⟨content, s, ts, rfl⟩ := closed_cases h
  · rfl
  · obtain rfl | rfl | rfl := hc <;> rfl
  · rfl

theorem startsLifetime_edge (t : Tree) {e : List Tree} (h : Closed e) :
    startsLifetime (t :: e) = false := by
  unfold startsLifetime
  split
  · next heq =>
    cases heq
    cases h
  · rfl

theorem startsLiteral_edge (t : Tree) {e e' : List Tree} (h : Closed e) (h' : Closed e') :
    startsLiteral (t :: e) = startsLiteral (t :: e') := by
  have hminus {e : List Tree} (h : Closed e) (joint : Bool) (s : Span) :
      startsLiteral (.punct '-' joint s :: e) = false := by
    unfold startsLiteral
    split
    all_goals first | rfl | (next heq => cases heq) | skip
    next heq =>
      cases heq
      cases h
  cases t with
  | punct c joint s =>
    by_cases hc : c = '-'
    · subst hc
      rw [hminus h, hminus h']
    · simp [startsLiteral, hc]
  | _ => rfl

instance lifetime_sees [Edge E] : Sees E lifetime := by
  refine ⟨fun ts e e' h => ?_⟩
  obtain ⟨hc, hc'⟩ := Edge.closed h
  rw [lifetime_test, lifetime_test]
  match ts with
  | [] => exact (startsLifetime_closed hc).trans (startsLifetime_closed hc').symm
  | [t] => exact (startsLifetime_edge t hc).trans (startsLifetime_edge t hc').symm
  | t :: u :: ts =>
    cases t with
    | punct c joint s =>
      by_cases hquote : c = '\''
      · subst hquote
        cases joint <;> cases u <;> rfl
      · simp [startsLifetime, hquote]
    | _ => rfl

instance literal_sees [Edge E] : Sees E literal := by
  refine ⟨fun ts e e' h => ?_⟩
  obtain ⟨hc, hc'⟩ := Edge.closed h
  rw [literal_test, literal_test]
  match ts with
  | [] => exact (startsLiteral_closed hc).trans (startsLiteral_closed hc').symm
  | [t] => exact startsLiteral_edge t hc hc'
  | t :: u :: ts =>
    cases t with
    | punct c joint s =>
      by_cases hminus : c = '-'
      · subst hminus
        cases u <;> rfl
      · simp [startsLiteral, hminus]
    | _ => rfl

/-- An operator that does not reach over an edge: `>` stands at its end only. -/
def keepsIn : List Char → Bool
  | [] => true
  | [c] => c != ',' && c != ';'
  | c :: cs => c != ',' && c != ';' && c != '>' && keepsIn cs

class KeepsIn (s : String) : Prop where
  keeps : keepsIn s.toList = true

instance : KeepsIn "#" := ⟨by decide⟩
instance : KeepsIn "<" := ⟨by decide⟩
instance : KeepsIn ">" := ⟨by decide⟩
instance : KeepsIn ":" := ⟨by decide⟩
instance : KeepsIn "::" := ⟨by decide⟩
instance : KeepsIn "+" := ⟨by decide⟩
instance : KeepsIn "*" := ⟨by decide⟩
instance : KeepsIn "&" := ⟨by decide⟩
instance : KeepsIn "!" := ⟨by decide⟩
instance : KeepsIn "?" := ⟨by decide⟩
instance : KeepsIn "=" := ⟨by decide⟩
instance : KeepsIn "->" := ⟨by decide⟩
instance : KeepsIn "<=" := ⟨by decide⟩
instance : KeepsIn "<<=" := ⟨by decide⟩
instance : KeepsIn "!=" := ⟨by decide⟩

theorem startsOperator_closed {c : Char} {cs : List Char} {e : List Tree} (h : Closed e)
    (hcomma : c ≠ ',') (hsemi : c ≠ ';') (hangle : c ≠ '>') : startsOperator (c :: cs) e = false := by
  obtain rfl | ⟨d, joint, s, ts, rfl, hd⟩ | ⟨content, s, ts, rfl⟩ := closed_cases h
  · cases cs <;> rfl
  · have hcd : c ≠ d := by
      rintro rfl
      obtain rfl | rfl | rfl := hd <;> contradiction
    cases cs <;> simp [startsOperator, hcd]
  · cases cs <;> rfl

theorem startsOperator_edge [Edge E] {cs : List Char} (hcs : keepsIn cs = true) (ts : List Tree)
    {e e' : List Tree} (h : E e e') :
    startsOperator cs (ts ++ e) = startsOperator cs (ts ++ e') := by
  obtain ⟨hc, hc'⟩ := Edge.closed h
  fun_induction keepsIn cs generalizing ts with
  | case1 => simp [startsOperator]
  | case2 c =>
    simp only [Bool.and_eq_true, bne_iff_ne, ne_eq] at hcs
    cases ts with
    | nil =>
      by_cases hangle : c = '>'
      · subst hangle
        exact Edge.angle h
      · rw [List.nil_append, List.nil_append, startsOperator_closed hc hcs.1 hcs.2 hangle,
          startsOperator_closed hc' hcs.1 hcs.2 hangle]
    | cons t ts => cases t <;> rfl
  | case3 c cs hne ih =>
    simp only [Bool.and_eq_true, bne_iff_ne, ne_eq] at hcs
    obtain ⟨⟨⟨hcomma, hsemi⟩, hangle⟩, hcs⟩ := hcs
    cases ts with
    | nil =>
      rw [List.nil_append, List.nil_append, startsOperator_closed hc hcomma hsemi hangle,
        startsOperator_closed hc' hcomma hsemi hangle]
    | cons t ts =>
      obtain ⟨d, cs, rfl⟩ := List.exists_cons_of_ne_nil hne
      cases t with
      | punct d joint s => simp [startsOperator, ih hcs ts]
      | _ => rfl

instance op_sees [Edge E] (s : String) [hs : KeepsIn s] : Sees E (op s) :=
  ⟨fun ts _ _ h => startsOperator_edge hs.keeps ts h⟩

theorem sees_angle {p : Probe} (hangle : ∀ joint s ts, p.test (.punct '>' joint s :: ts) = false)
    (hcons : ∀ t ts us, p.test (t :: ts) = p.test (t :: us)) : Sees AngleEdge p := by
  refine ⟨fun ts e e' ⟨h, h'⟩ => ?_⟩
  cases ts with
  | nil =>
    obtain ⟨joint, s, rest, rfl⟩ := startsOperator_one h
    obtain ⟨joint', s', rest', rfl⟩ := startsOperator_one h'
    exact (hangle _ _ _).trans (hangle _ _ _).symm
  | cons t ts => exact hcons _ _ _

instance comma_sees_angle : Sees AngleEdge (op ",") :=
  sees_angle (fun _ _ _ => rfl) fun t _ _ => by cases t <;> rfl

instance brace_sees_angle : Sees AngleEdge brace :=
  sees_angle (fun _ _ _ => rfl) fun t _ _ => by cases t <;> rfl

/-! ## Rules -/

/-- What the rule does not reach may be exchanged. -/
class Local (E : List Tree → List Tree → Prop) (r : Rule α) : Prop where
  step : ∀ {ts e e' us w l a w' l'}, E e e' → r ⟨ts ++ e, w, l⟩ = .ok (a, ⟨us ++ e, w', l'⟩) →
    r ⟨ts ++ e', w, l⟩ = .ok (a, ⟨us ++ e', w', l'⟩)

theorem Local.taken {r : Rule α} (hr : Local E r) {ts e e' w w' : List Tree} {l l' : Option Delimiter} {a : α}
    (he : E e e') (h : r ⟨ts ++ e, w, l⟩ = .ok (a, ⟨e, w', l'⟩)) :
    r ⟨ts ++ e', w, l⟩ = .ok (a, ⟨e', w', l'⟩) :=
  @Local.step α E r hr ts e e' [] w l a w' l' he h

instance bind_local {x : Rule α} {f : α → Rule β} [hx : Local E x] [hf : ∀ a, Local E (f a)]
    [hforward : ∀ a base, Forward base (f a)] : Local E (x >>= f) := by
  refine ⟨fun {ts e e' us w l b w' l'} he h => ?_⟩
  obtain ⟨a, ⟨rest, w₁, l₁⟩, h₁, h₂⟩ := bind_eq_ok.1 h
  obtain ⟨zs, hzs⟩ := ((hforward a _).step (.refl _) h₂).suffix
  obtain rfl : rest = (zs ++ us) ++ e := by simpa using hzs.symm
  exact bind_eq_ok.2 ⟨a, _, hx.step he h₁, (hf a).step he h₂⟩

instance bind_pair_local {γ : Type} {x : Rule (α × γ)} {f : α × γ → Rule β} [Local E x]
    [hf : ∀ a b, Local E (f (a, b))] [hforward : ∀ a b base, Forward base (f (a, b))] :
    Local E (x >>= f) := by
  have : ∀ p, Local E (f p) := fun p => hf p.1 p.2
  have : ∀ p base, Forward base (f p) := fun p base => hforward p.1 p.2 base
  exact bind_local

instance ite_local {p : Prop} [Decidable p] {x y : Rule α} [hx : Local E x] [hy : Local E y] :
    Local E (if p then x else y) := by
  split
  · exact hx
  · exact hy

/-- The rule only looks, and sees the same. -/
class Looks (E : List Tree → List Tree → Prop) (r : Rule α) : Prop where
  look : ∀ ts w l {e e'}, E e e' → ∃ a, r ⟨ts ++ e, w, l⟩ = .ok (a, ⟨ts ++ e, w, l⟩) ∧
    r ⟨ts ++ e', w, l⟩ = .ok (a, ⟨ts ++ e', w, l⟩)

theorem Looks.of_still {r : Rule α} (f : List Tree → α) (h : ∀ c, r c = .ok (f c.rest, c))
    (hf : ∀ ts {e e'}, E e e' → f (ts ++ e) = f (ts ++ e')) : Looks E r := by
  refine ⟨fun ts w l e e' he => ⟨f (ts ++ e), h _, ?_⟩⟩
  rw [h, hf ts he]

instance pure_looks (a : α) : Looks E (pure a : Rule α) :=
  .of_still (fun _ => a) (fun _ => rfl) fun _ _ _ _ => rfl
instance peek_looks (p : Probe) [hp : Sees E p] : Looks E (peek p) :=
  .of_still p.test (run_peek p) fun ts _ _ h => hp.eq ts h
instance peekAny_looks (ps : List Probe) [hps : SeesAny E ps] : Looks E (peekAny ps) :=
  .of_still (fun ts => ps.any (·.test ts)) (run_peekAny ps) fun ts _ _ h => hps.eq ts h

instance atEnd_looks_angle : Looks AngleEdge atEnd := by
  refine .of_still List.isEmpty run_atEnd fun ts e e' ⟨h, h'⟩ => ?_
  obtain ⟨joint, s, rest, rfl⟩ := startsOperator_one h
  obtain ⟨joint', s', rest', rfl⟩ := startsOperator_one h'
  cases ts <;> rfl

instance bind_looks {x : Rule α} {f : α → Rule β} [hx : Looks E x] [hf : ∀ a, Looks E (f a)] :
    Looks E (x >>= f) := by
  refine ⟨fun ts w l e e' he => ?_⟩
  obtain ⟨a, ha, ha'⟩ := hx.look ts w l he
  obtain ⟨b, hb, hb'⟩ := (hf a).look ts w l he
  exact ⟨b, bind_eq_ok.2 ⟨a, _, ha, hb⟩, bind_eq_ok.2 ⟨a, _, ha', hb'⟩⟩

instance (priority := high) look_bind_local {x : Rule α} {f : α → Rule β} [hx : Looks E x]
    [hf : ∀ a, Local E (f a)] : Local E (x >>= f) := by
  refine ⟨fun {ts e e' us w l a w' l'} he h => ?_⟩
  obtain ⟨b, hb, hb'⟩ := hx.look ts w l he
  rw [run_bind, hb, andThen_ok] at h
  exact bind_eq_ok.2 ⟨b, _, hb', (hf b).step he h⟩

instance Looks.local (r : Rule α) [hr : Looks E r] : Local E r := by
  refine ⟨fun {ts e e' us w l a w' l'} he h => ?_⟩
  obtain ⟨b, hb, hb'⟩ := hr.look ts w l he
  rw [hb] at h
  simp only [Except.ok.injEq, Prod.mk.injEq, Cursor.mk.injEq, List.append_cancel_right_eq] at h
  obtain ⟨rfl, rfl, rfl, rfl⟩ := h
  exact hb'

instance fail_local (e : Complaint) : Local E (fail e : Rule α) := by
  refine ⟨fun _ h => ?_⟩
  cases h

instance unmet_local (ps : List Probe) : Local E (unmet ps : Rule α) := by
  refine ⟨fun _ h => ?_⟩
  obtain ⟨_, _, _, h⟩ := bind_eq_ok.1 h
  cases h

instance (priority := high) unmet_bind_local (ps : List Probe) (f : α → Rule β) :
    Local E (unmet ps >>= f) := by
  refine ⟨fun _ h => ?_⟩
  obtain ⟨_, _, h, _⟩ := bind_eq_ok.1 h
  obtain ⟨_, _, _, h⟩ := bind_eq_ok.1 h
  cases h

instance complain_local (text : String) : Local E (complain text : Rule α) := by
  refine ⟨fun _ h => ?_⟩
  obtain ⟨_, _, _, h⟩ := bind_eq_ok.1 h
  cases h

instance write_local (out : List Tree) : Local E (write out) := by
  refine ⟨fun {ts e e' us w l a w' l'} _ h => ?_⟩
  rw [run_write] at h ⊢
  simp only [Except.ok.injEq, Prod.mk.injEq, Cursor.mk.injEq, List.append_cancel_right_eq] at h
  obtain ⟨-, rfl, rfl, rfl⟩ := h
  rfl

instance leave_local (missed : Option Delimiter) : Local E (leave missed) := by
  refine ⟨fun {ts e e' us w l a w' l'} _ h => ?_⟩
  rw [run_leave] at h ⊢
  simp only [Except.ok.injEq, Prod.mk.injEq, Cursor.mk.injEq, List.append_cancel_right_eq] at h
  obtain ⟨-, rfl, rfl, rfl⟩ := h
  rfl

instance Takes.local (r : Rule α) [hr : Takes r] : Local E r := by
  refine ⟨fun {ts e e' us w l a w' l'} _ h => ?_⟩
  obtain ⟨t, piece, out, hc, hall⟩ := hr.step h
  simp only [← List.append_assoc, List.append_cancel_right_eq] at hc
  subst hc
  have hrun := hall (us ++ e) w l
  rw [← List.append_assoc, h] at hrun
  simp only [Except.ok.injEq, Prod.mk.injEq, Cursor.mk.injEq, true_and] at hrun
  obtain ⟨rfl, rfl⟩ := hrun
  rw [List.append_assoc]
  exact hall (us ++ e') w l'

instance enter_local (d : Delimiter) (body : Rule α) : Local E (enter d body) := by
  refine ⟨fun {ts e e' us w l a w' l'} _ h => ?_⟩
  obtain ⟨content, s, rest, inner, hc, hinner, hmissed, hc'⟩ := enter_eq_ok.1 h
  simp only [Cursor.mk.injEq] at hc'
  obtain ⟨rfl, rfl, rfl⟩ := hc'
  obtain rfl : ts = .group d content s :: us :=
    List.append_cancel_right (hc.trans (List.cons_append).symm)
  exact enter_eq_ok.2 ⟨content, s, us ++ e', inner, rfl, hinner, hmissed, rfl⟩

instance within_local (d : Delimiter) (body : Rule α) : Local E (within d body) := by
  unfold within; infer_instance

instance eatOp?_local (s : String) [Operator s] [Sees E (op s)] : Local E (eatOp? s) := by
  unfold eatOp?; infer_instance
instance eatWord?_local [Edge E] (w : String) : Local E (eatWord? w) := by
  unfold eatWord?; infer_instance
instance eatLifetime?_local [Edge E] : Local E eatLifetime? := by
  unfold eatLifetime?; infer_instance

instance withhold_local (r : Rule α) [hr : Local E r] : Local E (withhold r) := by
  refine ⟨fun {ts e e' us w l a w' l'} he h => ?_⟩
  unfold withhold at h ⊢
  split at h
  · cases h
  · next a inner hinner =>
    obtain ⟨rest, w₁, l₁⟩ := inner
    simp only [Except.ok.injEq, Prod.mk.injEq, Cursor.mk.injEq] at h
    obtain ⟨rfl, rfl, rfl, rfl⟩ := h
    rw [run_self, hr.step he hinner]

instance held_local (r : Rule α) [Local E r] : Local E (held r) := by
  unfold held; infer_instance

instance keeping_local (r : Rule (Kept α)) [hr : Local E r] [hf : ∀ base, Forward base r] :
    Local E (keeping r) := by
  refine ⟨fun {ts e e' us w l a w' l'} he h => ?_⟩
  unfold keeping at h ⊢
  split at h
  · cases h
  · next k inner hinner =>
    obtain ⟨rest, w₁, l₁⟩ := inner
    simp only [Except.ok.injEq, Prod.mk.injEq, Cursor.mk.injEq] at h
    obtain ⟨rfl, rfl, rfl, rfl⟩ := h
    obtain ⟨zs, hzs⟩ := ((hf _).step (.refl _) hinner).suffix
    obtain rfl : ts = zs ++ us := by simpa [← List.append_assoc] using hzs.symm
    rw [run_self, hr.step he hinner]
    have htake (e : List Tree) : (zs ++ us ++ e).take ((zs ++ us ++ e).length - (us ++ e).length) = zs := by
      simp
    simp only [htake]

/-! ### Loops -/

/-- When another round follows, the rule has left fewer trees. -/
class Shrinks (r : Rule (Progress σ)) : Prop where
  step : ∀ {c s c'}, r c = .ok (.again s, c') → c'.size < c.size

instance (priority := low) Eats.shrinks (r : Rule (Progress σ)) [hr : Eats r] : Shrinks r :=
  ⟨fun h => hr.step h⟩

instance done_shrinks (s : σ) : Shrinks (pure (.done s)) := by
  refine ⟨fun h => ?_⟩
  cases h

instance ite_shrinks {p : Prop} [Decidable p] {x y : Rule (Progress σ)} [hx : Shrinks x]
    [hy : Shrinks y] : Shrinks (if p then x else y) := by
  split
  · exact hx
  · exact hy

instance (priority := high) ite_false_shrinks {_ : Decidable (false = true)}
    {x y : Rule (Progress σ)} [hy : Shrinks y] : Shrinks (if false = true then x else y) := by
  simpa using hy

instance bind_shrinks {x : Rule α} {f : α → Rule (Progress σ)} [hx : ∀ base, Forward base x]
    [hf : ∀ a, Shrinks (f a)] : Shrinks (x >>= f) := by
  refine ⟨fun {c _ _} h => ?_⟩
  obtain ⟨a, c₁, h₁, h₂⟩ := bind_eq_ok.1 h
  have hle := ((hx c).step (.refl c) h₁).size_le
  exact Nat.lt_of_lt_of_le ((hf a).step h₂) hle

instance bind_pair_shrinks {γ : Type} {x : Rule (α × γ)} {f : α × γ → Rule (Progress σ)}
    [∀ base, Forward base x] [hf : ∀ a b, Shrinks (f (a, b))] : Shrinks (x >>= f) := by
  have : ∀ p, Shrinks (f p) := fun p => hf p.1 p.2
  exact bind_shrinks

/-- As `Shrinks`, for a loop that goes on at `true`. -/
class ShrinksIf (r : Rule Bool) : Prop where
  step : ∀ {c c'}, r c = .ok (true, c') → c'.size < c.size

instance eatOp?_shrinksIf (s : String) [Operator s] : ShrinksIf (eatOp? s) := by
  refine ⟨fun {c c'} h => ?_⟩
  rw [run_eatOp?] at h
  split at h
  · obtain ⟨u, c₁, hs, h⟩ := andThen_eq_ok.1 h
    cases h
    exact Eats.step hs
  · cases h

instance false_shrinksIf : ShrinksIf (pure false) := by
  refine ⟨fun h => ?_⟩
  cases h

instance ite_shrinksIf {p : Prop} [Decidable p] {x y : Rule Bool} [hx : ShrinksIf x]
    [hy : ShrinksIf y] : ShrinksIf (if p then x else y) := by
  split
  · exact hx
  · exact hy

instance bind_shrinksIf {x : Rule α} {f : α → Rule Bool} [hx : ∀ base, Forward base x]
    [hf : ∀ a, ShrinksIf (f a)] : ShrinksIf (x >>= f) := by
  refine ⟨fun {c _} h => ?_⟩
  obtain ⟨a, c₁, h₁, h₂⟩ := bind_eq_ok.1 h
  have hle := ((hx c).step (.refl c) h₁).size_le
  exact Nat.lt_of_lt_of_le ((hf a).step h₂) hle

instance bind_if_shrinks {x : Rule Bool} {f : Bool → Rule (Progress σ)} [hx : ShrinksIf x]
    [hforward : ∀ base, Forward base x] [ht : ∀ base, Forward base (f true)]
    [hf : Shrinks (f false)] : Shrinks (x >>= f) := by
  refine ⟨fun {c _ _} h => ?_⟩
  obtain ⟨b, c₁, h₁, h₂⟩ := bind_eq_ok.1 h
  cases b with
  | true => exact Nat.lt_of_le_of_lt ((ht c₁).step (.refl c₁) h₂).size_le (hx.step h₁)
  | false => exact Nat.lt_of_lt_of_le (hf.step h₂) ((hforward c).step (.refl c) h₁).size_le

theorem length_lt_of_size {c c' : Cursor} (h : c.Leads c') (hlt : c'.size < c.size) :
    c'.rest.length < c.rest.length := by
  obtain ⟨zs, hzs⟩ := h.suffix
  cases zs with
  | nil =>
    rw [List.nil_append] at hzs
    simp [Cursor.size, hzs] at hlt
  | cons z zs =>
    rw [← hzs, List.length_append, List.length_cons]
    omega

theorem iterateFor_local {body : σ → Rule (Progress σ)} [hb : ∀ s, Local E (body s)]
    [hf : ∀ s base, Forward base (body s)] [hs : ∀ s, Shrinks (body s)] {e e' : List Tree}
    (he : E e e') {n m : Nat} {ts us w w' : List Tree} {l l' : Option Delimiter} {s s' : σ}
    (hn : (ts ++ e).length < n) (hm : ts.length < m)
    (h : iterateFor n s body ⟨ts ++ e, w, l⟩ = .ok (s', ⟨us ++ e, w', l'⟩)) :
    iterateFor m s body ⟨ts ++ e', w, l⟩ = .ok (s', ⟨us ++ e', w', l'⟩) := by
  -- Each round but the last takes a tree, so neither bound is what ends the loop.
  induction n generalizing m ts w l s with
  | zero => omega
  | succ n ih =>
    obtain ⟨m, rfl⟩ := Nat.exists_eq_succ_of_ne_zero (Nat.ne_zero_of_lt hm)
    obtain ⟨p, ⟨rest, w₁, l₁⟩, hround, hnext⟩ := bind_eq_ok.1 h
    cases p with
    | done s₁ =>
      cases hnext
      exact bind_eq_ok.2 ⟨.done s', _, (hb s).step he hround, rfl⟩
    | again s₁ =>
      have hforward : Forward ⟨rest, w₁, l₁⟩ (iterateFor n s₁ body) := iterateFor_forward n s₁ body
      obtain ⟨zs, hzs⟩ := (hforward.step (.refl _) hnext).suffix
      obtain rfl : rest = (zs ++ us) ++ e := by simpa using hzs.symm
      have hlt := length_lt_of_size (((hf s _).step (.refl _) hround)) ((hs s).step hround)
      simp only [List.length_append] at hlt hn
      refine bind_eq_ok.2 ⟨.again s₁, _, (hb s).step he hround, ih ?_ ?_ hnext⟩
      · simp only [List.length_append]
        omega
      · simp only [List.length_append]
        omega

instance iterate_local (s : σ) (body : σ → Rule (Progress σ)) [∀ s, Local E (body s)]
    [∀ s base, Forward base (body s)] [∀ s, Shrinks (body s)] : Local E (iterate s body) := by
  refine ⟨fun {ts e e' us w l a w' l'} he h => ?_⟩
  refine iterateFor_local he (Nat.lt_succ_self _) ?_ h
  simp only [List.length_append]
  omega

instance loop_local (body : Rule Bool) [Local E body] [∀ base, Forward base body]
    [ShrinksIf body] : Local E (loop body) := by
  unfold loop; infer_instance

/-! ### Looking further ahead -/

theorem skipOne_append {ts : List Tree} (hts : ts ≠ []) :
    ∃ zs, ∀ e, Closed e → skipOne (ts ++ e) = zs ++ e := by
  match ts with
  | [t] =>
    refine ⟨[], fun e he => ?_⟩
    rw [List.singleton_append, List.nil_append]
    unfold skipOne
    split
    · next heq =>
      cases heq
      cases he
    · next heq =>
      cases heq
      rfl
    · next heq => cases heq
  | t :: u :: ts =>
    cases t with
    | punct c joint s =>
      by_cases hquote : c = '\''
      · subst hquote
        cases joint with
        | false => exact ⟨u :: ts, fun e _ => rfl⟩
        | true =>
          cases u with
          | ident i => exact ⟨ts, fun e _ => rfl⟩
          | _ => exact ⟨_ :: ts, fun e _ => rfl⟩
      · exact ⟨u :: ts, fun e _ => skipOne_punct joint s _ hquote⟩
    | _ => exact ⟨u :: ts, fun e _ => rfl⟩

section Second

variable [Edge E] {p q : Probe} [hp : Sees E p] [hq : Sees E q]
  (hclosed : ∀ {e}, Closed e → p.test e = false)

include hclosed

omit hp in
theorem second_eq {ts e e' : List Tree} (he : E e e') (hts : p.test (ts ++ e) = true) :
    q.test (skip 1 (ts ++ e)) = q.test (skip 1 (ts ++ e')) := by
  obtain ⟨hc, hc'⟩ := Edge.closed he
  have hne : ts ≠ [] := by
    rintro rfl
    rw [List.nil_append, hclosed hc] at hts
    cases hts
  obtain ⟨zs, hzs⟩ := skipOne_append hne
  simp only [skip_succ, skip_zero, hzs e hc, hzs e' hc', hq.eq zs he]

theorem peek_peek2_looks : Looks E (do return (← peek p) && (← peek2 q)) := by
  refine .of_still (fun ts => p.test ts && q.test (skip 1 ts)) (fun c => ?_) fun ts e e' he => ?_
  · simp only [run_bind, run_peek, run_peek2, andThen_ok, run_pure]
  rw [← hp.eq ts he]
  cases hts : p.test (ts ++ e) with
  | false => rfl
  | true => rw [second_eq hclosed he hts]

theorem peek_peek2_local {f : Bool → Bool → Rule β} (hf : ∀ a b, Local E (f a b))
    (hfalse : f false true = f false false) :
    Local E (peek p >>= fun a => peek2 q >>= fun b => f a b) := by
  refine ⟨fun {ts e e' us w l a w' l'} he h => ?_⟩
  simp only [run_bind, run_peek, run_peek2, andThen_ok] at h ⊢
  rw [← hp.eq ts he]
  cases hts : p.test (ts ++ e) with
  | false =>
    have hfalse (b : Bool) : f false b = f false false := by cases b <;> simp [hfalse]
    rw [hts, hfalse] at h
    rw [hfalse]
    exact (hf _ _).step he h
  | true =>
    rw [hts, second_eq hclosed he hts] at h
    exact (hf _ _).step he h

end Second

theorem starts_colons {ts : List Tree} (h : startsOperator [':', ':'] ts = true) :
    ∃ s joint s' rest, ts = .punct ':' true s :: .punct ':' joint s' :: rest := by
  obtain ⟨s, us, rfl, hmore⟩ := startsOperator_more h
  obtain ⟨joint, s', rest, rfl⟩ := startsOperator_one hmore
  exact ⟨s, joint, s', rest, rfl⟩

/-- As `Local`, where these trees come first. -/
def LocalFrom (E : List Tree → List Tree → Prop) (ts : List Tree) (r : Rule α) : Prop :=
  ∀ {e e' us w l a w' l'}, E e e' → r ⟨ts ++ e, w, l⟩ = .ok (a, ⟨us ++ e, w', l'⟩) →
    r ⟨ts ++ e', w, l⟩ = .ok (a, ⟨us ++ e', w', l'⟩)

theorem Local.fromTrees {r : Rule α} (h : Local E r) (ts : List Tree) : LocalFrom E ts r := h.step

theorem peek_peek3_local [Edge E] {q : Probe} [hq : Sees E q] {f : Bool → Bool → Rule β}
    (hf : Local E (f false false)) (hfalse : f false true = f false false)
    (ht : ∀ b s joint s' zs,
      LocalFrom E (.punct ':' true s :: .punct ':' joint s' :: zs) (f true b)) :
    Local E (peek (op "::") >>= fun a => peek3 q >>= fun b => f a b) := by
  refine ⟨fun {ts e e' us w l a w' l'} he h => ?_⟩
  obtain ⟨hc, hc'⟩ := Edge.closed he
  simp only [run_bind, run_peek, run_peek3, andThen_ok] at h ⊢
  rw [← (op_sees "::").eq ts he]
  have hfalse (b : Bool) : f false b = f false false := by cases b <;> simp [hfalse]
  cases hts : (op "::").test (ts ++ e) with
  | false =>
    rw [hts, hfalse] at h
    rw [hfalse]
    exact hf.step he h
  | true =>
    obtain ⟨s, joint, s', rest, hrest⟩ := starts_colons hts
    match ts, hrest with
    | [], hrest =>
      obtain rfl : e = _ := hrest
      cases hc
    | [_], hrest =>
      obtain ⟨rfl, rfl⟩ := List.cons.inj hrest
      cases hc
    | _ :: _ :: zs, hrest =>
      cases hrest
      have hthird : q.test (skip 2 (.punct ':' true s :: .punct ':' joint s' :: zs ++ e)) =
          q.test (skip 2 (.punct ':' true s :: .punct ':' joint s' :: zs ++ e')) := hq.eq zs he
      rw [hts, hthird] at h
      exact ht _ s joint s' zs he h

/-! ### Up to a closing bracket -/

/-- The rule takes a closing angle bracket and nothing else. -/
class Closes (r : Rule α) : Prop where
  step : ∀ {c a c'}, r c = .ok (a, c') → ∃ joint s out, c.rest = .punct '>' joint s :: c'.rest ∧
    ∀ rest, r ⟨.punct '>' joint s :: rest, c.written, c.leftover⟩ = .ok (a, ⟨rest, out, c.leftover⟩)

instance eatOp_closes : Closes (eatOp ">") := by
  refine ⟨fun {c a c'} h => ?_⟩
  obtain ⟨joint, s, ts, hc, rfl⟩ := (eatOp_one (d := '>') (by decide) (by decide)).1 h
  refine ⟨joint, s, .punct '>' false s :: c.written, hc, fun rest => ?_⟩
  exact (eatOp_one (d := '>') (by decide) (by decide)).2 ⟨joint, s, rest, rfl, rfl⟩

instance held_closes (r : Rule α) [hr : Closes r] : Closes (held r) := by
  refine ⟨fun {c a c'} h => ?_⟩
  obtain ⟨⟨b, out⟩, c₁, hb, h⟩ := bind_eq_ok.1 h
  cases h
  unfold withhold at hb
  split at hb
  · cases hb
  · next b inner hinner =>
    obtain ⟨rest, w, l⟩ := inner
    obtain ⟨joint, s, out', hc, hall⟩ := hr.step hinner
    cases hb
    have hrun := hall rest
    rw [← hc] at hrun
    cases hinner.symm.trans hrun
    refine ⟨joint, s, c.written, hc, fun rest => ?_⟩
    simp only [held, withhold, run_bind, run_self, hall rest, andThen_ok, run_pure]

instance write_closes {out : List Tree} {r : Unit → Rule β} [hr : Closes (r ())] :
    Closes (write out >>= r) := by
  refine ⟨fun {c a c'} h => ?_⟩
  rw [run_bind, run_write, andThen_ok] at h
  obtain ⟨joint, s, out', hc, hall⟩ := hr.step h
  refine ⟨joint, s, out', hc, fun rest => ?_⟩
  rw [run_bind, run_write, andThen_ok]
  exact hall rest

instance closes_pure {r : Rule α} {f : α → β} [hr : Closes r] : Closes (r >>= fun a => pure (f a)) := by
  refine ⟨fun {c b c'} h => ?_⟩
  obtain ⟨a, c₁, ha, h⟩ := bind_eq_ok.1 h
  cases h
  obtain ⟨joint, s, out, hc, hall⟩ := hr.step ha
  refine ⟨joint, s, out, hc, fun rest => ?_⟩
  rw [run_bind, hall, andThen_ok, run_pure]

theorem closing_local {x : Rule α} {f : α → Rule β} [hx : Local AngleEdge x]
    [hforward : ∀ base, Forward base x] [hf : ∀ a, Closes (f a)] : Local E (x >>= f) := by
  -- What comes after the closing bracket makes no difference at all.
  refine ⟨fun {ts e e' us w l b w' l'} _ h => ?_⟩
  obtain ⟨a, ⟨rest, w₁, l₁⟩, h₁, h₂⟩ := bind_eq_ok.1 h
  obtain ⟨joint, s, out, hrest, hall⟩ := (hf a).step h₂
  obtain rfl : rest = .punct '>' joint s :: (us ++ e) := hrest
  obtain ⟨zs, hzs⟩ := ((hforward _).step (.refl _) h₁).suffix
  obtain rfl : ts = zs ++ .punct '>' joint s :: us := by
    refine List.append_cancel_right (hzs.symm.trans ?_)
    simp
  cases h₂.symm.trans (hall (us ++ e))
  rw [List.append_assoc] at h₁ ⊢
  have hedge : AngleEdge (.punct '>' joint s :: (us ++ e)) (.punct '>' joint s :: (us ++ e')) := ⟨rfl, rfl⟩
  exact bind_eq_ok.2 ⟨a, _, hx.taken hedge h₁, hall (us ++ e')⟩

end Rule

end FetchKit.Grammar
