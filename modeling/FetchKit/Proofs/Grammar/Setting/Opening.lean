import FetchKit.Proofs.Grammar.Setting.Matching

/-!
# What follows a colon

A colon ends an operator unless the next one belongs to it. Nothing that can follow a colon starts with
another, so the rules that read one colon do not take `::` apart.
-/

namespace FetchKit.Grammar

open FetchKit.Source Rule

namespace Rule

variable {α β : Type} {place : Place} {base : Cursor}

/-- The rule does not succeed in front of a colon, unless it is part of `::`. -/
class Opens (r : Rule α) : Prop where
  step : ∀ {c a c'}, r c = .ok (a, c') → loneColon c.rest = false

/-- In front of such a colon the rule reads nothing. -/
class Passes (r : Rule α) : Prop where
  step : ∀ {c a c'}, r c = .ok (a, c') → loneColon c.rest = true → c' = c

instance still_passes (r : Rule α) [hr : Still r] : Passes r := ⟨fun h _ => hr.step h⟩

instance (priority := low) opens_passes (r : Rule α) [hr : Opens r] : Passes r := by
  refine ⟨fun h hcolon => ?_⟩
  rw [hr.step h] at hcolon
  cases hcolon

instance bind_passes {x : Rule α} {f : α → Rule β} [hx : Passes x] [hf : ∀ a, Passes (f a)] :
    Passes (x >>= f) := by
  refine ⟨fun h hcolon => ?_⟩
  obtain ⟨a, c₁, h₁, h₂⟩ := bind_eq_ok.1 h
  obtain rfl := hx.step h₁ hcolon
  exact (hf a).step h₂ hcolon

instance ite_passes {p : Prop} [Decidable p] {x y : Rule α} [hx : Passes x] [hy : Passes y] :
    Passes (if p then x else y) := by
  split
  · exact hx
  · exact hy

instance bind_opens {x : Rule α} {f : α → Rule β} [hx : Opens x] : Opens (x >>= f) := by
  refine ⟨fun h => ?_⟩
  obtain ⟨a, c₁, h₁, -⟩ := bind_eq_ok.1 h
  exact hx.step h₁

instance passes_bind_opens {x : Rule α} {f : α → Rule β} [hx : Passes x] [hf : ∀ a, Opens (f a)] :
    Opens (x >>= f) := by
  refine ⟨fun {c b c'} h => ?_⟩
  obtain ⟨a, c₁, h₁, h₂⟩ := bind_eq_ok.1 h
  rw [← Bool.not_eq_true]
  intro hcolon
  obtain rfl := hx.step h₁ hcolon
  exact absurd hcolon (Bool.not_eq_true _ ▸ (hf a).step h₂)

instance ite_opens {p : Prop} [Decidable p] {x y : Rule α} [hx : Opens x] [hy : Opens y] :
    Opens (if p then x else y) := by
  split
  · exact hx
  · exact hy

instance fail_opens (e : Complaint) : Opens (fail e : Rule α) := by
  refine ⟨fun h => ?_⟩
  cases h

instance unmet_opens (ps : List Probe) : Opens (unmet ps : Rule α) := by
  unfold unmet; infer_instance

/-! ### Taking trees -/

instance eatWord_opens (w : String) : Opens (eatWord w) := by
  refine ⟨fun h => ?_⟩
  obtain ⟨i, ts, -, hc, -⟩ := eatWord_eq_ok.1 h
  rw [hc]
  rfl

instance eatName_opens : Opens eatName := by
  refine ⟨fun h => ?_⟩
  obtain ⟨-, ts, hc, -⟩ := eatName_eq_ok.1 h
  rw [hc]
  rfl

instance eatAnyIdent_opens : Opens eatAnyIdent := by
  refine ⟨fun h => ?_⟩
  obtain ⟨ts, hc, -⟩ := eatAnyIdent_eq_ok.1 h
  rw [hc]
  rfl

instance eatLifetime_opens : Opens eatLifetime := by
  refine ⟨fun h => ?_⟩
  obtain ⟨s, i, ts, hc, -⟩ := eatLifetime_eq_ok h
  rw [hc]
  rfl

theorem loneColon_of_starts {c : Char} {cs : List Char} {ts : List Tree}
    (h : startsOperator (c :: cs) ts = true) (hc : c ≠ ':') : loneColon ts = false := by
  unfold loneColon
  rw [Bool.and_eq_false_iff]
  left
  rw [← Bool.not_eq_true]
  intro hcolon
  obtain ⟨joint, s, us, rfl⟩ := startsOperator_one hcolon
  cases cs <;> simp [startsOperator, hc] at h

theorem eatOp_opens {s : String} (hs : ∀ ts, startsOperator s.toList ts = true → loneColon ts = false) :
    Opens (eatOp s) := by
  refine ⟨fun {c u c'} h => ?_⟩
  rw [run_eatOp] at h
  split at h
  · next hstarts => exact hs _ hstarts
  · cases h

instance : Opens (eatOp "?") := eatOp_opens fun _ h => loneColon_of_starts h (by decide)
instance : Opens (eatOp "!") := eatOp_opens fun _ h => loneColon_of_starts h (by decide)
instance : Opens (eatOp "*") := eatOp_opens fun _ h => loneColon_of_starts h (by decide)
instance : Opens (eatOp "&") := eatOp_opens fun _ h => loneColon_of_starts h (by decide)
instance : Opens (eatOp "+") := eatOp_opens fun _ h => loneColon_of_starts h (by decide)
instance : Opens (eatOp "<") := eatOp_opens fun _ h => loneColon_of_starts h (by decide)
instance : Opens (eatOp "...") := eatOp_opens fun _ h => loneColon_of_starts h (by decide)

instance eatColons_opens : Opens (eatOp "::") := eatOp_opens fun ts h => by
  obtain ⟨s, joint, s', rest, rfl⟩ := starts_colons h
  rfl

instance eatOp?_passes (s : String) [Opens (eatOp s)] : Passes (eatOp? s) := by
  unfold eatOp?; infer_instance
instance eatWord?_passes (w : String) : Passes (eatWord? w) := by
  unfold eatWord?; infer_instance

instance enter_opens (d : Delimiter) (body : Rule α) : Opens (enter d body) := by
  refine ⟨fun {c p c'} h => ?_⟩
  obtain ⟨content, s, ts, inner, hc, -⟩ := enter_eq_ok.1 h
  rw [hc]
  rfl

instance within_opens (d : Delimiter) (body : Rule α) : Opens (within d body) := by
  unfold within; infer_instance

instance keeping_opens (r : Rule (Kept α)) [hr : Opens r] : Opens (keeping r) := by
  refine ⟨fun {c a c'} h => ?_⟩
  obtain ⟨kept, inner, hinner, -⟩ := keeping_eq_ok h
  have hopens := hr.step hinner
  exact hopens

instance iterate_opens {σ : Type} (s : σ) (body : σ → Rule (Progress σ)) [hb : Opens (body s)] :
    Opens (iterate s body) := by
  refine ⟨fun {c a c'} h => ?_⟩
  rw [run_iterate] at h
  obtain ⟨p, c₁, hfirst, -⟩ := andThen_eq_ok.1 h
  exact hb.step hfirst

instance loop_opens (body : Rule Bool) [Opens body] : Opens (loop body) := by
  unfold loop; infer_instance

theorem loneColon_of_endsBounds {ts : List Tree} (h : endsBounds ts = true) : loneColon ts = false := by
  simp only [endsBounds, Bool.or_eq_true, List.isEmpty_iff] at h
  obtain (((((rfl | h) | h) | h) | h) | h) | h := h
  · rfl
  · exact loneColon_of_starts h (by decide)
  · exact loneColon_of_starts h (by decide)
  · exact loneColon_of_starts h (by decide)
  · exact loneColon_of_starts h (by decide)
  · unfold startsGroup at h
    split at h
    · rfl
    · cases h
  · unfold startsWord at h
    split at h
    · rfl
    · cases h

theorem stop_opens {stop x : Rule Bool} [hstill : Still stop] [hx : Opens x]
    (hstop : ∀ {c c'}, stop c = .ok (true, c') → endsBounds c.rest = true) :
    Opens (do if ← stop then return false else x) := by
  refine ⟨fun {c b c'} h => ?_⟩
  obtain ⟨stopped, c₁, hrun, h⟩ := bind_eq_ok.1 h
  obtain rfl := hstill.step hrun
  cases stopped with
  | true => exact loneColon_of_endsBounds (hstop hrun)
  | false => exact hx.step h

theorem boundsUntil_opens {bound : Rule BoundKind} {stop : Rule Bool} [Still stop] [Opens bound]
    (hstop : ∀ {c c'}, stop c = .ok (true, c') → endsBounds c.rest = true) :
    Opens (boundsUntil bound stop) :=
  @loop_opens _ (stop_opens hstop)

theorem peekAny_ends {ps : List Probe} (hps : ∀ ts, ps.any (·.test ts) = true → endsBounds ts = true)
    {c c' : Cursor} (h : peekAny ps c = .ok (true, c')) : endsBounds c.rest = true := by
  rw [run_peekAny, Except.ok.injEq, Prod.mk.injEq] at h
  exact hps _ h.1

/-! ### Passing a colon -/

instance iterate_passes {σ : Type} (s : σ) (body : σ → Rule (Progress σ)) [hb : ∀ s, Passes (body s)] :
    Passes (iterate s body) := by
  refine ⟨fun {c a c'} h hcolon => ?_⟩
  refine iterateFor_preserves (P := fun _ c₁ => c₁ = c) ?_ rfl h
  rintro s₁ c₁ p c₂ rfl hround
  exact (hb s₁).step hround hcolon

instance loop_passes (body : Rule Bool) [Passes body] : Passes (loop body) := by
  unfold loop; infer_instance

instance boundsUntil_passes (bound : Rule BoundKind) (stop : Rule Bool) [Passes bound] [Passes stop] :
    Passes (boundsUntil bound stop) := by
  unfold boundsUntil; infer_instance

theorem Passes.ends {r : Rule α} [hr : Passes r] {ts next w w' : List Tree} {a : α}
    (h : r ⟨ts, w, none⟩ = .ok (a, ⟨next, w', none⟩)) (hnext : endsOperator place ':' next = true) :
    endsOperator place ':' ts = true := by
  cases place with
  | code => rfl
  | type =>
    refine endsOperator_colon ?_
    rw [← Bool.not_eq_true]
    intro hcolon
    obtain rfl := (Cursor.mk.inj (hr.step h hcolon)).1
    simp [endsOperator, hcolon] at hnext

/-! ### Setting a colon -/

/-- A colon in front of something. -/
instance colon_bind_resets {f : Unit → Rule β} [hf : ∀ base, Resets place base (f ())]
    [ho : Opens (f ())] : Resets place base (eatOp ":" >>= f) := by
  refine .of_here fun {c b c'} h => ?_
  obtain ⟨u, c₁, hcolon, h⟩ := bind_eq_ok.1 h
  obtain ⟨joint, s, ts, hc, rfl⟩ := (eatOp_one (d := ':') (by decide) (by decide)).1 hcolon
  have hends : endsOperator place ':' ts = true := endsOperator_colon (ho.step h)
  have hanew : Anew place c ⟨ts, .punct ':' false s :: c.written, c.leftover⟩ :=
    fun hl => ⟨hl, [.punct ':' joint s], [_], hc, rfl, .spacing ':' joint s hends⟩
  exact (hf c).step hanew h

instance colon?_bind_resets {x y : Rule β} [∀ base, Resets place base x]
    [hy : ∀ base, Resets place base y] [Opens x] :
    Resets place base (do if ← eatOp? ":" then x else y) := by
  have hcolon : ∀ base, Resets place base (eatOp ":" >>= fun _ => x) := fun _ => colon_bind_resets
  refine .of_here fun {c b c'} h => ?_
  obtain ⟨found, c₁, hfound, h⟩ := bind_eq_ok.1 h
  rw [run_eatOp?] at hfound
  split at hfound
  · obtain ⟨u, c₂, heat, hpure⟩ := andThen_eq_ok.1 hfound
    cases hpure
    exact (hcolon c).step (.refl c) (bind_eq_ok.2 ⟨u, _, heat, h⟩)
  · cases hfound
    exact (hy c).step (.refl c) h

end Rule

/-! ## Types -/

class Rules.Opens (g : Rules) : Prop where
  type : ∀ plus, Rule.Opens (g.type plus)
  binder : Rule.Opens g.binder

attribute [instance] Rules.Opens.type Rules.Opens.binder

section Types

variable (g : Rules) [g.Opens]

omit [g.Opens] in
instance segment_opens (inExpr : Bool) : Rule.Opens (segment g inExpr) := by
  unfold segment; infer_instance
omit [g.Opens] in
instance path_opens (inExpr : Bool) : Rule.Opens (path g inExpr) := by
  unfold path; infer_instance
omit [g.Opens] in
instance anyPath_opens (inExpr : Bool) : Rule.Opens (anyPath g inExpr) := by
  unfold anyPath; infer_instance

instance binder?_passes : Passes (binder? g) := by
  unfold binder?; infer_instance
set_option synthInstance.maxSize 2000 in
instance traitBound_opens (allowConst : Bool) : Rule.Opens (traitBound g allowConst) := by
  unfold traitBound; infer_instance
instance bound_opens (allowCapture allowConst : Bool) :
    Rule.Opens (bound g allowCapture allowConst) := by
  unfold bound preciseCapture; infer_instance
instance argumentBounds_opens :
    Rule.Opens (boundsUntil (bound g false true) (peekAny [op ",", op ">"])) :=
  boundsUntil_opens <| peekAny_ends fun ts h => by
    simp only [List.any_cons, List.any_nil, op_test] at h
    simp only [endsBounds]
    grind
instance objectBounds_opens (plus : Bool) : Rule.Opens (objectBounds g plus) := by
  unfold objectBounds boundList; infer_instance
instance bareFunction_opens : Rule.Opens (bareFunction g) := by
  unfold bareFunction abi? abi; infer_instance
instance parenType_opens (plus : Bool) : Rule.Opens (parenType g plus) := by
  unfold parenType; infer_instance
instance typeAfterPath_opens (plus binder : Bool) : Rule.Opens (typeAfterPath g plus binder) := by
  unfold typeAfterPath; infer_instance
omit [g.Opens] in
instance pointer_opens : Rule.Opens (pointer g) := by
  unfold pointer; infer_instance
omit [g.Opens] in
instance reference_opens : Rule.Opens (reference g) := by
  unfold reference; infer_instance
omit [g.Opens] in
instance arrayOrSlice_opens : Rule.Opens (arrayOrSlice g) := within_opens _ _
omit [g.Opens] in
instance builtin_opens : Rule.Opens builtin := by
  unfold builtin; infer_instance
instance keptType_opens (plus : Bool) : Rule.Opens (keptType g plus) := by
  unfold keptType
  repeat' first
    | refine @ite_opens _ _ _ _ _ ?_ ?_
    | exact @bind_opens _ _ _ _ inferInstance
    | refine @passes_bind_opens _ _ _ _ inferInstance fun _ => ?_
    | infer_instance
instance typeRule_opens (plus : Bool) : Rule.Opens (typeRule g plus) := by
  unfold typeRule; infer_instance
instance binderRule_opens : Rule.Opens (binderRule g) := by
  unfold binderRule; infer_instance

end Types

instance rules_opens (n : Nat) : (rules n).Opens := by
  induction n with
  | zero => constructor <;> intros <;> exact fail_opens _
  | succ n ih => constructor <;> intros <;> unfold rules <;> infer_instance

instance atDepth_opens {α : Type} {r : Nat → Rule α} [hr : ∀ n, Rule.Opens (r n)] :
    Rule.Opens (atDepth r) :=
  ⟨fun {c _ _} h => (hr (depthFor c.rest)).step h⟩

instance grammar_opens : grammar.Opens := by
  constructor <;> intros <;> unfold grammar <;> infer_instance

end FetchKit.Grammar
