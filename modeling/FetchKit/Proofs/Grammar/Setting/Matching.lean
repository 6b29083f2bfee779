import FetchKit.Proofs.Grammar.Setting.Rules
import FetchKit.Proofs.Grammar.Local

/-!
# Rules that read matching brackets

In what a rule for a type reads each angle bracket has its other.
-/

namespace FetchKit.Grammar

open FetchKit.Source Rule

namespace Rule

variable {α β σ : Type}

/-- The angle brackets match in what the rule reads. -/
class Matches (r : Rule α) : Prop where
  step : ∀ {c a c'}, r c = .ok (a, c') → ∃ read, c.rest = read ++ c'.rest ∧ Matched read

/-- As `Matches`, but for one bracket that closes another before it. -/
class Shuts (r : Rule α) : Prop where
  step : ∀ {c a c'}, r c = .ok (a, c') → ∃ front joint s back,
    c.rest = front ++ .punct '>' joint s :: back ++ c'.rest ∧ Matched front ∧ Matched back

theorem Matches.read {r : Rule α} [hr : Matches r] {ts rest w w' : List Tree}
    {l l' : Option Delimiter} {a : α} (h : r ⟨ts ++ rest, w, l⟩ = .ok (a, ⟨rest, w', l'⟩)) :
    Matched ts := by
  obtain ⟨read, hread, hmatched⟩ := hr.step h
  rwa [List.append_cancel_right hread]

theorem Writes.matched {r : Rule α} [Matches r] {next piece text : List Tree}
    (h : Writes r next piece text) : Matched piece := by
  obtain ⟨a, h⟩ := h
  exact Matches.read h

/-! ### Sequences of steps -/

instance still_matches (r : Rule α) [hr : Still r] : Matches r := by
  refine ⟨fun h => ?_⟩
  obtain rfl := hr.step h
  exact ⟨[], rfl, .nil⟩

instance bind_matches {x : Rule α} {f : α → Rule β} [hx : Matches x] [hf : ∀ a, Matches (f a)] :
    Matches (x >>= f) := by
  refine ⟨fun h => ?_⟩
  obtain ⟨a, c₁, h₁, h₂⟩ := bind_eq_ok.1 h
  obtain ⟨read, hread, hmatched⟩ := hx.step h₁
  obtain ⟨read', hread', hmatched'⟩ := (hf a).step h₂
  exact ⟨read ++ read', by rw [hread, hread', List.append_assoc], hmatched.append hmatched'⟩

instance (priority := high) bind_pair_matches {γ : Type} {x : Rule (α × γ)} {f : α × γ → Rule β}
    [Matches x] [hf : ∀ a b, Matches (f (a, b))] : Matches (x >>= f) := by
  have : ∀ p, Matches (f p) := fun p => hf p.1 p.2
  exact bind_matches

instance ite_matches {p : Prop} [Decidable p] {x y : Rule α} [hx : Matches x] [hy : Matches y] :
    Matches (if p then x else y) := by
  split
  · exact hx
  · exact hy

instance bind_shuts {x : Rule α} {f : α → Rule β} [hx : Matches x] [hf : ∀ a, Shuts (f a)] :
    Shuts (x >>= f) := by
  refine ⟨fun h => ?_⟩
  obtain ⟨a, c₁, h₁, h₂⟩ := bind_eq_ok.1 h
  obtain ⟨read, hread, hmatched⟩ := hx.step h₁
  obtain ⟨front, joint, s, back, hrest, hfront, hback⟩ := (hf a).step h₂
  exact ⟨read ++ front, joint, s, back, by simp [hread, hrest], hmatched.append hfront, hback⟩

instance shuts_bind {x : Rule α} {f : α → Rule β} [hx : Shuts x] [hf : ∀ a, Matches (f a)] :
    Shuts (x >>= f) := by
  refine ⟨fun h => ?_⟩
  obtain ⟨a, c₁, h₁, h₂⟩ := bind_eq_ok.1 h
  obtain ⟨front, joint, s, back, hrest, hfront, hback⟩ := hx.step h₁
  obtain ⟨read, hread, hmatched⟩ := (hf a).step h₂
  exact ⟨front, joint, s, back ++ read, by simp [hrest, hread], hfront, hback.append hmatched⟩

instance ite_shuts {p : Prop} [Decidable p] {x y : Rule α} [hx : Shuts x] [hy : Shuts y] :
    Shuts (if p then x else y) := by
  split
  · exact hx
  · exact hy

/-! ### Taking trees -/

theorem startsOperator_matched {cs : List Char} {ts : List Tree} (h : startsOperator cs ts = true)
    (hcs : (cs.all fun c => c != '<' && c != '>' && c != '-') = true) : Matched (ts.take cs.length) := by
  fun_induction startsOperator cs ts with
  | case1 => exact .nil
  | case2 c d joint s ts =>
    obtain rfl : c = d := eq_of_beq (Bool.and_eq_true_iff.1 h).1
    rw [List.all_cons, Bool.and_eq_true] at hcs
    exact .plain hcs.1 .nil
  | case3 c cs d joint s ts _ ih =>
    simp only [Bool.and_eq_true] at h
    obtain rfl : c = d := eq_of_beq h.1.1
    rw [List.all_cons, Bool.and_eq_true] at hcs
    exact .plain hcs.1 (ih h.2 hcs.2)
  | case4 => cases h

theorem eatOp_matches {s : String}
    (hs : (s.toList.all fun c => c != '<' && c != '>' && c != '-') = true) : Matches (eatOp s) := by
  refine ⟨fun {c u c'} h => ?_⟩
  rw [run_eatOp] at h
  split at h
  · next hstarts =>
    cases h
    exact ⟨_, (List.take_append_drop ..).symm, startsOperator_matched hstarts hs⟩
  · cases h

instance : Matches (eatOp "#") := eatOp_matches rfl
instance : Matches (eatOp ":") := eatOp_matches rfl
instance : Matches (eatOp "::") := eatOp_matches rfl
instance : Matches (eatOp ",") := eatOp_matches rfl
instance : Matches (eatOp "+") := eatOp_matches rfl
instance : Matches (eatOp "*") := eatOp_matches rfl
instance : Matches (eatOp "&") := eatOp_matches rfl
instance : Matches (eatOp "!") := eatOp_matches rfl
instance : Matches (eatOp "?") := eatOp_matches rfl
instance : Matches (eatOp "=") := eatOp_matches rfl

theorem starts_arrow {ts : List Tree} (h : startsOperator ['-', '>'] ts = true) :
    ∃ s joint s' rest, ts = .punct '-' true s :: .punct '>' joint s' :: rest := by
  obtain ⟨s, us, rfl, hmore⟩ := startsOperator_more h
  obtain ⟨joint, s', rest, rfl⟩ := startsOperator_one hmore
  exact ⟨s, joint, s', rest, rfl⟩

instance eatArrow_matches : Matches (eatOp "->") := by
  refine ⟨fun {c u c'} h => ?_⟩
  rw [run_eatOp] at h
  split at h
  · next hstarts =>
    obtain ⟨s, joint, s', rest, hrest⟩ := starts_arrow hstarts
    cases h
    exact ⟨[.punct '-' true s, .punct '>' joint s'], by rw [hrest]; rfl, .arrow .nil⟩
  · cases h

instance eatOp?_matches (s : String) [Matches (eatOp s)] : Matches (eatOp? s) := by
  unfold eatOp?; infer_instance

instance eatClosing_shuts : Shuts (eatOp ">") := by
  refine ⟨fun h => ?_⟩
  obtain ⟨joint, s, ts, hc, rfl⟩ := (eatOp_one (d := '>') (by decide) (by decide)).1 h
  exact ⟨[], joint, s, [], hc, .nil, .nil⟩

instance held_shuts (r : Rule α) [hr : Shuts r] : Shuts (held r) := by
  refine ⟨fun {c text c'} h => ?_⟩
  obtain ⟨ts, w, l⟩ := c
  obtain ⟨rest, w', l'⟩ := c'
  obtain ⟨rfl, a, hrun⟩ := held_eq_ok.1 h
  obtain ⟨front, joint, s, back, hrest, hmatched⟩ := hr.step hrun
  exact ⟨front, joint, s, back, hrest, hmatched⟩

theorem opening_matches {x : Rule α} {f : α → Rule β} [hf : ∀ a, Shuts (f a)]
    (hx : ∀ {c a c'}, x c = .ok (a, c') → ∃ joint s, c.rest = .punct '<' joint s :: c'.rest) :
    Matches (x >>= f) := by
  refine ⟨fun h => ?_⟩
  obtain ⟨a, c₁, h₁, h₂⟩ := bind_eq_ok.1 h
  obtain ⟨joint, s, hopen⟩ := hx h₁
  obtain ⟨front, joint', s', back, hrest, hfront, hback⟩ := (hf a).step h₂
  exact ⟨.punct '<' joint s :: front ++ .punct '>' joint' s' :: back, by simp [hopen, hrest],
    .angles hfront hback⟩

instance eatOpening_matches {f : Unit → Rule β} [∀ a, Shuts (f a)] : Matches (eatOp "<" >>= f) := by
  refine opening_matches fun h => ?_
  obtain ⟨joint, s, ts, hc, rfl⟩ := (eatOp_one (d := '<') (by decide) (by decide)).1 h
  exact ⟨joint, s, hc⟩

instance eatWord_matches (w : String) : Matches (eatWord w) := by
  refine ⟨fun h => ?_⟩
  obtain ⟨i, ts, -, hc, rfl⟩ := eatWord_eq_ok.1 h
  exact ⟨[.ident i], hc, matched_of_plain rfl⟩

instance eatName_matches : Matches eatName := by
  refine ⟨fun {c i c'} h => ?_⟩
  obtain ⟨-, ts, hc, rfl⟩ := eatName_eq_ok.1 h
  exact ⟨[.ident i], hc, matched_of_plain rfl⟩

instance eatAnyIdent_matches : Matches eatAnyIdent := by
  refine ⟨fun {c i c'} h => ?_⟩
  obtain ⟨ts, hc, rfl⟩ := eatAnyIdent_eq_ok.1 h
  exact ⟨[.ident i], hc, matched_of_plain rfl⟩

instance eatLifetime_matches : Matches eatLifetime := by
  refine ⟨fun h => ?_⟩
  obtain ⟨s, i, ts, hc, rfl⟩ := eatLifetime_eq_ok h
  exact ⟨[.punct '\'' true s, .ident i], hc, matched_of_plain rfl⟩

instance eatLiteral_matches : Matches eatLiteral := by
  refine ⟨fun {c u c'} h => ?_⟩
  obtain ⟨ts, w, l⟩ := c
  rw [eatLiteral, run_bind, run_trees, andThen_ok] at h
  dsimp only at h
  split at h
  · next text s ts =>
    cases h
    exact ⟨[.literal text s], rfl, matched_of_plain rfl⟩
  · next i ts =>
    obtain ⟨-, h⟩ | ⟨-, h⟩ := ite_taken h
    · cases h
      exact ⟨[.ident i], rfl, matched_of_plain rfl⟩
    · cases h
  · next joint s text t ts =>
    obtain ⟨-, h⟩ | ⟨-, h⟩ := ite_taken h
    · cases h
      exact ⟨[.punct '-' joint s, .literal text t], rfl, .minus .nil⟩
    · cases h
  · cases h

instance eatGroup_matches : Matches eatGroup := by
  refine ⟨fun {c d c'} h => ?_⟩
  obtain ⟨ts, w, l⟩ := c
  rw [eatGroup, run_bind, run_trees, andThen_ok] at h
  dsimp only at h
  split at h
  · next e content s ts =>
    cases h
    exact ⟨[.group d content s], rfl, matched_of_plain rfl⟩
  · cases h

instance eatWord?_matches (w : String) : Matches (eatWord? w) := by
  unfold eatWord?; infer_instance
instance eatLifetime?_matches : Matches eatLifetime? := by
  unfold eatLifetime?; infer_instance

theorem matches_of_stay {r : Rule α} (hr : ∀ {c a c'}, r c = .ok (a, c') → c'.rest = c.rest) :
    Matches r :=
  ⟨fun h => ⟨[], (hr h).symm, .nil⟩⟩

instance write_matches (ts : List Tree) : Matches (write ts) := matches_of_stay fun h => by
  cases h
  rfl

instance leave_matches (missed : Option Delimiter) : Matches (leave missed) := matches_of_stay fun h => by
  cases h
  rfl

/-! ### Groups -/

instance enter_matches (d : Delimiter) (body : Rule α) : Matches (enter d body) := by
  refine ⟨fun {c p c'} h => ?_⟩
  obtain ⟨content, s, ts, inner, hc, -, -, rfl⟩ := enter_eq_ok.1 h
  exact ⟨[.group d content s], hc, matched_of_plain rfl⟩

instance within_matches (d : Delimiter) (body : Rule α) : Matches (within d body) := by
  unfold within; infer_instance

/-! ### Loops and what is kept -/

instance withhold_matches (r : Rule α) [hr : Matches r] : Matches (withhold r) := by
  refine ⟨fun {c text c'} h => ?_⟩
  obtain ⟨ts, w, l⟩ := c
  obtain ⟨rest, w', l'⟩ := c'
  obtain ⟨rfl, hrun⟩ := withhold_eq_ok.1 h
  obtain ⟨read, hread, hmatched⟩ := hr.step hrun
  exact ⟨read, hread, hmatched⟩

instance held_matches (r : Rule α) [Matches r] : Matches (held r) := by
  unfold held; infer_instance

instance keeping_matches (r : Rule (Kept α)) [hr : Matches r] : Matches (keeping r) := by
  refine ⟨fun h => ?_⟩
  obtain ⟨kept, inner, hinner, rfl⟩ := keeping_eq_ok h
  obtain ⟨read, hread, hmatched⟩ := hr.step hinner
  exact ⟨read, hread, hmatched⟩

instance asWritten_matches (r : Rule α) [Matches r] : Matches (asWritten r) := by
  unfold asWritten; infer_instance

instance iterateFor_matches (n : Nat) (s : σ) (body : σ → Rule (Progress σ))
    [hb : ∀ s, Matches (body s)] : Matches (iterateFor n s body) := by
  induction n generalizing s with
  | zero =>
    unfold iterateFor
    infer_instance
  | succ n ih =>
    have hnext : ∀ p : Progress σ,
        Matches (match p with | .done s => pure s | .again s => iterateFor n s body) := by
      intro p
      cases p with
      | done s => infer_instance
      | again s => exact ih s
    have := hb s
    exact bind_matches

instance iterate_matches (s : σ) (body : σ → Rule (Progress σ)) [∀ s, Matches (body s)] :
    Matches (iterate s body) := by
  unfold iterate; infer_instance
instance loop_matches (body : Rule Bool) [Matches body] : Matches (loop body) := by
  unfold loop; infer_instance

end Rule

/-! ## Types -/

class Rules.Matches (g : Rules) : Prop where
  type : ∀ plus, Rule.Matches (g.type plus)
  angle : Rule.Matches g.angle
  binder : Rule.Matches g.binder

attribute [instance] Rules.Matches.type Rules.Matches.angle Rules.Matches.binder

section Types

variable (g : Rules)

instance plainBlock_matches : Rule.Matches (plainBlock g) := within_matches _ _
instance bracedBlock_matches : Rule.Matches (bracedBlock g) := within_matches _ _
instance outerAttributes_matches : Rule.Matches (outerAttributes g) := by
  unfold outerAttributes outerAttribute; infer_instance

variable [g.Matches]

instance constArgument_matches : Rule.Matches (constArgument g) := by
  unfold constArgument; infer_instance
instance binder?_matches : Rule.Matches (binder? g) := by
  unfold binder?; infer_instance
set_option synthInstance.maxSize 2000 in
instance preciseCapture_matches : Rule.Matches preciseCapture := by
  unfold preciseCapture; infer_instance
instance returnType_matches (plus : Bool) : Rule.Matches (returnType g plus) := by
  unfold returnType; infer_instance
set_option synthInstance.maxSize 2000 in
instance segment_matches (inExpr : Bool) : Rule.Matches (segment g inExpr) := by
  unfold segment; infer_instance
instance moreSegments_matches (inExpr : Bool) (segments : List Segment) :
    Rule.Matches (moreSegments g inExpr segments) := by
  unfold moreSegments; infer_instance
instance path_matches (inExpr : Bool) : Rule.Matches (path g inExpr) := by
  unfold path; infer_instance
set_option synthInstance.maxSize 20000 in
instance anyPath_matches (inExpr : Bool) : Rule.Matches (anyPath g inExpr) := by
  unfold anyPath; infer_instance

instance parenArguments?_matches (p : Path) : Rule.Matches (parenArguments? g p) := by
  have harguments : Rule.Matches (do
      let _ ← within .paren (terminated (g.type true))
      returnType g false) := inferInstance
  refine ⟨fun {c a c'} h => ?_⟩
  unfold parenArguments? at h
  simp only [run_bind, run_peek, run_peek3, andThen_ok] at h
  obtain ⟨-, h⟩ | ⟨-, h⟩ := ite_taken h
  · obtain ⟨hapart, h⟩ | ⟨-, h⟩ := ite_taken h
    · obtain ⟨u, c₁, hdrop, h⟩ := bind_eq_ok.1 h
      obtain ⟨ts, w, l⟩ := c
      obtain ⟨s, joint, s', rest, rfl⟩ := starts_colons (Bool.and_eq_true_iff.1 hapart).1
      cases hdrop
      obtain ⟨read, hread, hmatched⟩ := harguments.step h
      obtain rfl : rest = read ++ c'.rest := hread
      exact ⟨.punct ':' true s :: .punct ':' joint s' :: read, rfl, .plain rfl (.plain rfl hmatched)⟩
    · exact harguments.step h
  · cases h
    exact ⟨[], rfl, .nil⟩

set_option synthInstance.maxSize 2000 in
instance traitBound_matches (allowConst : Bool) : Rule.Matches (traitBound g allowConst) := by
  unfold traitBound; infer_instance
set_option synthInstance.maxSize 2000 in
instance bound_matches (allowCapture allowConst : Bool) :
    Rule.Matches (bound g allowCapture allowConst) := by
  unfold bound; infer_instance
instance boundsUntil_matches (bound : Rule BoundKind) (stop : Rule Bool) [Rule.Matches bound]
    [Rule.Matches stop] : Rule.Matches (boundsUntil bound stop) := by
  unfold boundsUntil; infer_instance

instance genericArgument_matches : Rule.Matches (genericArgument g) := by
  unfold genericArgument
  repeat' first
    | infer_instance
    | split
    | refine @bind_matches _ _ _ _ inferInstance fun _ => ?_

set_option synthInstance.maxSize 2000 in
instance angleRule_matches : Rule.Matches (angleRule g) := by
  unfold angleRule; infer_instance
instance callAfterPath_matches : Rule.Matches callAfterPath := by
  unfold callAfterPath; infer_instance
instance boundList_matches (plus allowCapture allowConst : Bool) :
    Rule.Matches (boundList g plus allowCapture allowConst) := by
  unfold boundList; infer_instance
instance objectBounds_matches (plus : Bool) : Rule.Matches (objectBounds g plus) := by
  unfold objectBounds; infer_instance
instance implBounds_matches (plus : Bool) : Rule.Matches (implBounds g plus) := by
  unfold implBounds; infer_instance
instance moreBounds_matches : Rule.Matches (moreBounds g) := by
  unfold moreBounds; infer_instance
instance boundsAfterPath_matches : Rule.Matches (boundsAfterPath g) := by
  unfold boundsAfterPath; infer_instance
instance abi_matches : Rule.Matches abi := by
  unfold abi; infer_instance
instance abi?_matches : Rule.Matches abi? := by
  unfold abi?; infer_instance
instance bareFunction_matches : Rule.Matches (bareFunction g) := by
  unfold bareFunction; infer_instance

instance unwrapLast_matches : Rule.Matches unwrapLast := matches_of_stay fun {c a c'} h => by
  cases h
  dsimp only
  split <;> rfl

instance parenType_matches (plus : Bool) : Rule.Matches (parenType g plus) := by
  unfold parenType
  refine @bind_pair_matches _ _ _ _ _ _ fun content missed => ?_
  cases content with
  | type shape =>
    cases shape with
    | bounds lone => cases lone <;> infer_instance
    | _ => infer_instance
  | _ => infer_instance

instance typeAfterPath_matches (plus binder : Bool) : Rule.Matches (typeAfterPath g plus binder) := by
  unfold typeAfterPath
  refine @bind_pair_matches _ _ _ _ _ _ fun qualified p => ?_
  cases qualified <;> infer_instance

set_option synthInstance.maxSize 2000 in
instance pointer_matches : Rule.Matches (pointer g) := by
  unfold pointer; infer_instance
instance reference_matches : Rule.Matches (reference g) := by
  unfold reference; infer_instance
instance arrayOrSlice_matches : Rule.Matches (arrayOrSlice g) := within_matches _ _
instance builtin_matches : Rule.Matches builtin := by
  unfold builtin; infer_instance

instance peekBuiltin_still : Still peekBuiltin := by
  unfold peekBuiltin; infer_instance

instance keptType_matches (plus : Bool) : Rule.Matches (keptType g plus) := by
  unfold keptType
  refine @bind_matches _ _ _ _ inferInstance fun binder => ?_
  repeat' first
    | refine @ite_matches _ _ _ _ _ ?_ ?_
    | refine @bind_matches _ _ _ _ inferInstance fun _ => ?_
    | infer_instance

instance typeRule_matches (plus : Bool) : Rule.Matches (typeRule g plus) := by
  unfold typeRule; infer_instance

/-! ## Parameters -/

instance boundsAfterColon_matches (r : Rule Unit) [Rule.Matches r] : Rule.Matches (boundsAfterColon r) := by
  unfold boundsAfterColon; infer_instance
instance lifetimeParameter_matches (attributes : List Tree) :
    Rule.Matches (lifetimeParameter attributes) := by
  unfold lifetimeParameter; infer_instance
instance typeParameter_matches (attributes : List Tree) : Rule.Matches (typeParameter g attributes) := by
  unfold typeParameter; infer_instance
instance constParameter_matches (attributes : List Tree) :
    Rule.Matches (constParameter g attributes) := by
  unfold constParameter; infer_instance
instance boundParameter_matches : Rule.Matches (boundParameter g) := by
  unfold boundParameter; infer_instance

set_option synthInstance.maxSize 2000 in
instance angledParameters_matches (parameter : Rule Param) [Rule.Matches parameter] :
    Rule.Matches (angledParameters parameter) := by
  refine opening_matches fun {c text c'} h => ?_
  obtain ⟨ts, w, l⟩ := c
  obtain ⟨rest, w', l'⟩ := c'
  obtain ⟨rfl, u, hopen⟩ := held_eq_ok.1 h
  obtain ⟨joint, s, us, hts, hc⟩ := (eatOp_one (d := '<') (by decide) (by decide)).1 hopen
  exact ⟨joint, s, hts.trans (by rw [← (Cursor.mk.inj hc).1])⟩

instance binderRule_matches : Rule.Matches (binderRule g) := by
  unfold binderRule; infer_instance

end Types

/-! ## Every level -/

instance rules_matches (n : Nat) : (rules n).Matches := by
  induction n with
  | zero => constructor <;> intros <;> exact @still_matches _ _ (fail_still _)
  | succ n ih => constructor <;> intros <;> unfold rules <;> infer_instance

instance atDepth_matches {α : Type} {r : Nat → Rule α} [hr : ∀ n, Rule.Matches (r n)] :
    Rule.Matches (atDepth r) :=
  ⟨fun {c _ _} h => (hr (depthFor c.rest)).step h⟩

instance grammar_matches : grammar.Matches := by
  constructor <;> intros <;> unfold grammar <;> infer_instance

end FetchKit.Grammar
