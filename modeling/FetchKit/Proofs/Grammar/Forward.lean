import FetchKit.Proofs.Grammar.Running

/-!
# Rules only go forward

Whatever a rule does, it takes trees off the front of what is left and keeps the note of a group
that was not read to its end. This is shown for each rule from the rules it is made of; the search
for instances puts the parts together.
-/

namespace FetchKit.Grammar

open FetchKit.Source

/-- A later cursor of the same group: fewer trees at the front, and no note is lost. -/
structure Cursor.Leads (c c' : Cursor) : Prop where
  suffix : c'.rest <:+ c.rest
  noted : c'.leftover = none → c.leftover = none

theorem Cursor.Leads.refl (c : Cursor) : c.Leads c := ⟨List.suffix_refl _, id⟩

/-- A cursor that a rule may go back to. -/
class Cursor.After (base c : Cursor) : Prop where
  leads : base.Leads c

namespace Rule

-- A rule may go back to a cursor it was at before, so what it reaches is compared with a cursor
-- `base` before all of them, not with the one it starts at.
class Forward {α : Type} (base : Cursor) (r : Rule α) : Prop where
  step : ∀ {c a c'}, base.Leads c → r c = .ok (a, c') → base.Leads c'

section Basic

variable {α β σ : Type} {base : Cursor}

/-! ## Sequences of steps -/

instance bind_forward {x : Rule α} {f : α → Rule β} [hx : Forward base x]
    [hf : ∀ a, Forward base (f a)] : Forward base (x >>= f) := by
  refine ⟨fun hb h => ?_⟩
  obtain ⟨a, c₁, h₁, h₂⟩ := bind_eq_ok.1 h
  exact (hf a).step (hx.step hb h₁) h₂

instance (priority := high) bind_pair_forward {γ : Type} {x : Rule (α × γ)} {f : α × γ → Rule β}
    [Forward base x] [hf : ∀ a b, Forward base (f (a, b))] : Forward base (x >>= f) := by
  have : ∀ p, Forward base (f p) := fun p => hf p.1 p.2
  exact bind_forward

instance (priority := high) bind_option_forward {x : Rule (Option α)} {f : Option α → Rule β}
    [Forward base x] [hn : Forward base (f none)] [hs : ∀ a, Forward base (f (some a))] :
    Forward base (x >>= f) := by
  have : ∀ o, Forward base (f o) := by
    intro o
    cases o with
    | none => exact hn
    | some a => exact hs a
  exact bind_forward

instance (priority := high) bind_member_forward {x : Rule MemberKey} {f : MemberKey → Rule β}
    [Forward base x] [hi : Forward base (f .index)] [hn : ∀ i, Forward base (f (.name i))] :
    Forward base (x >>= f) := by
  have : ∀ k, Forward base (f k) := by
    intro k
    cases k with
    | index => exact hi
    | name i => exact hn i
  exact bind_forward

instance pure_forward (a : α) : Forward base (pure a : Rule α) := by
  refine ⟨fun hb h => ?_⟩
  cases h
  exact hb

instance fail_forward (e : Complaint) : Forward base (fail e : Rule α) := by
  refine ⟨fun _ h => ?_⟩
  cases h

instance ite_forward {p : Prop} [Decidable p] {x y : Rule α} [hx : Forward base x]
    [hy : Forward base y] : Forward base (if p then x else y) := by
  split
  · exact hx
  · exact hy

instance get_forward : Forward base (get : Rule Cursor) := by
  refine ⟨fun hb h => ?_⟩
  cases h
  exact hb

instance (priority := high) get_bind_forward {f : Cursor → Rule β}
    [hf : ∀ c [base.After c], Forward base (f c)] : Forward base ((get : Rule Cursor) >>= f) := by
  refine ⟨fun {c _ _} hb h => ?_⟩
  rw [run_bind, run_get, andThen_ok] at h
  have := Cursor.After.mk hb
  exact (hf c).step hb h

instance set_forward (c : Cursor) [hc : base.After c] : Forward base (set c : Rule PUnit) := by
  refine ⟨fun _ h => ?_⟩
  cases h
  exact hc.leads

/-! ## Looking ahead -/

instance trees_forward : Forward base trees := by unfold trees; infer_instance
instance atEnd_forward : Forward base atEnd := by unfold atEnd; infer_instance
instance peek_forward (p : Probe) : Forward base (peek p) := by unfold peek; infer_instance
instance peek2_forward (p : Probe) : Forward base (peek2 p) := by unfold peek2; infer_instance
instance peek3_forward (p : Probe) : Forward base (peek3 p) := by unfold peek3; infer_instance
instance peekAny_forward (ps : List Probe) : Forward base (peekAny ps) := by
  unfold peekAny; infer_instance
instance unmet_forward (ps : List Probe) : Forward base (unmet ps : Rule α) := by
  unfold unmet; infer_instance
instance complain_forward (text : String) : Forward base (complain text : Rule α) := by
  unfold complain; infer_instance

/-! ## Taking and writing trees -/

theorem advance_forward {rest : List Tree} (hs : rest <:+ base.rest) (out : List Tree) :
    Forward base (advance rest out) := by
  refine ⟨fun hb h => ?_⟩
  cases h
  exact ⟨hs, hb.noted⟩

theorem forward_of_trees {f : List Tree → Rule β}
    (hf : ∀ ts, ts <:+ base.rest → Forward base (f ts)) : Forward base (trees >>= f) := by
  refine ⟨fun {c _ _} hb h => ?_⟩
  rw [run_bind, run_trees, andThen_ok] at h
  exact (hf c.rest hb.suffix).step hb h

theorem suffix_of_cons {t : Tree} {ts us : List Tree} (h : t :: ts <:+ us) : ts <:+ us :=
  (List.suffix_cons t ts).trans h

instance eatOp_forward (s : String) : Forward base (eatOp s) := by
  refine forward_of_trees fun ts hts => ?_
  have := advance_forward ((List.drop_suffix s.length ts).trans hts)
  infer_instance

instance eatWord_forward (w : String) : Forward base (eatWord w) := by
  refine forward_of_trees fun ts hts => ?_
  split
  · have := advance_forward (suffix_of_cons hts)
    infer_instance
  · infer_instance

instance eatName_forward : Forward base eatName := by
  refine forward_of_trees fun ts hts => ?_
  split
  · have := advance_forward (suffix_of_cons hts)
    infer_instance
  · infer_instance

instance eatAnyIdent_forward : Forward base eatAnyIdent := by
  refine forward_of_trees fun ts hts => ?_
  split
  · have := advance_forward (suffix_of_cons hts)
    infer_instance
  · infer_instance

instance eatLifetime_forward : Forward base eatLifetime := by
  refine forward_of_trees fun ts hts => ?_
  split
  · exact advance_forward (suffix_of_cons (suffix_of_cons hts)) _
  · infer_instance

instance eatLiteral_forward : Forward base eatLiteral := by
  refine forward_of_trees fun ts hts => ?_
  split
  · exact advance_forward (suffix_of_cons hts) _
  · have := advance_forward (suffix_of_cons hts)
    infer_instance
  · have := advance_forward (suffix_of_cons (suffix_of_cons hts))
    infer_instance
  · infer_instance

instance eatRest_forward : Forward base eatRest :=
  forward_of_trees fun _ _ => advance_forward List.nil_suffix _

instance eatGroup_forward : Forward base eatGroup := by
  refine forward_of_trees fun ts hts => ?_
  split
  · have := advance_forward (suffix_of_cons hts)
    infer_instance
  · infer_instance

instance dropOp_forward (s : String) : Forward base (dropOp s) := by
  refine ⟨fun hb h => ?_⟩
  cases h
  exact ⟨(List.drop_suffix _ _).trans hb.suffix, hb.noted⟩

instance write_forward (ts : List Tree) : Forward base (write ts) := by
  refine ⟨fun hb h => ?_⟩
  cases h
  exact ⟨hb.suffix, hb.noted⟩

instance leave_forward (missed : Option Delimiter) : Forward base (leave missed) := by
  refine ⟨fun hb h => ?_⟩
  cases h
  exact ⟨hb.suffix, fun hn => hb.noted (Option.or_eq_none_iff.1 hn).1⟩

instance eatOp?_forward (s : String) : Forward base (eatOp? s) := by
  unfold eatOp?; infer_instance
instance eatWord?_forward (w : String) : Forward base (eatWord? w) := by
  unfold eatWord?; infer_instance
instance eatLifetime?_forward : Forward base eatLifetime? := by
  unfold eatLifetime?; infer_instance

/-! ## Groups -/

instance enter_forward (d : Delimiter) (body : Rule α) [hr : ∀ base, Forward base body] :
    Forward base (enter d body) := by
  refine ⟨fun {c _ _} hb h => ?_⟩
  unfold enter at h
  split at h
  · next e content s ts hc =>
    split at h
    · split at h
      · cases h
      · next a inner hi =>
        have hn := ((hr _).step (Cursor.Leads.refl _) hi).noted
        cases h
        exact ⟨suffix_of_cons (hc ▸ hb.suffix), fun h => hb.noted (hn h)⟩
    · cases h
  · cases h

instance within_forward (d : Delimiter) (body : Rule α) [∀ base, Forward base body] :
    Forward base (within d body) := by
  unfold within; infer_instance

/-! ## Combining rules -/

theorem Forward.step_apart {r : Rule α} (hr : Forward base r) {c c' : Cursor} {a : α}
    (hb : base.Leads c) (h : StateT.run r { c with written := [] } = .ok (a, c')) :
    base.Leads c' :=
  hr.step (c := { c with written := [] }) ⟨hb.suffix, hb.noted⟩ h

instance wouldRead_forward (r : Rule α) : Forward base (wouldRead r) := by
  refine ⟨fun hb h => ?_⟩
  unfold wouldRead at h
  split at h
  · cases h
    exact hb
  · cases h
    exact hb

instance attempt_forward (r : Rule α) [hr : Forward base r] : Forward base (attempt r) := by
  refine ⟨fun hb h => ?_⟩
  unfold attempt at h
  split at h
  · next hi =>
    cases h
    exact hr.step hb hi
  · cases h
    exact hb

instance capture_forward (r : Rule α) [hr : Forward base r] : Forward base (capture r) := by
  refine ⟨fun hb h => ?_⟩
  unfold capture at h
  split at h
  · cases h
  · next hi =>
    have hl := hr.step_apart hb hi
    cases h
    exact ⟨hl.suffix, hl.noted⟩

instance withhold_forward (r : Rule α) [hr : Forward base r] : Forward base (withhold r) := by
  refine ⟨fun hb h => ?_⟩
  unfold withhold at h
  split at h
  · cases h
  · next hi =>
    have hl := hr.step_apart hb hi
    cases h
    exact ⟨hl.suffix, hl.noted⟩

instance keeping_forward (r : Rule (Kept α)) [hr : Forward base r] : Forward base (keeping r) := by
  refine ⟨fun hb h => ?_⟩
  unfold keeping at h
  split at h
  · cases h
  · next hi =>
    have hl := hr.step_apart hb hi
    cases h
    exact ⟨hl.suffix, hl.noted⟩

instance held_forward (r : Rule α) [Forward base r] : Forward base (held r) := by
  unfold held; infer_instance
instance asWritten_forward (r : Rule α) [Forward base r] : Forward base (asWritten r) := by
  unfold asWritten; infer_instance

/-! ## Loops -/

instance iterateFor_forward (n : Nat) (s : σ) (body : σ → Rule (Progress σ))
    [hb : ∀ s, Forward base (body s)] : Forward base (iterateFor n s body) := by
  induction n generalizing s with
  | zero => exact pure_forward s
  | succ n ih =>
    have hnext : ∀ p : Progress σ,
        Forward base (match p with | .done s => pure s | .again s => iterateFor n s body) := by
      intro p
      cases p with
      | done s => exact pure_forward s
      | again s => exact ih s
    have := hb s
    exact bind_forward

instance iterate_forward (s : σ) (body : σ → Rule (Progress σ)) [∀ s, Forward base (body s)] :
    Forward base (iterate s body) := by
  unfold iterate; infer_instance
instance loop_forward (body : Rule Bool) [Forward base body] : Forward base (loop body) := by
  unfold loop; infer_instance
instance terminated_forward (item : Rule α) [Forward base item] :
    Forward base (terminated item) := by
  unfold terminated; infer_instance
instance untilEnd_forward (item : Rule α) [Forward base item] : Forward base (untilEnd item) := by
  unfold untilEnd; infer_instance

instance mapM_forward (f : σ → Rule α) (l : List σ) [∀ s, Forward base (f s)] :
    Forward base (l.mapM f) := by
  rw [← List.mapM'_eq_mapM]
  induction l with
  | nil => exact pure_forward []
  | cons s l ih =>
    rw [List.mapM'_cons]
    infer_instance

/-! ## Choosing a rule -/

/-- A rule that chooses another: both go forward. -/
class Chooses (base : Cursor) (r : Rule (Option (Rule α))) : Prop where
  forward : Forward base r
  chosen : ∀ {c rule c'}, r c = .ok (some rule, c') → Forward base rule

instance pure_some_chooses (r : Rule α) [hr : Forward base r] :
    Chooses base (pure (some r)) := by
  refine ⟨inferInstance, fun h => ?_⟩
  cases h
  exact hr

instance pure_none_chooses : Chooses base (pure none : Rule (Option (Rule α))) := by
  refine ⟨inferInstance, fun h => ?_⟩
  cases h

instance bind_chooses {x : Rule β} {f : β → Rule (Option (Rule α))} [hx : Forward base x]
    [hf : ∀ b, Chooses base (f b)] : Chooses base (x >>= f) := by
  have : ∀ b, Forward base (f b) := fun b => (hf b).forward
  refine ⟨inferInstance, fun h => ?_⟩
  obtain ⟨b, c₁, -, h₂⟩ := bind_eq_ok.1 h
  exact (hf b).chosen h₂

instance ite_chooses {p : Prop} [Decidable p] {x y : Rule (Option (Rule α))}
    [hx : Chooses base x] [hy : Chooses base y] : Chooses base (if p then x else y) := by
  split
  · exact hx
  · exact hy

theorem bind_chosen_forward {x : Rule (Option (Rule α))}
    {f : Option (Rule α) → Rule β} [hx : Chooses base x] (hn : Forward base (f none))
    (hs : ∀ r [Forward base r], Forward base (f (some r))) : Forward base (x >>= f) := by
  refine ⟨fun hb h => ?_⟩
  obtain ⟨o, c₁, h₁, h₂⟩ := bind_eq_ok.1 h
  have hc := hx.forward.step hb h₁
  cases o with
  | none => exact hn.step hc h₂
  | some r =>
    have := hx.chosen h₁
    exact (hs r).step hc h₂

end Basic

end Rule

/-! ## The record of rules -/

class Rules.Forward (g : Rules) : Prop where
  type : ∀ base plus, Rule.Forward base (g.type plus)
  angle : ∀ base, Rule.Forward base g.angle
  pattern : ∀ base, Rule.Forward base g.pattern
  expr : ∀ base allowStruct, Rule.Forward base (g.expr allowStruct)
  bounded : ∀ base, Rule.Forward base g.bounded
  unary : ∀ base allowStruct, Rule.Forward base (g.unary allowStruct)
  operators : ∀ base first allowStruct p, Rule.Forward base (g.operators first allowStruct p)
  statements : ∀ base, Rule.Forward base g.statements
  item : ∀ base attributes, Rule.Forward base (g.item attributes)
  imports : ∀ base allowRoot, Rule.Forward base (g.imports allowRoot)
  binder : ∀ base, Rule.Forward base g.binder
  fields : ∀ base, Rule.Forward base g.fields

attribute [instance] Rules.Forward.type Rules.Forward.angle Rules.Forward.pattern
  Rules.Forward.expr Rules.Forward.bounded Rules.Forward.unary Rules.Forward.operators
  Rules.Forward.statements Rules.Forward.item Rules.Forward.imports Rules.Forward.binder
  Rules.Forward.fields

section Grammar

open Rule

variable {base : Cursor} (g : Rules) [g.Forward]

/-! ### Attributes -/

instance plainPath_forward : Rule.Forward base plainPath := by
  unfold plainPath; infer_instance

set_option synthInstance.maxSize 2000 in
instance valueAfter_forward (p : Path) : Rule.Forward base (valueAfter g p) := by
  unfold valueAfter; infer_instance

instance afterPath_forward (p : Path) : Rule.Forward base (afterPath g p) := by
  unfold afterPath
  refine @bind_forward _ _ _ _ _ inferInstance fun ts => ?_
  split <;> infer_instance

instance attributeContent_forward : Rule.Forward base (attributeContent g) := by
  unfold attributeContent; infer_instance

instance outerAttribute_forward : Rule.Forward base (outerAttribute g) := by
  unfold outerAttribute; infer_instance
instance outerAttributes_forward : Rule.Forward base (outerAttributes g) := by
  unfold outerAttributes; infer_instance
instance innerAttributes_forward : Rule.Forward base (innerAttributes g) := by
  unfold innerAttributes; infer_instance
instance plainBlock_forward : Rule.Forward base (plainBlock g) := by
  unfold plainBlock; infer_instance
instance bracedBlock_forward : Rule.Forward base (bracedBlock g) := by
  unfold bracedBlock; infer_instance

/-! ### Types -/

instance constArgument_forward : Rule.Forward base (constArgument g) := by
  unfold constArgument; infer_instance
instance binder?_forward : Rule.Forward base (binder? g) := by
  unfold binder?; infer_instance
set_option synthInstance.maxSize 2000 in
instance preciseCapture_forward : Rule.Forward base preciseCapture := by
  unfold preciseCapture; infer_instance
instance returnType_forward (plus : Bool) : Rule.Forward base (returnType g plus) := by
  unfold returnType; infer_instance
set_option synthInstance.maxSize 2000 in
instance segment_forward (inExpr : Bool) : Rule.Forward base (segment g inExpr) := by
  unfold segment; infer_instance
instance moreSegments_forward (inExpr : Bool) (segments : List Segment) :
    Rule.Forward base (moreSegments g inExpr segments) := by
  unfold moreSegments; infer_instance
instance path_forward (inExpr : Bool) : Rule.Forward base (path g inExpr) := by
  unfold path; infer_instance
set_option synthInstance.maxSize 20000 in
instance anyPath_forward (inExpr : Bool) : Rule.Forward base (anyPath g inExpr) := by
  unfold anyPath; infer_instance
instance parenArguments?_forward (p : Path) : Rule.Forward base (parenArguments? g p) := by
  unfold parenArguments?; infer_instance
set_option synthInstance.maxSize 2000 in
instance traitBound_forward (allowConst : Bool) : Rule.Forward base (traitBound g allowConst) := by
  unfold traitBound; infer_instance
set_option synthInstance.maxSize 2000 in
instance bound_forward (allowCapture allowConst : Bool) :
    Rule.Forward base (bound g allowCapture allowConst) := by
  unfold bound; infer_instance
instance boundsUntil_forward (bound : Rule BoundKind) (stop : Rule Bool)
    [∀ base, Rule.Forward base bound] [∀ base, Rule.Forward base stop] :
    Rule.Forward base (boundsUntil bound stop) := by
  unfold boundsUntil; infer_instance

instance genericArgument_forward : Rule.Forward base (genericArgument g) := by
  unfold genericArgument
  repeat' first
    | infer_instance
    | split
    | refine @bind_forward _ _ _ _ _ inferInstance fun _ => ?_

instance angleRule_forward : Rule.Forward base (angleRule g) := by
  unfold angleRule; infer_instance
instance callAfterPath_forward : Rule.Forward base callAfterPath := by
  unfold callAfterPath; infer_instance
instance boundList_forward (plus allowCapture allowConst : Bool) :
    Rule.Forward base (boundList g plus allowCapture allowConst) := by
  unfold boundList; infer_instance
instance objectBounds_forward (plus : Bool) : Rule.Forward base (objectBounds g plus) := by
  unfold objectBounds; infer_instance
instance implBounds_forward (plus : Bool) : Rule.Forward base (implBounds g plus) := by
  unfold implBounds; infer_instance
instance moreBounds_forward : Rule.Forward base (moreBounds g) := by
  unfold moreBounds; infer_instance
instance boundsAfterPath_forward : Rule.Forward base (boundsAfterPath g) := by
  unfold boundsAfterPath; infer_instance
set_option synthInstance.maxSize 2000 in
instance bareArgument_forward (first : Bool) : Rule.Forward base (bareArgument g first) := by
  unfold bareArgument; infer_instance
instance abi_forward : Rule.Forward base abi := by
  unfold abi; infer_instance
instance abi?_forward : Rule.Forward base abi? := by
  unfold abi?; infer_instance
set_option synthInstance.maxSize 20000 in
instance bareFunction_forward : Rule.Forward base (bareFunction g) := by
  unfold bareFunction; infer_instance
instance moreElements_forward : Rule.Forward base (moreElements g) := by
  unfold moreElements; infer_instance

instance unwrapLast_forward : Rule.Forward base unwrapLast := by
  refine ⟨fun {c _ _} hb h => ?_⟩
  cases h
  dsimp only
  split
  · exact ⟨hb.suffix, hb.noted⟩
  · exact hb

set_option synthInstance.maxSize 2000 in
instance parenType_forward (plus : Bool) : Rule.Forward base (parenType g plus) := by
  unfold parenType
  repeat' first
    | infer_instance
    | split
    | refine @bind_forward _ _ _ _ _ inferInstance fun _ => ?_

instance typeAfterPath_forward (plus binder : Bool) :
    Rule.Forward base (typeAfterPath g plus binder) := by
  unfold typeAfterPath
  repeat' first
    | infer_instance
    | split
    | refine @bind_forward _ _ _ _ _ inferInstance fun _ => ?_

set_option synthInstance.maxSize 2000 in
instance pointer_forward : Rule.Forward base (pointer g) := by
  unfold pointer; infer_instance
instance reference_forward : Rule.Forward base (reference g) := by
  unfold reference; infer_instance
instance arrayOrSlice_forward : Rule.Forward base (arrayOrSlice g) := by
  unfold arrayOrSlice; infer_instance
instance builtin_forward : Rule.Forward base builtin := by
  unfold builtin; infer_instance
instance peekBuiltin_forward : Rule.Forward base peekBuiltin := by
  unfold peekBuiltin; infer_instance

instance keptType_forward (plus : Bool) : Rule.Forward base (keptType g plus) := by
  unfold keptType
  refine @bind_forward _ _ _ _ _ inferInstance fun binder => ?_
  repeat' first
    | refine @ite_forward _ _ _ _ _ _ ?_ ?_
    | refine @bind_forward _ _ _ _ _ inferInstance fun _ => ?_
    | infer_instance

instance typeRule_forward (plus : Bool) : Rule.Forward base (typeRule g plus) := by
  unfold typeRule; infer_instance

/-! ### Generic parameters -/

instance boundsAfterColon_forward (bounds : Rule Unit) [∀ base, Rule.Forward base bounds] :
    Rule.Forward base (boundsAfterColon bounds) := by
  unfold boundsAfterColon; infer_instance
instance lifetimeParameter_forward (attributes : List Tree) :
    Rule.Forward base (lifetimeParameter attributes) := by
  unfold lifetimeParameter; infer_instance
instance typeParameter_forward (attributes : List Tree) :
    Rule.Forward base (typeParameter g attributes) := by
  unfold typeParameter; infer_instance
instance constParameter_forward (attributes : List Tree) :
    Rule.Forward base (constParameter g attributes) := by
  unfold constParameter; infer_instance
set_option synthInstance.maxSize 2000 in
instance parameter_forward : Rule.Forward base (parameter g) := by
  unfold parameter; infer_instance
instance boundParameter_forward : Rule.Forward base (boundParameter g) := by
  unfold boundParameter; infer_instance
instance angledParameters_forward (parameter : Rule Param) [∀ base, Rule.Forward base parameter] :
    Rule.Forward base (angledParameters parameter) := by
  unfold angledParameters; infer_instance
instance generics?_forward : Rule.Forward base (generics? g) := by
  unfold generics?; infer_instance
instance generics_forward : Rule.Forward base (generics g) := by
  unfold generics; infer_instance
instance binderRule_forward : Rule.Forward base (binderRule g) := by
  unfold binderRule; infer_instance
instance peekGenerics_forward : Rule.Forward base peekGenerics := by
  unfold peekGenerics; infer_instance
set_option synthInstance.maxSize 2000 in
instance predicate_forward : Rule.Forward base (predicate g) := by
  unfold predicate; infer_instance
set_option synthInstance.maxSize 2000 in
instance whereClause_forward : Rule.Forward base (whereClause g) := by
  unfold whereClause; infer_instance
instance whereClause?_forward : Rule.Forward base (whereClause? g) := by
  unfold whereClause?; infer_instance

/-! ### Patterns -/

instance tupleIndex_forward (negative : Bool) (text : String) (span : Span) :
    Rule.Forward base (tupleIndex negative text span) := by
  unfold tupleIndex
  repeat' first
    | infer_instance
    | split

instance memberKey_forward : Rule.Forward base memberKey := by
  unfold memberKey
  refine @bind_forward _ _ _ _ _ inferInstance fun named => ?_
  refine @ite_forward _ _ _ _ _ _ inferInstance (forward_of_trees fun ts hts => ?_)
  split
  · have := advance_forward (suffix_of_cons hts)
    infer_instance
  · have := advance_forward (suffix_of_cons (suffix_of_cons hts))
    infer_instance
  · infer_instance

instance peekBar_forward : Rule.Forward base peekBar := by
  unfold peekBar; infer_instance
instance alternatives_forward : Rule.Forward base (alternatives g) := by
  unfold alternatives; infer_instance
instance constBlock_forward : Rule.Forward base (constBlock g) := by
  unfold constBlock; infer_instance
set_option synthInstance.maxSize 2000 in
instance rangeBound_forward : Rule.Forward base (rangeBound g) := by
  unfold rangeBound; infer_instance
instance limits_forward : Rule.Forward base limits := by
  unfold limits; infer_instance
instance oldLimits_forward : Rule.Forward base oldLimits := by
  unfold oldLimits; infer_instance
instance rangeAfter_forward : Rule.Forward base (rangeAfter g) := by
  unfold rangeAfter; infer_instance
instance rangeFromNothing_forward : Rule.Forward base (rangeFromNothing g) := by
  unfold rangeFromNothing; infer_instance
set_option synthInstance.maxSize 2000 in
instance fieldPattern_forward : Rule.Forward base (fieldPattern g) := by
  unfold fieldPattern; infer_instance
set_option synthInstance.maxSize 2000 in
instance structPattern_forward : Rule.Forward base (structPattern g) := by
  unfold structPattern; infer_instance
instance pathPattern_forward : Rule.Forward base (pathPattern g) := by
  unfold pathPattern; infer_instance
set_option synthInstance.maxSize 2000 in
instance namePattern_forward : Rule.Forward base (namePattern g) := by
  unfold namePattern; infer_instance
instance literalPattern_forward : Rule.Forward base (literalPattern g) := by
  unfold literalPattern; infer_instance
instance slicePattern_forward : Rule.Forward base (slicePattern g) := by
  unfold slicePattern; infer_instance
set_option synthInstance.maxSize 20000 in
instance patternRule_forward : Rule.Forward base (patternRule g) := by
  unfold patternRule; infer_instance

/-! ### Expressions -/

instance peekOperator_forward : Rule.Forward base peekOperator := by
  unfold peekOperator; infer_instance
instance nextPrecedence_forward : Rule.Forward base nextPrecedence := by
  unfold nextPrecedence; infer_instance
instance rightOperand_forward (allowStruct : Bool) (p : Nat) :
    Rule.Forward base (rightOperand g allowStruct p) := by
  unfold rightOperand; infer_instance
instance rangeStops_forward (allowStruct : Bool) : Rule.Forward base (rangeStops allowStruct) := by
  unfold rangeStops; infer_instance
instance rangeTail_forward (allowStruct : Bool) : Rule.Forward base (rangeTail g allowStruct) := by
  unfold rangeTail; infer_instance
set_option synthInstance.maxSize 2000 in
instance checkCast_forward : Rule.Forward base checkCast := by
  unfold checkCast; infer_instance
set_option synthInstance.maxSize 2000 in
instance operatorsRule_forward (first : ExprShape) (allowStruct : Bool) (p : Nat) :
    Rule.Forward base (operatorsRule g first allowStruct p) := by
  unfold operatorsRule; infer_instance
instance callArguments_forward : Rule.Forward base (callArguments g) := by
  unfold callArguments; infer_instance
theorem floatMembers_forward {rest : List Tree} (hs : rest <:+ base.rest) (negative : Bool)
    (text : String) (span : Span) : Rule.Forward base (floatMembers negative text span rest) := by
  have := advance_forward hs
  unfold floatMembers
  infer_instance

set_option synthInstance.maxSize 2000 in
instance memberTail_forward : Rule.Forward base (memberTail g) := by
  unfold memberTail
  refine @bind_forward _ _ _ _ _ inferInstance fun _ => forward_of_trees fun ts hts => ?_
  split
  · have := floatMembers_forward (suffix_of_cons hts)
    infer_instance
  · have := floatMembers_forward (suffix_of_cons (suffix_of_cons hts))
    infer_instance
  · infer_instance

set_option synthInstance.maxSize 2000 in
instance trailers_forward (first : ExprShape) : Rule.Forward base (trailers g first) := by
  unfold trailers; infer_instance
instance canBegin_forward : Rule.Forward base canBegin := by
  unfold canBegin; infer_instance
instance fieldValue_forward : Rule.Forward base (fieldValue g) := by
  unfold fieldValue; infer_instance
set_option synthInstance.maxSize 2000 in
instance structFields_forward : Rule.Forward base (structFields g) := by
  unfold structFields; infer_instance
instance pathOperand_forward (allowStruct : Bool) :
    Rule.Forward base (pathOperand g allowStruct) := by
  unfold pathOperand; infer_instance
instance closureArgument_forward : Rule.Forward base (closureArgument g) := by
  unfold closureArgument; infer_instance
set_option synthInstance.maxSize 20000 in
instance closure_forward (allowStruct : Bool) : Rule.Forward base (closure g allowStruct) := by
  unfold closure; infer_instance
instance parenOrTuple_forward : Rule.Forward base (parenOrTuple g) := by
  unfold parenOrTuple; infer_instance
set_option synthInstance.maxSize 2000 in
instance arrayOrRepeat_forward : Rule.Forward base (arrayOrRepeat g) := by
  unfold arrayOrRepeat; infer_instance
instance letOperand_forward (allowStruct : Bool) :
    Rule.Forward base (letOperand g allowStruct) := by
  unfold letOperand; infer_instance
set_option synthInstance.maxSize 2000 in
instance ifOperand_forward : Rule.Forward base (ifOperand g) := by
  unfold ifOperand; infer_instance
instance whileOperand_forward : Rule.Forward base (whileOperand g) := by
  unfold whileOperand; infer_instance
instance forOperand_forward : Rule.Forward base (forOperand g) := by
  unfold forOperand; infer_instance
instance loopOperand_forward : Rule.Forward base (loopOperand g) := by
  unfold loopOperand; infer_instance
set_option synthInstance.maxSize 2000 in
instance labelled_forward : Rule.Forward base (labelled g) := by
  unfold labelled; infer_instance
set_option synthInstance.maxSize 2000 in
instance arm_forward : Rule.Forward base (arm g) := by
  unfold arm; infer_instance
instance matchOperand_forward : Rule.Forward base (matchOperand g) := by
  unfold matchOperand; infer_instance
set_option synthInstance.maxSize 2000 in
instance breakOperand_forward (allowStruct : Bool) :
    Rule.Forward base (breakOperand g allowStruct) := by
  unfold breakOperand; infer_instance
instance peekBinder_forward : Rule.Forward base peekBinder := by
  unfold peekBinder; infer_instance
instance peekClosure_forward : Rule.Forward base peekClosure := by
  unfold peekClosure; infer_instance
set_option synthInstance.maxSize 20000 in
instance blockLike_chooses : Rule.Chooses base (blockLike g) := by
  unfold blockLike; infer_instance

instance atom_forward (allowStruct : Bool) : Rule.Forward base (atom g allowStruct) := by
  unfold atom
  repeat' first
    | refine @ite_forward _ _ _ _ _ _ ?_ ?_
    | exact bind_chosen_forward inferInstance fun _ _ => inferInstance
    | refine @bind_forward _ _ _ _ _ inferInstance fun _ => ?_
    | infer_instance

instance trailed_forward (attributes : List Attribute) (allowStruct : Bool) :
    Rule.Forward base (trailed g attributes allowStruct) := by
  unfold trailed; infer_instance
instance peekVerbatim_forward : Rule.Forward base peekVerbatim := by
  unfold peekVerbatim; infer_instance
set_option synthInstance.maxSize 2000 in
instance unaryAfter_forward (attributes : List Attribute) (allowStruct : Bool) :
    Rule.Forward base (unaryAfter g attributes allowStruct) := by
  unfold unaryAfter; infer_instance
instance unaryRule_forward (allowStruct : Bool) : Rule.Forward base (unaryRule g allowStruct) := by
  unfold unaryRule; infer_instance
instance exprRule_forward (allowStruct : Bool) : Rule.Forward base (exprRule g allowStruct) := by
  unfold exprRule; infer_instance
instance leadingAttributes_forward : Rule.Forward base (leadingAttributes g) := by
  unfold leadingAttributes; infer_instance

instance boundedRule_forward : Rule.Forward base (boundedRule g) := by
  unfold boundedRule
  refine @bind_pair_forward _ _ _ _ _ _ inferInstance fun _ attributes => ?_
  exact bind_chosen_forward inferInstance fun _ _ => inferInstance

/-! ### Statements -/

instance endsInBrace_forward : Rule.Forward base endsInBrace := by
  unfold endsInBrace
  refine @bind_forward _ _ _ _ _ inferInstance fun c => ?_
  split <;> infer_instance

set_option synthInstance.maxSize 20000 in
instance localBinding_forward : Rule.Forward base (localBinding g) := by
  unfold localBinding; infer_instance

instance peekCall_forward : Rule.Forward base peekCall := by
  unfold peekCall
  refine @bind_forward _ _ _ _ _ inferInstance fun found => ?_
  split <;> infer_instance

instance peekItem_forward : Rule.Forward base peekItem := by
  unfold peekItem; infer_instance
set_option synthInstance.maxSize 2000 in
instance keptStatement_forward : Rule.Forward base (keptStatement g) := by
  unfold keptStatement; infer_instance
instance statement_forward : Rule.Forward base (statement g) := by
  unfold statement; infer_instance
instance statementsRule_forward : Rule.Forward base (statementsRule g) := by
  unfold statementsRule; infer_instance

/-! ### Items -/

instance visibility_forward : Rule.Forward base visibility := by
  unfold visibility
  repeat' first
    | infer_instance
    | split
    | refine @bind_forward _ _ _ _ _ inferInstance fun _ => ?_

instance boundsTo_forward (allowConst : Bool) (stop : Rule Bool) [∀ base, Rule.Forward base stop] :
    Rule.Forward base (boundsTo g allowConst stop) := by
  unfold boundsTo; infer_instance
instance peekSignature_forward (allowSafe : Bool) :
    Rule.Forward base (peekSignature allowSafe) := by
  unfold peekSignature; infer_instance
set_option synthInstance.maxSize 2000 in
instance receiver_forward : Rule.Forward base (receiver g) := by
  unfold receiver; infer_instance
set_option synthInstance.maxSize 2000 in
instance argument_forward : Rule.Forward base (argument g) := by
  unfold argument; infer_instance

instance arguments_forward : Rule.Forward base (arguments g) := by
  unfold arguments
  refine @bind_forward _ _ _ _ _ (@iterate_forward _ _ _ _ fun seen => ?_) inferInstance
  repeat' first
    | refine @ite_forward _ _ _ _ _ _ ?_ ?_
    | refine @bind_forward _ _ _ _ _ inferInstance fun kind => ?_
    | infer_instance
    | cases ‹ArgumentKind›

set_option synthInstance.maxSize 2000 in
instance signature_forward (allowSafe : Bool) : Rule.Forward base (signature g allowSafe) := by
  unfold signature; infer_instance
instance namedFields_forward (fields : Rule Unit) [∀ base, Rule.Forward base fields] :
    Rule.Forward base (namedFields fields) := by
  unfold namedFields; infer_instance
set_option synthInstance.maxSize 2000 in
instance namedField_forward : Rule.Forward base (namedField g) := by
  unfold namedField; infer_instance
instance fieldsRule_forward : Rule.Forward base (fieldsRule g) := by
  unfold fieldsRule; infer_instance
instance tupleFields_forward : Rule.Forward base (tupleFields g) := by
  unfold tupleFields; infer_instance
set_option synthInstance.maxSize 2000 in
instance variant_forward : Rule.Forward base (variant g) := by
  unfold variant; infer_instance
set_option synthInstance.maxSize 2000 in
instance structBody_forward : Rule.Forward base (structBody g) := by
  unfold structBody; infer_instance
instance enumBody_forward : Rule.Forward base (enumBody g) := by
  unfold enumBody; infer_instance
instance unionBody_forward : Rule.Forward base (unionBody g) := by
  unfold unionBody; infer_instance

instance dataType_forward (keyword : String) (body : Rule (Option Where))
    (attributes : List Attribute) [Rule.Forward base body] :
    Rule.Forward base (dataType g keyword body attributes) := by
  unfold dataType; infer_instance

set_option synthInstance.maxSize 2000 in
instance importsRule_forward (allowRoot : Bool) : Rule.Forward base (importsRule g allowRoot) := by
  unfold importsRule; infer_instance
instance useItem_forward : Rule.Forward base (useItem g) := by
  unfold useItem; infer_instance
set_option synthInstance.maxSize 2000 in
instance externCrate_forward : Rule.Forward base externCrate := by
  unfold externCrate; infer_instance
set_option synthInstance.maxSize 2000 in
instance callItem_forward : Rule.Forward base callItem := by
  unfold callItem; infer_instance
instance callMember_forward : Rule.Forward base callMember := by
  unfold callMember; infer_instance
set_option synthInstance.maxSize 20000 in
instance typeAlias_forward (place : ConditionsPlace) : Rule.Forward base (typeAlias g place) := by
  unfold typeAlias; infer_instance
set_option synthInstance.maxSize 2000 in
instance constantAfter_forward : Rule.Forward base (constantAfter g) := by
  unfold constantAfter; infer_instance
set_option synthInstance.maxSize 2000 in
instance staticItem_forward : Rule.Forward base (staticItem g) := by
  unfold staticItem; infer_instance
set_option synthInstance.maxSize 2000 in
instance macroItem_forward : Rule.Forward base macroItem := by
  unfold macroItem; infer_instance
instance traitMethod_forward : Rule.Forward base (traitMethod g) := by
  unfold traitMethod; infer_instance
set_option synthInstance.maxSize 2000 in
instance traitMemberAfter_forward (marked : Bool) :
    Rule.Forward base (traitMemberAfter g marked) := by
  unfold traitMemberAfter; infer_instance
instance traitMember_forward : Rule.Forward base (traitMember g) := by
  unfold traitMember; infer_instance
instance implMethod_forward : Rule.Forward base (implMethod g) := by
  unfold implMethod; infer_instance

instance implMemberAfter_forward : Rule.Forward base (implMemberAfter g) := by
  unfold implMemberAfter
  refine @get_bind_forward _ _ _ fun start _ => ?_
  repeat' first
    | refine @ite_forward _ _ _ _ _ _ ?_ ?_
    | refine @bind_forward _ _ _ _ _ inferInstance fun _ => ?_
    | infer_instance

instance implMember_forward : Rule.Forward base (implMember g) := by
  unfold implMember; infer_instance
instance foreignFunction_forward : Rule.Forward base (foreignFunction g) := by
  unfold foreignFunction; infer_instance
set_option synthInstance.maxSize 20000 in
instance foreignStatic_forward : Rule.Forward base (foreignStatic g) := by
  unfold foreignStatic; infer_instance
set_option synthInstance.maxSize 2000 in
instance foreignMemberAfter_forward : Rule.Forward base (foreignMemberAfter g) := by
  unfold foreignMemberAfter; infer_instance
instance foreignMember_forward : Rule.Forward base (foreignMember g) := by
  unfold foreignMember; infer_instance
instance membersIn_forward {α : Type} (member : Rule α) [∀ base, Rule.Forward base member] :
    Rule.Forward base (membersIn g member) := by
  unfold membersIn; infer_instance
instance wholeItem_forward : Rule.Forward base (wholeItem g) := by
  unfold wholeItem; infer_instance
set_option synthInstance.maxSize 2000 in
instance moduleItem_forward : Rule.Forward base (moduleItem g) := by
  unfold moduleItem; infer_instance
instance foreignBlock_forward : Rule.Forward base (foreignBlock g) := by
  unfold foreignBlock; infer_instance
instance traitBody_forward : Rule.Forward base (traitBody g) := by
  unfold traitBody; infer_instance
set_option synthInstance.maxSize 2000 in
instance traitItem_forward : Rule.Forward base (traitItem g) := by
  unfold traitItem; infer_instance
set_option synthInstance.maxSize 2000 in
instance traitOrAlias_forward : Rule.Forward base (traitOrAlias g) := by
  unfold traitOrAlias; infer_instance

instance implItem_forward : Rule.Forward base (implItem g) := by
  unfold implItem
  repeat' first
    | refine @ite_forward _ _ _ _ _ _ ?_ ?_
    | refine @bind_forward _ _ _ _ _ inferInstance fun _ => ?_
    | infer_instance

instance functionItem_forward : Rule.Forward base (functionItem g) := by
  unfold functionItem; infer_instance
set_option synthInstance.maxSize 2000 in
instance foreignItem_forward (start : Cursor) [base.After start] :
    Rule.Forward base (foreignItem g start) := by
  unfold foreignItem; infer_instance
set_option synthInstance.maxSize 2000 in
instance unsafeItem_forward (start : Cursor) [base.After start] :
    Rule.Forward base (unsafeItem g start) := by
  unfold unsafeItem; infer_instance

instance itemRule_forward (attributes : List Attribute) :
    Rule.Forward base (itemRule g attributes) := by
  unfold itemRule
  refine @get_bind_forward _ _ _ fun start _ => ?_
  repeat' first
    | refine @ite_forward _ _ _ _ _ _ ?_ ?_
    | refine @bind_forward _ _ _ _ _ inferInstance fun _ => ?_
    | infer_instance
    | split

set_option synthInstance.maxSize 2000 in
instance dataTypeRule_forward : Rule.Forward base (dataTypeRule g) := by
  unfold dataTypeRule; infer_instance
instance pathList_forward : Rule.Forward base (pathList g) := by
  unfold pathList; infer_instance

end Grammar

/-! ## Every level goes forward -/

instance exhausted_forward : Rules.exhausted.Forward := by
  constructor <;> intros <;> exact Rule.fail_forward _

instance rules_forward (n : Nat) : (rules n).Forward := by
  induction n with
  | zero => exact exhausted_forward
  | succ n ih => constructor <;> intros <;> unfold rules <;> infer_instance

instance atDepth_forward {α : Type} {base : Cursor} {r : Nat → Rule α}
    [hr : ∀ n, Rule.Forward base (r n)] : Rule.Forward base (atDepth r) :=
  ⟨fun {c _ _} hb h => (hr (depthFor c.rest)).step hb h⟩

instance grammar_forward : grammar.Forward := by
  constructor <;> intros <;> unfold grammar <;> infer_instance

end FetchKit.Grammar
