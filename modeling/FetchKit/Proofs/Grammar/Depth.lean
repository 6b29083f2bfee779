import FetchKit.Proofs.Grammar.Taking
import FetchKit.Proofs.Grammar.Struct

/-!
# Levels of the grammar

The rules are built level by level, and a rule calls only those of the level below. A tree that is
taken pays for four levels: rules that start at the same tree call each other at most three times in
a row. So two levels do the same wherever both are deep enough, and the grammar, which picks a level
by the trees at hand, is made of its own rules.
-/

namespace FetchKit.Grammar

open FetchKit.Source

namespace Rule

variable {α β σ : Type}

/-! ## Rules that agree up to a depth -/

/-- The rules are the same where the trees need at most `N` levels, `k` of which are spent. -/
class Same (N k : Nat) (r r' : Rule α) : Prop where
  step : ∀ c, 4 * c.size + k < N + 1 → r c = r' c

/-- At least `j` levels are spent. -/
class Spent (j k : Nat) : Prop where
  le : j ≤ k

instance : Spent 1 1 := ⟨by decide⟩
instance : Spent 1 2 := ⟨by decide⟩
instance : Spent 1 4 := ⟨by decide⟩
instance : Spent 2 2 := ⟨by decide⟩
instance : Spent 2 4 := ⟨by decide⟩
instance : Spent 3 4 := ⟨by decide⟩
instance (priority := low) {k : Nat} [h : Spent 2 k] : Spent 1 k := ⟨Nat.le_of_succ_le h.le⟩

/-- A cursor to go back to. -/
class Small (N : Nat) (k : outParam Nat) (c : Cursor) : Prop where
  lt : 4 * c.size + k < N + 1

section Same

variable {N k : Nat}

theorem Same.mono {j : Nat} {r r' : Rule α} (h : Same N j r r') [hk : Spent j k] : Same N k r r' :=
  ⟨fun c hc => h.step c (by have := hk.le; omega)⟩

theorem Same.of_left {r r₁ r₂ : Rule α} (h₁ : Same N k r r₁) (h₂ : Same N k r r₂) : Same N k r₁ r₂ :=
  ⟨fun c hc => (h₁.step c hc).symm.trans (h₂.step c hc)⟩

theorem eq_of_same {r r' : Rule α} (h : ∀ n, Same (n + 1) k r r') : r = r' := by
  funext c
  exact (h (4 * c.size + k)).step c (by omega)

theorem Same.succ {r r' : Rule α} (h : Same N k r r') : Same (N + 1) (k + 1) r r' :=
  ⟨fun c hc => h.step c (by omega)⟩

instance bind_same {x x' : Rule α} {f f' : α → Rule β} [hx : Same N k x x']
    [hforward : ∀ base, Forward base x] [hf : ∀ a, Same N k (f a) (f' a)] :
    Same N k (x >>= f) (x' >>= f') := by
  refine ⟨fun c hc => ?_⟩
  rw [run_bind, run_bind, ← hx.step c hc]
  cases hr : x c with
  | error e => rfl
  | ok p =>
    have hle := ((hforward c).step (.refl c) hr).size_le
    exact (hf p.1).step p.2 (by omega)

-- A tree taken pays for four levels.
instance bind_same_eats {x : Rule α} {f f' : α → Rule β} [hx : Eats x]
    [hf : ∀ a, Same N 4 (f a) (f' a)] : Same N k (x >>= f) (x >>= f') := by
  refine ⟨fun c hc => ?_⟩
  rw [run_bind, run_bind]
  cases hr : x c with
  | error e => rfl
  | ok p =>
    have hlt := hx.step hr
    exact (hf p.1).step p.2 (by omega)

instance bind_same_left {x x' : Rule α} {f : α → Rule β} [hx : Same N k x x'] :
    Same N k (x >>= f) (x' >>= f) :=
  ⟨fun c hc => by rw [run_bind, run_bind, hx.step c hc]⟩

instance bind_pair_same {γ : Type} {x x' : Rule (α × γ)} {f f' : α × γ → Rule β}
    [Same N k x x'] [∀ base, Forward base x] [hf : ∀ a b, Same N k (f (a, b)) (f' (a, b))] :
    Same N k (x >>= f) (x' >>= f') := by
  have : ∀ p, Same N k (f p) (f' p) := fun p => hf p.1 p.2
  exact bind_same

instance bind_option_same {x x' : Rule (Option α)} {f f' : Option α → Rule β} [Same N k x x']
    [∀ base, Forward base x] [hn : Same N k (f none) (f' none)]
    [hs : ∀ a, Same N k (f (some a)) (f' (some a))] : Same N k (x >>= f) (x' >>= f') := by
  have : ∀ o, Same N k (f o) (f' o) := by
    intro o
    cases o with
    | none => exact hn
    | some a => exact hs a
  exact bind_same

instance (priority := high) bind_member_same {x : Rule MemberKey} [Eats x] {f f' : MemberKey → Rule β}
    [hi : Same N 4 (f .index) (f' .index)] [hn : ∀ i, Same N 4 (f (.name i)) (f' (.name i))] :
    Same N k (x >>= f) (x >>= f') := by
  have : ∀ key, Same N 4 (f key) (f' key) := by
    intro key
    cases key with
    | index => exact hi
    | name i => exact hn i
  exact bind_same_eats
instance ite_same {p : Prop} [Decidable p] {x x' y y' : Rule α} [hx : Same N k x x']
    [hy : Same N k y y'] : Same N k (if p then x else y) (if p then x' else y') := by
  split
  · exact hx
  · exact hy

instance (priority := high) same_refl (r : Rule α) : Same N k r r := ⟨fun _ _ => rfl⟩

instance get_bind_same {f f' : Cursor → Rule β} [hf : ∀ c [Small N k c], Same N k (f c) (f' c)] :
    Same N k ((get : Rule Cursor) >>= f) ((get : Rule Cursor) >>= f') := by
  refine ⟨fun c hc => ?_⟩
  have := Small.mk hc
  rw [run_bind, run_bind, run_get, andThen_ok, andThen_ok, (hf c).step c hc]

instance set_bind_same {j : Nat} {c : Cursor} {f f' : PUnit → Rule β} [hc : Small N j c]
    [hf : Same N j (f ⟨⟩) (f' ⟨⟩)] : Same N k ((set c : Rule PUnit) >>= f) ((set c : Rule PUnit) >>= f') := by
  refine ⟨fun c _ => ?_⟩
  rw [run_bind, run_bind, run_set, andThen_ok, andThen_ok, hf.step _ hc.lt]

theorem bind_trees_same {f f' : List Tree → Rule β}
    (h : ∀ ts, 4 * sizeOfTrees ts + k < N + 1 → Same N k (f ts) (f' ts)) :
    Same N k (trees >>= f) (trees >>= f') := by
  refine ⟨fun c hc => ?_⟩
  rw [run_bind, run_bind, run_trees, andThen_ok, andThen_ok, (h c.rest hc).step c hc]

instance enter_same {d : Delimiter} {body body' : Rule α} [hb : Same N 4 body body'] :
    Same N k (enter d body) (enter d body') := by
  refine ⟨fun c hc => ?_⟩
  unfold enter
  match hr : c.rest with
  | .group e content s :: ts =>
    have hsize : 4 * sizeOfTrees content + 4 < N + 1 := by
      simp [Cursor.size, hr, sizeOfTrees, Tree.size] at hc
      omega
    simp only [run_self, hb.step { rest := content, leftover := c.leftover } hsize]
  | [] | .ident _ :: _ | .punct _ _ _ :: _ | .literal _ _ :: _ => rfl

instance within_same {d : Delimiter} {body body' : Rule α} [Same N 4 body body'] :
    Same N k (within d body) (within d body') := by
  unfold within
  exact bind_same_left

instance wouldRead_same {r r' : Rule α} [hr : Same N k r r'] : Same N k (wouldRead r) (wouldRead r') := by
  refine ⟨fun c hc => ?_⟩
  unfold wouldRead
  rw [run_self, run_self, hr.step c hc]

instance attempt_same {r r' : Rule α} [hr : Same N k r r'] : Same N k (attempt r) (attempt r') := by
  refine ⟨fun c hc => ?_⟩
  unfold attempt
  rw [run_self, run_self, hr.step c hc]

instance capture_same {r r' : Rule α} [hr : Same N k r r'] : Same N k (capture r) (capture r') := by
  refine ⟨fun c hc => ?_⟩
  unfold capture
  rw [run_self, run_self, hr.step { c with written := [] } hc]

instance withhold_same {r r' : Rule α} [hr : Same N k r r'] : Same N k (withhold r) (withhold r') := by
  refine ⟨fun c hc => ?_⟩
  unfold withhold
  rw [run_self, run_self, hr.step { c with written := [] } hc]

instance keeping_same {r r' : Rule (Kept α)} [hr : Same N k r r'] :
    Same N k (keeping r) (keeping r') := by
  refine ⟨fun c hc => ?_⟩
  unfold keeping
  rw [run_self, run_self, hr.step { c with written := [] } hc]

instance held_same {r r' : Rule α} [Same N k r r'] : Same N k (held r) (held r') := by
  unfold held; infer_instance
instance asWritten_same {r r' : Rule α} [Same N k r r'] : Same N k (asWritten r) (asWritten r') := by
  unfold asWritten; infer_instance

instance iterateFor_same (n : Nat) (s : σ) {body body' : σ → Rule (Progress σ)}
    [hb : ∀ s, Same N k (body s) (body' s)] [∀ s base, Forward base (body s)] :
    Same N k (iterateFor n s body) (iterateFor n s body') := by
  induction n generalizing s with
  | zero => exact same_refl _
  | succ n ih =>
    have hnext : ∀ p : Progress σ,
        Same N k (match p with | .done s => pure s | .again s => iterateFor n s body)
          (match p with | .done s => pure s | .again s => iterateFor n s body') := by
      intro p
      cases p with
      | done s => exact same_refl _
      | again s => exact ih s
    have := hb s
    exact bind_same

instance iterate_same (s : σ) {body body' : σ → Rule (Progress σ)}
    [∀ s, Same N k (body s) (body' s)] [∀ s base, Forward base (body s)] :
    Same N k (iterate s body) (iterate s body') := by
  unfold iterate; infer_instance
instance loop_same {body body' : Rule Bool} [Same N k body body'] [∀ base, Forward base body] :
    Same N k (loop body) (loop body') := by
  unfold loop; infer_instance
instance terminated_same {item item' : Rule α} [Same N k item item'] [∀ base, Forward base item] :
    Same N k (terminated item) (terminated item') := by
  unfold terminated; infer_instance
instance untilEnd_same {item item' : Rule α} [Same N k item item'] [∀ base, Forward base item] :
    Same N k (untilEnd item) (untilEnd item') := by
  unfold untilEnd; infer_instance

/-! ### Words that may be there

Where the word is there it is taken, and pays for four levels. -/

instance (priority := high) ite_true_same {_ : Decidable (true = true)} {x x' y y' : Rule α}
    [hx : Same N k x x'] : Same N k (if true = true then x else y) (if true = true then x' else y') := by
  simpa using hx

instance (priority := high) ite_false_same {_ : Decidable (false = true)} {x x' y y' : Rule α}
    [hy : Same N k y y'] :
    Same N k (if false = true then x else y) (if false = true then x' else y') := by
  simpa using hy

/-- What is taken where a probe finds it. -/
def probed (p : Probe) (r : Rule Unit) : Rule Bool := do
  if ← peek p then
    r
    return true
  else return false

theorem probed_bind_same {p : Probe} {r : Rule Unit} [hr : Eats r] {f f' : Bool → Rule β}
    (ht : Same N 4 (f true) (f' true)) (hf : Same N k (f false) (f' false)) :
    Same N k (probed p r >>= f) (probed p r >>= f') := by
  refine ⟨fun c hc => ?_⟩
  have hrun : ∀ f : Bool → Rule β, (probed p r >>= f) c =
      if p.test c.rest then andThen (r c) fun _ => f true else f false c := by
    intro f
    simp only [probed, run_bind, run_peek, andThen_ok, run_ite]
    split
    · cases r c <;> rfl
    · rfl
  rw [hrun f, hrun f']
  split
  · cases h : r c with
    | error e => rfl
    | ok a =>
      have hlt := hr.step h
      exact ht.step a.2 (by omega)
  · exact hf.step c hc

instance (priority := high) eatOp?_bind_same {s : String} [Operator s] {f f' : Bool → Rule β}
    [ht : Same N 4 (f true) (f' true)] [hf : Same N k (f false) (f' false)] :
    Same N k (eatOp? s >>= f) (eatOp? s >>= f') := probed_bind_same ht hf
instance (priority := high) eatWord?_bind_same {w : String} {f f' : Bool → Rule β}
    [ht : Same N 4 (f true) (f' true)] [hf : Same N k (f false) (f' false)] :
    Same N k (eatWord? w >>= f) (eatWord? w >>= f') := probed_bind_same ht hf
instance (priority := high) eatLifetime?_bind_same {f f' : Bool → Rule β}
    [ht : Same N 4 (f true) (f' true)] [hf : Same N k (f false) (f' false)] :
    Same N k (eatLifetime? >>= f) (eatLifetime? >>= f') := probed_bind_same ht hf

/-! ### Choosing a rule -/

/-- Both choose nothing, or rules that are the same. -/
inductive SameOption (N k : Nat) : Option (Rule α) → Option (Rule α) → Prop
  | none : SameOption N k none none
  | some {r r' : Rule α} (hr : Same N k r r') (hforward : ∀ base, Forward base r) :
    SameOption N k (some r) (some r')

class SameChoice (N k : Nat) (x x' : Rule (Option (Rule α))) : Prop where
  step : ∀ c, 4 * c.size + k < N + 1 → (∃ e, x c = .error e ∧ x' c = .error e) ∨
    ∃ o o' c', x c = .ok (o, c') ∧ x' c = .ok (o', c') ∧ SameOption N k o o'

instance pure_none_sameChoice : SameChoice N k (pure none : Rule (Option (Rule α))) (pure none) :=
  ⟨fun c _ => .inr ⟨none, none, c, rfl, rfl, .none⟩⟩

instance pure_some_sameChoice {r r' : Rule α} [hr : Same N k r r'] [hf : ∀ base, Forward base r] :
    SameChoice N k (pure (some r)) (pure (some r')) :=
  ⟨fun c _ => .inr ⟨some r, some r', c, rfl, rfl, .some hr hf⟩⟩

instance bind_sameChoice {x : Rule β} {f f' : β → Rule (Option (Rule α))}
    [hx : ∀ base, Forward base x] [hf : ∀ b, SameChoice N k (f b) (f' b)] :
    SameChoice N k (x >>= f) (x >>= f') := by
  refine ⟨fun c hc => ?_⟩
  rw [run_bind, run_bind]
  cases hr : x c with
  | error e => exact .inl ⟨e, rfl, rfl⟩
  | ok p =>
    have hle := ((hx c).step (.refl c) hr).size_le
    exact (hf p.1).step p.2 (by omega)

instance ite_sameChoice {p : Prop} [Decidable p] {x x' y y' : Rule (Option (Rule α))}
    [hx : SameChoice N k x x'] [hy : SameChoice N k y y'] :
    SameChoice N k (if p then x else y) (if p then x' else y') := by
  split
  · exact hx
  · exact hy

theorem bind_chosen_same {x x' : Rule (Option (Rule α))} {f f' : Option (Rule α) → Rule β}
    [hx : SameChoice N k x x'] (hforward : ∀ base, Forward base x) (hn : Same N k (f none) (f' none))
    (hs : ∀ r r' [Same N k r r'] [∀ base, Forward base r], Same N k (f (some r)) (f' (some r'))) :
    Same N k (x >>= f) (x' >>= f') := by
  refine ⟨fun c hc => ?_⟩
  rw [run_bind, run_bind]
  obtain ⟨e, h, h'⟩ | ⟨o, o', c', h, h', hsame⟩ := hx.step c hc
  · rw [h, h']
    rfl
  · have hle := ((hforward c).step (.refl c) h).size_le
    rw [h, h', andThen_ok, andThen_ok]
    cases hsame with
    | none => exact hn.step c' (by omega)
    | some hr hf => exact (hs _ _).step c' (by omega)

end Same

end Rule

end FetchKit.Grammar

namespace FetchKit.Grammar
open FetchKit.Source Rule

/-- The records are the same up to a depth: each field where the levels it needs are left. -/
class Rules.Same (N : Nat) (g g' : Rules) : Prop where
  angle : Rule.Same N 1 g.angle g'.angle
  binder : Rule.Same N 1 g.binder g'.binder
  fields : Rule.Same N 1 g.fields g'.fields
  imports : ∀ allowRoot, Rule.Same N 1 (g.imports allowRoot) (g'.imports allowRoot)
  item : ∀ attributes, Rule.Same N 1 (g.item attributes) (g'.item attributes)
  pattern : Rule.Same N 1 g.pattern g'.pattern
  operators : ∀ first allowStruct p,
    Rule.Same N 1 (g.operators first allowStruct p) (g'.operators first allowStruct p)
  type : ∀ plus, Rule.Same N 2 (g.type plus) (g'.type plus)
  unary : ∀ allowStruct, Rule.Same N 2 (g.unary allowStruct) (g'.unary allowStruct)
  expr : ∀ allowStruct, Rule.Same N 2 (g.expr allowStruct) (g'.expr allowStruct)
  bounded : Rule.Same N 2 g.bounded g'.bounded
  statements : Rule.Same N 3 g.statements g'.statements

section Grammar

variable {N k : Nat} {g g' : Rules} [g.Forward] [hg : Rules.Same N g g']

instance angle_same [Spent 1 k] : Rule.Same N k g.angle g'.angle := hg.angle.mono
instance binder_same [Spent 1 k] : Rule.Same N k g.binder g'.binder := hg.binder.mono
instance fields_same [Spent 1 k] : Rule.Same N k g.fields g'.fields := hg.fields.mono
instance imports_same [Spent 1 k] (allowRoot : Bool) :
    Rule.Same N k (g.imports allowRoot) (g'.imports allowRoot) := (hg.imports allowRoot).mono
instance item_same [Spent 1 k] (attributes : List Attribute) :
    Rule.Same N k (g.item attributes) (g'.item attributes) := (hg.item attributes).mono
instance pattern_same [Spent 1 k] : Rule.Same N k g.pattern g'.pattern := hg.pattern.mono
instance operators_same [Spent 1 k] (first : ExprShape) (allowStruct : Bool) (p : Nat) :
    Rule.Same N k (g.operators first allowStruct p) (g'.operators first allowStruct p) :=
  (hg.operators first allowStruct p).mono
instance type_same [Spent 2 k] (plus : Bool) : Rule.Same N k (g.type plus) (g'.type plus) :=
  (hg.type plus).mono
instance unary_same [Spent 2 k] (allowStruct : Bool) :
    Rule.Same N k (g.unary allowStruct) (g'.unary allowStruct) := (hg.unary allowStruct).mono
instance expr_same [Spent 2 k] (allowStruct : Bool) :
    Rule.Same N k (g.expr allowStruct) (g'.expr allowStruct) := (hg.expr allowStruct).mono
instance bounded_same [Spent 2 k] : Rule.Same N k g.bounded g'.bounded := hg.bounded.mono
instance statements_same [Spent 3 k] : Rule.Same N k g.statements g'.statements :=
  hg.statements.mono

/-! ### Attributes -/

set_option synthInstance.maxSize 2000 in
instance valueAfter_same (p : Path) :
    Rule.Same N k (valueAfter g p) (valueAfter g' p) := by
  unfold valueAfter; infer_instance
instance memberKey_eats : Eats memberKey := by
  refine ⟨fun {c a c'} h => ?_⟩
  obtain ⟨ts, w, l⟩ := c
  simp only [memberKey, run_bind, run_peek, andThen_ok, run_ite, run_trees] at h
  split at h
  · obtain ⟨i, c₁, hi, h⟩ := andThen_eq_ok.1 h
    cases h
    exact Eats.step hi
  split at h
  · rw [run_ite] at h
    split at h
    · obtain ⟨t, c₁, ht, h⟩ := bind_eq_ok.1 h
      cases h
      simp [Cursor.size, sizeOfTrees, Tree.size]
    · cases h
  · rw [run_ite] at h
    split at h
    · obtain ⟨t, c₁, ht, h⟩ := bind_eq_ok.1 h
      cases h
      simp [Cursor.size, sizeOfTrees, Tree.size]
      omega
    · cases h
  · cases h
instance afterPath_same [Spent 2 k] (p : Path) :
    Rule.Same N k (afterPath g p) (afterPath g' p) := by
  unfold afterPath
  refine @bind_same _ _ _ _ _ _ _ _ inferInstance inferInstance fun ts => ?_
  split <;> infer_instance
instance attributeContent_same [Spent 2 k] :
    Rule.Same N k (attributeContent g) (attributeContent g') := by
  unfold attributeContent; infer_instance
instance outerAttribute_same :
    Rule.Same N k (outerAttribute g) (outerAttribute g') := by
  unfold outerAttribute; infer_instance
instance outerAttributes_same :
    Rule.Same N k (outerAttributes g) (outerAttributes g') := by
  unfold outerAttributes; infer_instance
set_option synthInstance.maxSize 2000 in
instance innerAttributes_same :
    Rule.Same N k (innerAttributes g) (innerAttributes g') := by
  unfold innerAttributes; infer_instance
instance plainBlock_same :
    Rule.Same N k (plainBlock g) (plainBlock g') := by
  unfold plainBlock; infer_instance
instance bracedBlock_same :
    Rule.Same N k (bracedBlock g) (bracedBlock g') := by
  unfold bracedBlock; infer_instance

/-! ### Types -/

instance constArgument_same :
    Rule.Same N k (constArgument g) (constArgument g') := by
  unfold constArgument; infer_instance
instance binder?_same [Spent 1 k] :
    Rule.Same N k (binder? g) (binder? g') := by
  unfold binder?; infer_instance
instance returnType_same (plus : Bool) :
    Rule.Same N k (returnType g plus) (returnType g' plus) := by
  unfold returnType; infer_instance
set_option synthInstance.maxSize 2000 in
instance segment_same (inExpr : Bool) :
    Rule.Same N k (segment g inExpr) (segment g' inExpr) := by
  unfold segment; infer_instance
instance moreSegments_same (inExpr : Bool) (segments : List Segment) :
    Rule.Same N k (moreSegments g inExpr segments) (moreSegments g' inExpr segments) := by
  unfold moreSegments; infer_instance
instance path_same (inExpr : Bool) :
    Rule.Same N k (path g inExpr) (path g' inExpr) := by
  unfold path; infer_instance
set_option synthInstance.maxSize 20000 in
instance anyPath_same (inExpr : Bool) :
    Rule.Same N k (anyPath g inExpr) (anyPath g' inExpr) := by
  unfold anyPath; infer_instance
set_option synthInstance.maxSize 2000 in
instance parenArguments?_same (p : Path) :
    Rule.Same N k (parenArguments? g p) (parenArguments? g' p) := by
  unfold parenArguments?; infer_instance
set_option synthInstance.maxSize 2000 in
instance traitBound_same [Spent 1 k] (allowConst : Bool) :
    Rule.Same N k (traitBound g allowConst) (traitBound g' allowConst) := by
  unfold traitBound; infer_instance
instance bound_same [Spent 1 k] (allowCapture allowConst : Bool) :
    Rule.Same N k (bound g allowCapture allowConst) (bound g' allowCapture allowConst) := by
  unfold bound; infer_instance
instance boundsUntil_same {bound bound' : Rule BoundKind} (stop : Rule Bool)
    [Rule.Same N k bound bound'] [∀ base, Rule.Forward base bound] [∀ base, Rule.Forward base stop] :
    Rule.Same N k (boundsUntil bound stop) (boundsUntil bound' stop) := by
  unfold boundsUntil; infer_instance
instance genericArgument_same [Spent 2 k] :
    Rule.Same N k (genericArgument g) (genericArgument g') := by
  unfold genericArgument
  repeat' first
    | infer_instance
    | split
    | refine @bind_same _ _ _ _ _ _ _ _ inferInstance inferInstance fun _ => ?_
set_option synthInstance.maxSize 2000 in
instance angleRule_same :
    Rule.Same N k (angleRule g) (angleRule g') := by
  unfold angleRule; infer_instance
instance boundList_same [Spent 1 k] (plus allowCapture allowConst : Bool) :
    Rule.Same N k (boundList g plus allowCapture allowConst) (boundList g' plus allowCapture allowConst) := by
  unfold boundList; infer_instance
instance objectBounds_same [Spent 1 k] (plus : Bool) :
    Rule.Same N k (objectBounds g plus) (objectBounds g' plus) := by
  unfold objectBounds; infer_instance
instance implBounds_same [Spent 1 k] (plus : Bool) :
    Rule.Same N k (implBounds g plus) (implBounds g' plus) := by
  unfold implBounds; infer_instance
instance moreBounds_same :
    Rule.Same N k (moreBounds g) (moreBounds g') := by
  unfold moreBounds; infer_instance
set_option synthInstance.maxSize 2000 in
instance boundsAfterPath_same :
    Rule.Same N k (boundsAfterPath g) (boundsAfterPath g') := by
  unfold boundsAfterPath; infer_instance
set_option synthInstance.maxSize 2000 in
instance bareArgument_same [Spent 2 k] (first : Bool) :
    Rule.Same N k (bareArgument g first) (bareArgument g' first) := by
  unfold bareArgument; infer_instance
set_option synthInstance.maxSize 20000 in
instance bareFunction_same :
    Rule.Same N k (bareFunction g) (bareFunction g') := by
  unfold bareFunction; infer_instance
instance moreElements_same :
    Rule.Same N k (moreElements g) (moreElements g') := by
  unfold moreElements; infer_instance
set_option synthInstance.maxSize 2000 in
instance parenType_same (plus : Bool) : Rule.Same N k (parenType g plus) (parenType g' plus) := by
  unfold parenType
  refine @bind_pair_same _ _ _ _ _ _ _ _ _ inferInstance inferInstance fun content missed => ?_
  cases content with
  | type s =>
    cases s with
    | bounds lone => cases lone <;> infer_instance
    | _ => infer_instance
  | _ => infer_instance

instance typeAfterPath_same (plus binder : Bool) :
    Rule.Same N k (typeAfterPath g plus binder) (typeAfterPath g' plus binder) := by
  unfold typeAfterPath
  refine @bind_pair_same _ _ _ _ _ _ _ _ _ inferInstance inferInstance fun qualified p => ?_
  cases qualified <;> infer_instance
set_option synthInstance.maxSize 2000 in
instance pointer_same :
    Rule.Same N k (pointer g) (pointer g') := by
  unfold pointer; infer_instance
instance reference_same :
    Rule.Same N k (reference g) (reference g') := by
  unfold reference; infer_instance
instance arrayOrSlice_same :
    Rule.Same N k (arrayOrSlice g) (arrayOrSlice g') := by
  unfold arrayOrSlice; infer_instance
instance keptType_same [Spent 1 k] (plus : Bool) :
    Rule.Same N k (keptType g plus) (keptType g' plus) := by
  unfold keptType
  repeat' first
    | infer_instance
    | refine @ite_same _ _ _ _ _ _ _ _ _ ?_ ?_
    | refine @bind_same _ _ _ _ _ _ _ _ inferInstance inferInstance fun _ => ?_
instance typeRule_same [Spent 1 k] (plus : Bool) :
    Rule.Same N k (typeRule g plus) (typeRule g' plus) := by
  unfold typeRule; infer_instance

/-! ### Generic parameters -/

instance boundsAfterColon_same {bounds bounds' : Rule Unit} [Rule.Same N k bounds bounds'] :
    Rule.Same N k (boundsAfterColon bounds) (boundsAfterColon bounds') := by
  unfold boundsAfterColon; infer_instance
instance typeParameter_same (attributes : List Tree) :
    Rule.Same N k (typeParameter g attributes) (typeParameter g' attributes) := by
  unfold typeParameter; infer_instance
instance constParameter_same (attributes : List Tree) :
    Rule.Same N k (constParameter g attributes) (constParameter g' attributes) := by
  unfold constParameter; infer_instance
instance parameter_same :
    Rule.Same N k (parameter g) (parameter g') := by
  unfold parameter; infer_instance
instance boundParameter_same :
    Rule.Same N k (boundParameter g) (boundParameter g') := by
  unfold boundParameter; infer_instance
instance angledParameters_same {parameter parameter' : Rule Param}
    [Rule.Same N 4 parameter parameter'] [∀ base, Rule.Forward base parameter] :
    Rule.Same N k (angledParameters parameter) (angledParameters parameter') := by
  unfold angledParameters; infer_instance
instance generics?_same :
    Rule.Same N k (generics? g) (generics? g') := by
  unfold generics?; infer_instance
instance generics_same :
    Rule.Same N k (generics g) (generics g') := by
  unfold generics; infer_instance
instance binderRule_same :
    Rule.Same N k (binderRule g) (binderRule g') := by
  unfold binderRule; infer_instance
set_option synthInstance.maxSize 2000 in
instance predicate_same [Spent 2 k] : Rule.Same N k (predicate g) (predicate g') := by
  unfold predicate; infer_instance
set_option synthInstance.maxSize 2000 in
instance whereClause_same :
    Rule.Same N k (whereClause g) (whereClause g') := by
  unfold whereClause; infer_instance
instance whereClause?_same :
    Rule.Same N k (whereClause? g) (whereClause? g') := by
  unfold whereClause?; infer_instance

/-! ### Patterns -/

set_option synthInstance.maxSize 2000 in
instance alternatives_same [Spent 1 k] :
    Rule.Same N k (alternatives g) (alternatives g') := by
  unfold alternatives; infer_instance
instance constBlock_same :
    Rule.Same N k (constBlock g) (constBlock g') := by
  unfold constBlock; infer_instance
set_option synthInstance.maxSize 2000 in
instance rangeBound_same :
    Rule.Same N k (rangeBound g) (rangeBound g') := by
  unfold rangeBound; infer_instance
instance limits_eats : Eats limits := by
  unfold limits; infer_instance
instance rangeAfter_same :
    Rule.Same N k (rangeAfter g) (rangeAfter g') := by
  unfold rangeAfter; infer_instance
instance rangeFromNothing_same :
    Rule.Same N k (rangeFromNothing g) (rangeFromNothing g') := by
  unfold rangeFromNothing; infer_instance
set_option synthInstance.maxSize 2000 in
instance fieldPattern_same :
    Rule.Same N k (fieldPattern g) (fieldPattern g') := by
  unfold fieldPattern; infer_instance
set_option synthInstance.maxSize 2000 in
instance structPattern_same :
    Rule.Same N k (structPattern g) (structPattern g') := by
  unfold structPattern; infer_instance
instance pathPattern_same :
    Rule.Same N k (pathPattern g) (pathPattern g') := by
  unfold pathPattern; infer_instance
instance namePattern_same :
    Rule.Same N k (namePattern g) (namePattern g') := by
  unfold namePattern; infer_instance
instance literalPattern_same :
    Rule.Same N k (literalPattern g) (literalPattern g') := by
  unfold literalPattern; infer_instance
instance slicePattern_same :
    Rule.Same N k (slicePattern g) (slicePattern g') := by
  unfold slicePattern; infer_instance
set_option synthInstance.maxSize 20000 in
instance patternRule_same :
    Rule.Same N k (patternRule g) (patternRule g') := by
  unfold patternRule; infer_instance

/-! ### Expressions -/

instance rightOperand_same [Spent 2 k] (allowStruct : Bool) (p : Nat) :
    Rule.Same N k (rightOperand g allowStruct p) (rightOperand g' allowStruct p) := by
  unfold rightOperand; infer_instance
instance rangeTail_same (allowStruct : Bool) :
    Rule.Same N k (rangeTail g allowStruct) (rangeTail g' allowStruct) := by
  unfold rangeTail; infer_instance
theorem peekOperator_bind_same {β : Type} {f f' : Option (String × Nat) → Rule β}
    (hn : Rule.Same N k (f none) (f' none))
    (hs : ∀ o p [Operator o], Rule.Same N k (f (some (o, p))) (f' (some (o, p)))) :
    Rule.Same N k (peekOperator >>= f) (peekOperator >>= f') := by
  have hoperators : ∀ o ∈ binaryOperators, o.1.toList ≠ [] := by decide
  refine ⟨fun c hc => ?_⟩
  simp only [peekOperator, run_bind, run_trees, andThen_ok, run_pure]
  cases hfind : binaryOperators.find? fun o => (op o.1).test c.rest with
  | none => exact hn.step c hc
  | some o =>
    have : Operator o.1 := ⟨hoperators o (List.mem_of_find?_eq_some hfind)⟩
    exact (hs o.1 o.2).step c hc
set_option synthInstance.maxSize 2000 in
instance operatorsRule_same (first : ExprShape) (allowStruct : Bool) (p : Nat) :
    Rule.Same N k (operatorsRule g first allowStruct p) (operatorsRule g' first allowStruct p) := by
  unfold operatorsRule
  refine @iterate_same _ _ _ _ _ _ (fun operand => ?_) inferInstance
  refine @ite_same _ _ _ _ _ _ _ _ _ inferInstance (peekOperator_bind_same ?_ fun o p => ?_)
  · infer_instance
  · infer_instance
instance callArguments_same :
    Rule.Same N k (callArguments g) (callArguments g') := by
  unfold callArguments; infer_instance
theorem floatMembers_rest {negative : Bool} {text : String} {span : Span} {rest : List Tree}
    {c c' : Cursor} {b : Bool} (h : floatMembers negative text span rest c = .ok (b, c')) :
    c'.rest = rest := by
  unfold floatMembers at h
  obtain ⟨places, c₁, -, h⟩ := bind_eq_ok.1 h
  rw [run_bind, run_advance, andThen_ok, run_ite] at h
  split at h
  · cases h
    rfl
  · cases h
    rfl

set_option synthInstance.maxSize 2000 in
instance memberTail_same : Rule.Same N k (memberTail g) (memberTail g') := by
  have hplaces : ∀ negative text span (ts : List Tree) (f f' : Bool → Rule Unit)
      [∀ b, Rule.Same N 4 (f b) (f' b)], 4 * sizeOfTrees ts + 4 < N + 1 →
      Rule.Same N 4 (floatMembers negative text span ts >>= f)
        (floatMembers negative text span ts >>= f') := by
    intro negative text span ts f f' hf hts
    refine ⟨fun c _ => ?_⟩
    rw [run_bind, run_bind]
    cases hr : floatMembers negative text span ts c with
    | error e => rfl
    | ok p => exact (hf p.1).step p.2 (by rwa [Cursor.size, floatMembers_rest hr])
  unfold memberTail
  refine @bind_same_eats _ _ _ _ _ _ _ inferInstance fun _ => bind_trees_same fun ts hts => ?_
  split
  · refine @ite_same _ _ _ _ _ _ _ _ _ (hplaces _ _ _ _ _ _ ?_) inferInstance
    simp only [sizeOfTrees] at hts
    omega
  · refine @ite_same _ _ _ _ _ _ _ _ _ (hplaces _ _ _ _ _ _ ?_) inferInstance
    simp only [sizeOfTrees] at hts
    omega
  · infer_instance

set_option synthInstance.maxSize 2000 in
instance trailers_same (first : ExprShape) :
    Rule.Same N k (trailers g first) (trailers g' first) := by
  unfold trailers; infer_instance
instance fieldValue_same :
    Rule.Same N k (fieldValue g) (fieldValue g') := by
  unfold fieldValue; infer_instance
set_option synthInstance.maxSize 2000 in
instance structFields_same :
    Rule.Same N k (structFields g) (structFields g') := by
  unfold structFields; infer_instance
instance pathOperand_same (allowStruct : Bool) :
    Rule.Same N k (pathOperand g allowStruct) (pathOperand g' allowStruct) := by
  unfold pathOperand; infer_instance
instance closureArgument_same [Spent 1 k] :
    Rule.Same N k (closureArgument g) (closureArgument g') := by
  unfold closureArgument; infer_instance
set_option synthInstance.maxSize 20000 in
instance closure_same [Spent 1 k] (allowStruct : Bool) :
    Rule.Same N k (closure g allowStruct) (closure g' allowStruct) := by
  unfold closure; infer_instance
instance parenOrTuple_same :
    Rule.Same N k (parenOrTuple g) (parenOrTuple g') := by
  unfold parenOrTuple; infer_instance
set_option synthInstance.maxSize 2000 in
instance arrayOrRepeat_same :
    Rule.Same N k (arrayOrRepeat g) (arrayOrRepeat g') := by
  unfold arrayOrRepeat; infer_instance
instance letOperand_same (allowStruct : Bool) :
    Rule.Same N k (letOperand g allowStruct) (letOperand g' allowStruct) := by
  unfold letOperand; infer_instance
set_option synthInstance.maxSize 20000 in
instance ifOperand_same :
    Rule.Same N k (ifOperand g) (ifOperand g') := by
  unfold ifOperand; infer_instance
instance whileOperand_same :
    Rule.Same N k (whileOperand g) (whileOperand g') := by
  unfold whileOperand; infer_instance
instance forOperand_same :
    Rule.Same N k (forOperand g) (forOperand g') := by
  unfold forOperand; infer_instance
instance loopOperand_same :
    Rule.Same N k (loopOperand g) (loopOperand g') := by
  unfold loopOperand; infer_instance
set_option synthInstance.maxSize 2000 in
instance labelled_same :
    Rule.Same N k (labelled g) (labelled g') := by
  unfold labelled; infer_instance
set_option synthInstance.maxSize 2000 in
instance arm_same [Spent 1 k] :
    Rule.Same N k (arm g) (arm g') := by
  unfold arm; infer_instance
instance matchOperand_same :
    Rule.Same N k (matchOperand g) (matchOperand g') := by
  unfold matchOperand; infer_instance
set_option synthInstance.maxSize 2000 in
instance breakOperand_same (allowStruct : Bool) :
    Rule.Same N k (breakOperand g allowStruct) (breakOperand g' allowStruct) := by
  unfold breakOperand; infer_instance
set_option synthInstance.maxSize 20000 in
instance blockLike_same : SameChoice N k (blockLike g) (blockLike g') := by
  unfold blockLike; infer_instance
instance atom_same [Spent 1 k] (allowStruct : Bool) :
    Rule.Same N k (atom g allowStruct) (atom g' allowStruct) := by
  unfold atom
  repeat' first
    | infer_instance
    | refine @ite_same _ _ _ _ _ _ _ _ _ ?_ ?_
    | exact bind_chosen_same (fun _ => (blockLike_chooses g).forward) inferInstance
        fun _ _ _ _ => inferInstance
    | refine @bind_same _ _ _ _ _ _ _ _ inferInstance inferInstance fun _ => ?_
instance trailed_same [Spent 1 k] (attributes : List Attribute) (allowStruct : Bool) :
    Rule.Same N k (trailed g attributes allowStruct) (trailed g' attributes allowStruct) := by
  unfold trailed; infer_instance
set_option synthInstance.maxSize 2000 in
instance unaryAfter_same [Spent 1 k] (attributes : List Attribute) (allowStruct : Bool) :
    Rule.Same N k (unaryAfter g attributes allowStruct) (unaryAfter g' attributes allowStruct) := by
  unfold unaryAfter; infer_instance
instance unaryRule_same [Spent 1 k] (allowStruct : Bool) :
    Rule.Same N k (unaryRule g allowStruct) (unaryRule g' allowStruct) := by
  unfold unaryRule; infer_instance
instance exprRule_same [Spent 1 k] (allowStruct : Bool) :
    Rule.Same N k (exprRule g allowStruct) (exprRule g' allowStruct) := by
  unfold exprRule; infer_instance
instance leadingAttributes_same :
    Rule.Same N k (leadingAttributes g) (leadingAttributes g') := by
  unfold leadingAttributes; infer_instance
set_option synthInstance.maxSize 2000 in
instance boundedRule_same [Spent 1 k] : Rule.Same N k (boundedRule g) (boundedRule g') := by
  unfold boundedRule
  refine @bind_pair_same _ _ _ _ _ _ _ _ _ inferInstance inferInstance fun _ attributes => ?_
  exact bind_chosen_same (fun _ => (blockLike_chooses g).forward) inferInstance
    fun _ _ _ _ => inferInstance

/-! ### Statements -/

set_option synthInstance.maxSize 2000 in
instance localBinding_same :
    Rule.Same N k (localBinding g) (localBinding g') := by
  unfold localBinding; infer_instance
instance keptStatement_same [Spent 2 k] :
    Rule.Same N k (keptStatement g) (keptStatement g') := by
  unfold keptStatement; infer_instance
instance statement_same [Spent 2 k] :
    Rule.Same N k (statement g) (statement g') := by
  unfold statement; infer_instance
set_option synthInstance.maxSize 2000 in
instance statementsRule_same [Spent 2 k] :
    Rule.Same N k (statementsRule g) (statementsRule g') := by
  unfold statementsRule; infer_instance

/-! ### Items -/

instance boundsTo_same [Spent 1 k] (allowConst : Bool) (stop : Rule Bool)
    [∀ base, Rule.Forward base stop] :
    Rule.Same N k (boundsTo g allowConst stop) (boundsTo g' allowConst stop) := by
  unfold boundsTo; infer_instance
instance receiver_same [Spent 2 k] :
    Rule.Same N k (receiver g) (receiver g') := by
  unfold receiver; infer_instance
set_option synthInstance.maxSize 2000 in
instance argument_same [Spent 2 k] :
    Rule.Same N k (argument g) (argument g') := by
  unfold argument; infer_instance
instance arguments_same [Spent 2 k] : Rule.Same N k (arguments g) (arguments g') := by
  unfold arguments
  refine @bind_same_left _ _ _ _ _ _ _ (@iterate_same _ _ _ _ _ _ (fun seen => ?_) ?_)
  · infer_instance
  · intro s base
    repeat' first
      | refine @ite_forward _ _ _ _ _ _ ?_ ?_
      | refine @bind_forward _ _ _ _ _ inferInstance fun kind => ?_
      | infer_instance
      | cases ‹ArgumentKind›
set_option synthInstance.maxSize 2000 in
instance signature_same (allowSafe : Bool) :
    Rule.Same N k (signature g allowSafe) (signature g' allowSafe) := by
  unfold signature; infer_instance
set_option synthInstance.maxSize 2000 in
instance namedField_same :
    Rule.Same N k (namedField g) (namedField g') := by
  unfold namedField; infer_instance
instance namedFields_same {fields fields' : Rule Unit} [Rule.Same N 4 fields fields']
    [∀ base, Rule.Forward base fields] :
    Rule.Same N k (namedFields fields) (namedFields fields') := by
  unfold namedFields; infer_instance
instance fieldsRule_same :
    Rule.Same N k (fieldsRule g) (fieldsRule g') := by
  unfold fieldsRule; infer_instance
instance tupleFields_same :
    Rule.Same N k (tupleFields g) (tupleFields g') := by
  unfold tupleFields; infer_instance
set_option synthInstance.maxSize 2000 in
instance variant_same :
    Rule.Same N k (variant g) (variant g') := by
  unfold variant; infer_instance
set_option synthInstance.maxSize 2000 in
instance structBody_same :
    Rule.Same N k (structBody g) (structBody g') := by
  unfold structBody; infer_instance
instance enumBody_same :
    Rule.Same N k (enumBody g) (enumBody g') := by
  unfold enumBody; infer_instance
instance unionBody_same :
    Rule.Same N k (unionBody g) (unionBody g') := by
  unfold unionBody; infer_instance
instance dataType_same (keyword : String) {body body' : Rule (Option Where)}
    [Rule.Same N 4 body body'] (attributes : List Attribute) :
    Rule.Same N k (dataType g keyword body attributes) (dataType g' keyword body' attributes) := by
  unfold dataType; infer_instance
set_option synthInstance.maxSize 2000 in
instance importsRule_same (allowRoot : Bool) :
    Rule.Same N k (importsRule g allowRoot) (importsRule g' allowRoot) := by
  unfold importsRule; infer_instance
instance useItem_same :
    Rule.Same N k (useItem g) (useItem g') := by
  unfold useItem; infer_instance
set_option synthInstance.maxSize 2000 in
instance typeAlias_same (place : ConditionsPlace) :
    Rule.Same N k (typeAlias g place) (typeAlias g' place) := by
  unfold typeAlias; infer_instance
set_option synthInstance.maxSize 2000 in
instance constantAfter_same :
    Rule.Same N k (constantAfter g) (constantAfter g') := by
  unfold constantAfter; infer_instance
set_option synthInstance.maxSize 2000 in
instance staticItem_same :
    Rule.Same N k (staticItem g) (staticItem g') := by
  unfold staticItem; infer_instance
instance traitMethod_same :
    Rule.Same N k (traitMethod g) (traitMethod g') := by
  unfold traitMethod; infer_instance
set_option synthInstance.maxSize 2000 in
instance traitMemberAfter_same (marked : Bool) :
    Rule.Same N k (traitMemberAfter g marked) (traitMemberAfter g' marked) := by
  unfold traitMemberAfter; infer_instance
instance traitMember_same :
    Rule.Same N k (traitMember g) (traitMember g') := by
  unfold traitMember; infer_instance
instance implMethod_same :
    Rule.Same N k (implMethod g) (implMethod g') := by
  unfold implMethod; infer_instance
set_option synthInstance.maxSize 2000 in
instance implMemberAfter_same : Rule.Same N k (implMemberAfter g) (implMemberAfter g') := by
  unfold implMemberAfter
  refine @get_bind_same _ _ _ _ _ fun start _ => ?_
  infer_instance
instance implMember_same :
    Rule.Same N k (implMember g) (implMember g') := by
  unfold implMember; infer_instance
instance foreignFunction_same :
    Rule.Same N k (foreignFunction g) (foreignFunction g') := by
  unfold foreignFunction; infer_instance
set_option synthInstance.maxSize 2000 in
instance foreignStatic_same :
    Rule.Same N k (foreignStatic g) (foreignStatic g') := by
  unfold foreignStatic; infer_instance
instance foreignMemberAfter_same :
    Rule.Same N k (foreignMemberAfter g) (foreignMemberAfter g') := by
  unfold foreignMemberAfter; infer_instance
instance foreignMember_same :
    Rule.Same N k (foreignMember g) (foreignMember g') := by
  unfold foreignMember; infer_instance
instance membersIn_same {α : Type} {member member' : Rule α} [Rule.Same N 4 member member']
    [∀ base, Rule.Forward base member] :
    Rule.Same N k (membersIn g member) (membersIn g' member') := by
  unfold membersIn; infer_instance
instance wholeItem_same [Spent 1 k] :
    Rule.Same N k (wholeItem g) (wholeItem g') := by
  unfold wholeItem; infer_instance
set_option synthInstance.maxSize 2000 in
instance moduleItem_same :
    Rule.Same N k (moduleItem g) (moduleItem g') := by
  unfold moduleItem; infer_instance
instance foreignBlock_same :
    Rule.Same N k (foreignBlock g) (foreignBlock g') := by
  unfold foreignBlock; infer_instance
instance traitBody_same [Spent 1 k] :
    Rule.Same N k (traitBody g) (traitBody g') := by
  unfold traitBody; infer_instance
instance traitItem_same :
    Rule.Same N k (traitItem g) (traitItem g') := by
  unfold traitItem; infer_instance
set_option synthInstance.maxSize 2000 in
instance traitOrAlias_same :
    Rule.Same N k (traitOrAlias g) (traitOrAlias g') := by
  unfold traitOrAlias; infer_instance
set_option synthInstance.maxSize 20000 in
set_option synthInstance.maxHeartbeats 200000 in
instance implItem_same : Rule.Same N k (implItem g) (implItem g') := by
  unfold implItem
  repeat' first
    | infer_instance
    | refine @ite_same _ _ _ _ _ _ _ _ _ ?_ ?_
    | refine @bind_same_eats _ _ _ _ _ _ _ inferInstance fun _ => ?_
    | refine @bind_same _ _ _ _ _ _ _ _ inferInstance inferInstance fun _ => ?_
instance functionItem_same :
    Rule.Same N k (functionItem g) (functionItem g') := by
  unfold functionItem; infer_instance
set_option synthInstance.maxSize 2000 in
instance foreignItem_same {j : Nat} (start : Cursor) [Small N j start] :
    Rule.Same N k (foreignItem g start) (foreignItem g' start) := by
  unfold foreignItem; infer_instance
set_option synthInstance.maxHeartbeats 200000 in
set_option synthInstance.maxSize 20000 in
instance unsafeItem_same {j : Nat} (start : Cursor) [Small N j start] :
    Rule.Same N k (unsafeItem g start) (unsafeItem g' start) := by
  unfold unsafeItem; infer_instance
set_option synthInstance.maxHeartbeats 200000 in
set_option synthInstance.maxSize 20000 in
instance itemRule_same (attributes : List Attribute) :
    Rule.Same N k (itemRule g attributes) (itemRule g' attributes) := by
  unfold itemRule
  refine @get_bind_same _ _ _ _ _ fun start _ => ?_
  repeat' first
    | infer_instance
    | refine @ite_same _ _ _ _ _ _ _ _ _ ?_ ?_
    | refine @bind_same _ _ _ _ _ _ _ _ inferInstance inferInstance fun _ => ?_

end Grammar

/-! ## All levels agree -/

/-- The level above: each rule in terms of these. -/
def Rules.next (g : Rules) : Rules where
  type plus := typeRule g plus
  angle := angleRule g
  pattern := patternRule g
  expr allowStruct := exprRule g allowStruct
  bounded := boundedRule g
  unary allowStruct := unaryRule g allowStruct
  operators first allowStruct base := operatorsRule g first allowStruct base
  statements := statementsRule g
  item attributes := itemRule g attributes
  imports allowRoot := importsRule g allowRoot
  binder := binderRule g
  fields := fieldsRule g

theorem rules_succ (n : Nat) : rules (n + 1) = (rules n).next := rfl

theorem next_same {N : Nat} {g g' : Rules} [g.Forward] [Rules.Same N g g'] :
    Rules.Same (N + 1) g.next g'.next where
  angle := (angleRule_same (k := 0)).succ
  binder := (binderRule_same (k := 0)).succ
  fields := (fieldsRule_same (k := 0)).succ
  imports allowRoot := (importsRule_same (k := 0) allowRoot).succ
  item attributes := (itemRule_same (k := 0) attributes).succ
  pattern := (patternRule_same (k := 0)).succ
  operators first allowStruct p := (operatorsRule_same (k := 0) first allowStruct p).succ
  type plus := (typeRule_same (k := 1) plus).succ
  unary allowStruct := (unaryRule_same (k := 1) allowStruct).succ
  expr allowStruct := (exprRule_same (k := 1) allowStruct).succ
  bounded := (boundedRule_same (k := 1)).succ
  statements := (statementsRule_same (k := 2)).succ

theorem rules_same_add (n m : Nat) : Rules.Same n (rules n) (rules (n + m)) := by
  induction n with
  | zero => constructor <;> intros <;> exact ⟨fun c hc => by omega⟩
  | succ n ih =>
    rw [Nat.succ_add, rules_succ, rules_succ]
    exact next_same

section AtDepth

variable {α : Type} {j n : Nat} {r : Nat → Rule α}

theorem atDepth_same (h : ∀ n m, Rule.Same n j (r n) (r (n + m))) (hj : j < 9) :
    Rule.Same n j (r n) (atDepth r) := by
  refine ⟨fun c hc => ?_⟩
  change r n c = r (depthFor c.rest) c
  have hdepth : depthFor c.rest = 4 * c.size + 8 := rfl
  rcases Nat.le_total n (depthFor c.rest) with hle | hle
  · obtain ⟨m, hm⟩ := Nat.exists_eq_add_of_le hle
    rw [hm]
    exact (h n m).step c hc
  · obtain ⟨m, hm⟩ := Nat.exists_eq_add_of_le hle
    rw [hm]
    exact ((h (depthFor c.rest) m).step c (by omega)).symm

end AtDepth

/-- Every level does what the grammar does, where it is deep enough. -/
instance rules_same (n : Nat) : Rules.Same n (rules n) grammar where
  angle := atDepth_same (fun n m => (rules_same_add n m).angle) (by decide)
  binder := atDepth_same (fun n m => (rules_same_add n m).binder) (by decide)
  fields := atDepth_same (fun n m => (rules_same_add n m).fields) (by decide)
  imports root := atDepth_same (fun n m => (rules_same_add n m).imports root) (by decide)
  item as := atDepth_same (fun n m => (rules_same_add n m).item as) (by decide)
  pattern := atDepth_same (fun n m => (rules_same_add n m).pattern) (by decide)
  operators s b p := atDepth_same (fun n m => (rules_same_add n m).operators s b p) (by decide)
  type plus := atDepth_same (fun n m => (rules_same_add n m).type plus) (by decide)
  unary b := atDepth_same (fun n m => (rules_same_add n m).unary b) (by decide)
  expr b := atDepth_same (fun n m => (rules_same_add n m).expr b) (by decide)
  bounded := atDepth_same (fun n m => (rules_same_add n m).bounded) (by decide)
  statements := atDepth_same (fun n m => (rules_same_add n m).statements) (by decide)

attribute [local ext] Rules in
/-- The grammar is made of its own rules: no depth of nesting is left out. -/
theorem grammar_next : grammar.next = grammar := by
  have h (n : Nat) : Rules.Same (n + 1) (rules (n + 1)) grammar.next := next_same
  have h' (n : Nat) : Rules.Same (n + 1) (rules (n + 1)) grammar := inferInstance
  apply Rules.ext
  · funext plus
    exact eq_of_same fun n => ((h n).type plus).of_left ((h' n).type plus)
  · exact eq_of_same fun n => (h n).angle.of_left (h' n).angle
  · exact eq_of_same fun n => (h n).pattern.of_left (h' n).pattern
  · funext b
    exact eq_of_same fun n => ((h n).expr b).of_left ((h' n).expr b)
  · exact eq_of_same fun n => (h n).bounded.of_left (h' n).bounded
  · funext b
    exact eq_of_same fun n => ((h n).unary b).of_left ((h' n).unary b)
  · funext s b p
    exact eq_of_same fun n => ((h n).operators s b p).of_left ((h' n).operators s b p)
  · exact eq_of_same fun n => (h n).statements.of_left (h' n).statements
  · funext as
    exact eq_of_same fun n => ((h n).item as).of_left ((h' n).item as)
  · funext root
    exact eq_of_same fun n => ((h n).imports root).of_left ((h' n).imports root)
  · exact eq_of_same fun n => (h n).binder.of_left (h' n).binder
  · exact eq_of_same fun n => (h n).fields.of_left (h' n).fields

end FetchKit.Grammar
