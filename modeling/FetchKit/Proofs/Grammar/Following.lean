import FetchKit.Proofs.Grammar.Local

/-!
# What follows a type

A type reads the same in front of anything that no type goes on with, generic arguments and
parameters in front of anything at all, and conditions in front of any body. This is shown level by
level, and each level does what the grammar does.
-/

namespace FetchKit.Grammar

open FetchKit.Source Rule

/-! ## The record of rules -/

class Rules.Local (g : Rules) : Prop where
  type : ∀ E [Edge E] plus, Rule.Local E (g.type plus)
  angle : ∀ E, Rule.Local E g.angle
  binder : ∀ E, Rule.Local E g.binder

attribute [instance] Rules.Local.type Rules.Local.angle Rules.Local.binder

section Types

variable {E : List Tree → List Tree → Prop} [Edge E] (g : Rules) [g.Forward] [g.Local]

instance attributeRound_local (found : List Attribute) :
    Rule.Local E (attributeRound g found) := by
  unfold attributeRound outerAttribute; infer_instance
instance attributeRound_shrinks (found : List Attribute) : Shrinks (attributeRound g found) := by
  unfold attributeRound outerAttribute; infer_instance
instance outerAttributes_local : Rule.Local E (outerAttributes g) := by
  rw [outerAttributes_eq]; infer_instance

instance binder?_local : Rule.Local E (binder? g) := by
  unfold binder?; infer_instance

set_option synthInstance.maxSize 2000 in
instance preciseCapture_local : Rule.Local E preciseCapture := by
  unfold preciseCapture
  refine @bind_local _ _ _ _ _ inferInstance (fun _ => ?_) inferInstance
  refine @bind_local _ _ _ _ _ inferInstance (fun _ => ?_) inferInstance
  exact closing_local

instance returnType_local (plus : Bool) : Rule.Local E (returnType g plus) := by
  unfold returnType; infer_instance

set_option synthInstance.maxSize 2000 in
instance segment_local (inExpr : Bool) : Rule.Local E (segment g inExpr) := by
  have htail (i : Ident) : Rule.Local E (do
      let plain := !inExpr && (← peek (op "<")) && !(← peek (op "<=")) && !(← peek (op "<<="))
      if plain || ((← peek (op "::")) && (← peek3 (op "<"))) then
        let _ ← eatOp? "::"
        g.angle
        return { ident := i, hasArguments := true }
      else return ({ ident := i } : Segment)) := by
    refine @bind_local _ _ _ _ _ inferInstance (fun _ => ?_) inferInstance
    refine @bind_local _ _ _ _ _ inferInstance (fun _ => ?_) inferInstance
    refine @bind_local _ _ _ _ _ inferInstance (fun _ => ?_) inferInstance
    refine peek_peek3_local inferInstance rfl fun b _ _ _ ts => Local.fromTrees ?_ _
    infer_instance
  unfold segment
  infer_instance

set_option synthInstance.maxSize 2000 in
instance segment_eats (inExpr : Bool) : Eats (segment g inExpr) := by
  unfold segment; infer_instance

instance moreSegments_local (inExpr : Bool) (segments : List Segment) :
    Rule.Local E (moreSegments g inExpr segments) := by
  have hround (found : List Segment) : Rule.Local E (do
      if (← peek (op "::")) && !(← peek3 paren) then
        eatOp "::"
        return Progress.again ((← segment g inExpr) :: found)
      else return Progress.done found) := by
    refine peek_peek3_local inferInstance rfl fun b _ _ _ ts => Local.fromTrees ?_ _
    infer_instance
  unfold moreSegments
  infer_instance

instance path_local (inExpr : Bool) : Rule.Local E (path g inExpr) := by
  unfold path; infer_instance
set_option synthInstance.maxSize 20000 in
instance anyPath_local (inExpr : Bool) : Rule.Local E (anyPath g inExpr) := by
  unfold anyPath; infer_instance

instance parenArguments?_local (p : Path) : Rule.Local E (parenArguments? g p) := by
  unfold parenArguments?
  refine peek_peek3_local ?_ ?_ fun b s joint s' zs => ?_
  · simp only [Bool.and_self, Bool.false_or, Bool.false_eq_true, if_false]
    infer_instance
  · simp
  · cases b with
    | false =>
      simp only [Bool.and_false, Bool.false_or, Bool.false_eq_true, if_false]
      exact Local.fromTrees inferInstance _
    | true =>
      intro e e' us w l a w' l' he h
      have hrun (ts w : List Tree) (l : Option Delimiter) :
          dropOp "::" ⟨.punct ':' true s :: .punct ':' joint s' :: ts, w, l⟩ = .ok ((), ⟨ts, w, l⟩) := rfl
      simp only [run_bind, run_peek, andThen_ok, Bool.and_self, Bool.true_or, if_true, run_ite,
        List.cons_append, hrun] at h ⊢
      split
      · next hplain =>
        rw [if_pos hplain, ← run_bind] at h
        rw [← run_bind]
        exact Local.step (r := within .paren (terminated (g.type true)) >>= fun _ => returnType g false)
          he h
      · next hplain =>
        rw [if_neg hplain] at h
        exact Local.fromTrees (r := (pure () : Rule Unit)) inferInstance
          (.punct ':' true s :: .punct ':' joint s' :: zs) he h

set_option synthInstance.maxSize 20000 in
instance traitBound_local (allowConst : Bool) : Rule.Local E (traitBound g allowConst) := by
  unfold traitBound; infer_instance
set_option synthInstance.maxSize 2000 in
instance bound_local (allowCapture allowConst : Bool) :
    Rule.Local E (bound g allowCapture allowConst) := by
  unfold bound; infer_instance
instance boundsUntil_local {E : List Tree → List Tree → Prop} (bound : Rule BoundKind)
    (stop : Rule Bool) [Rule.Local E bound] [Rule.Local E stop] [Sees E (op "+")]
    [∀ base, Rule.Forward base bound] [∀ base, Rule.Forward base stop] :
    Rule.Local E (boundsUntil bound stop) := by
  unfold boundsUntil; infer_instance

set_option synthInstance.maxSize 2000 in
instance boundList_local (plus allowCapture allowConst : Bool) :
    Rule.Local E (boundList g plus allowCapture allowConst) := by
  unfold boundList; infer_instance
instance objectBounds_local (plus : Bool) : Rule.Local E (objectBounds g plus) := by
  unfold objectBounds; infer_instance
instance implBounds_local (plus : Bool) : Rule.Local E (implBounds g plus) := by
  unfold implBounds; infer_instance
instance moreBounds_local : Rule.Local E (moreBounds g) := by
  unfold moreBounds; infer_instance
set_option synthInstance.maxSize 2000 in
instance boundsAfterPath_local : Rule.Local E (boundsAfterPath g) := by
  unfold boundsAfterPath; infer_instance
instance callAfterPath_local : Rule.Local E callAfterPath := by
  unfold callAfterPath; infer_instance
instance abi_local : Rule.Local E abi := by
  unfold abi; infer_instance
instance abi?_local : Rule.Local E abi? := by
  unfold abi?; infer_instance
set_option synthInstance.maxSize 20000 in
instance bareFunction_local : Rule.Local E (bareFunction g) := by
  unfold bareFunction
  refine @bind_local _ _ _ _ _ inferInstance (fun _ => ?_) inferInstance
  refine @bind_local _ _ _ _ _ inferInstance (fun _ => ?_) inferInstance
  refine @bind_local _ _ _ _ _ inferInstance (fun _ => ?_) inferInstance
  refine @bind_pair_local _ _ _ _ _ _ inferInstance (fun _ _ => ?_) inferInstance
  infer_instance

omit [Edge E] in
instance unwrapLast_local : Rule.Local E unwrapLast := by
  refine ⟨fun {ts e e' us w l a w' l'} _ h => ?_⟩
  obtain ⟨out, hrun⟩ : ∃ out, ∀ rest, unwrapLast ⟨rest, w, l⟩ = .ok ((), ⟨rest, out, l⟩) := by
    by_cases hw : ∃ inner s before, w = .group .paren [inner] s :: before
    · obtain ⟨inner, s, before, rfl⟩ := hw
      exact ⟨inner :: before, fun _ => rfl⟩
    · refine ⟨w, fun rest => congrArg (fun c => Except.ok ((), c)) ?_⟩
      dsimp only
      split
      · exact absurd ⟨_, _, _, rfl⟩ hw
      · rfl
  rw [hrun] at h ⊢
  simp only [Except.ok.injEq, Prod.mk.injEq, Cursor.mk.injEq, List.append_cancel_right_eq] at h
  obtain ⟨-, rfl, rfl, rfl⟩ := h
  rfl

set_option synthInstance.maxSize 2000 in
instance parenType_local (plus : Bool) : Rule.Local E (parenType g plus) := by
  unfold parenType
  refine @bind_pair_local _ _ _ _ _ _ inferInstance (fun content missed => ?_) ?_
  · cases content with
    | type s =>
      cases s with
      | bounds lone => cases lone <;> infer_instance
      | _ => infer_instance
    | _ => infer_instance
  · intro content missed base
    cases content with
    | type s =>
      cases s with
      | bounds lone => cases lone <;> infer_instance
      | _ => infer_instance
    | _ => infer_instance

instance typeAfterPath_local (plus binder : Bool) :
    Rule.Local E (typeAfterPath g plus binder) := by
  unfold typeAfterPath
  refine @bind_pair_local _ _ _ _ _ _ inferInstance (fun qualified p => ?_) ?_
  · cases qualified <;> infer_instance
  · intro qualified p base
    cases qualified <;> infer_instance

set_option synthInstance.maxSize 2000 in
instance pointer_local : Rule.Local E (pointer g) := by
  unfold pointer; infer_instance
set_option synthInstance.maxSize 2000 in
instance reference_local : Rule.Local E (reference g) := by
  unfold reference; infer_instance
instance arrayOrSlice_local : Rule.Local E (arrayOrSlice g) := by
  unfold arrayOrSlice; infer_instance
instance builtin_local : Rule.Local E builtin := by
  unfold builtin; infer_instance

instance peekBuiltin_looks : Looks E peekBuiltin := peek_peek2_looks (kw_front _).closed

instance keptType_local (plus : Bool) : Rule.Local E (keptType g plus) := by
  unfold keptType
  refine @bind_local _ _ _ _ _ inferInstance (fun binder => ?_) fun binder base => ?_
  · repeat' first
      | infer_instance
      | refine @ite_local _ _ _ _ _ _ ?_ ?_
      | refine @look_bind_local _ _ _ _ _ inferInstance fun _ => ?_
  · repeat' first
      | refine @ite_forward _ _ _ _ _ _ ?_ ?_
      | refine @bind_forward _ _ _ _ _ inferInstance fun _ => ?_
      | infer_instance

instance typeRule_local (plus : Bool) : Rule.Local E (typeRule g plus) := by
  unfold typeRule; infer_instance

end Types

/-! ## Between angle brackets -/

section Angles

variable (g : Rules) [g.Forward] [g.Local]

instance constArgument_local : Rule.Local AngleEdge (constArgument g) := by
  unfold constArgument bracedBlock; infer_instance

set_option synthInstance.maxSize 2000 in
instance genericArgument_local : Rule.Local AngleEdge (genericArgument g) := by
  unfold genericArgument
  refine peek_peek2_local startsLifetime_closed (fun a b => ?_) rfl
  refine @ite_local _ _ _ _ _ _ inferInstance ?_
  refine @look_bind_local _ _ _ _ _ inferInstance fun valued => ?_
  refine @ite_local _ _ _ _ _ _ inferInstance ?_
  refine @bind_local _ _ _ _ _ inferInstance (fun shape => ?_) fun shape base => ?_
  · split <;> infer_instance
  · split <;> infer_instance

instance angleArguments_local (found : List Listed) :
    Rule.Local AngleEdge (angleArguments g found) := by
  unfold angleArguments; infer_instance
instance angleArguments_shrinks (found : List Listed) : Shrinks (angleArguments g found) := by
  unfold angleArguments; infer_instance

instance angleRule_local {E : List Tree → List Tree → Prop} : Rule.Local E (angleRule g) := by
  rw [angleRule_eq]
  refine @bind_local _ _ _ _ _ inferInstance (fun _ => closing_local) inferInstance

instance boundsAfterColon_local (bounds : Rule Unit) [Rule.Local AngleEdge bounds]
    [∀ base, Rule.Forward base bounds] : Rule.Local AngleEdge (boundsAfterColon bounds) := by
  unfold boundsAfterColon; infer_instance
set_option synthInstance.maxSize 2000 in
instance lifetimeParameter_local (attributes : List Tree) :
    Rule.Local AngleEdge (lifetimeParameter attributes) := by
  unfold lifetimeParameter; infer_instance
set_option synthInstance.maxSize 2000 in
instance typeParameter_local (attributes : List Tree) :
    Rule.Local AngleEdge (typeParameter g attributes) := by
  unfold typeParameter; infer_instance
set_option synthInstance.maxSize 2000 in
instance constParameter_local (attributes : List Tree) :
    Rule.Local AngleEdge (constParameter g attributes) := by
  unfold constParameter; infer_instance
set_option synthInstance.maxSize 2000 in
instance parameter_local : Rule.Local AngleEdge (parameter g) := by
  unfold parameter; infer_instance
set_option synthInstance.maxSize 2000 in
instance boundParameter_local : Rule.Local AngleEdge (boundParameter g) := by
  unfold boundParameter; infer_instance

set_option synthInstance.maxSize 2000 in
instance angledParameters_local {E : List Tree → List Tree → Prop} (parameter : Rule Param)
    [Rule.Local AngleEdge parameter] [∀ base, Rule.Forward base parameter] :
    Rule.Local E (angledParameters parameter) := by
  unfold angledParameters
  refine @bind_local _ _ _ _ _ inferInstance (fun _ => closing_local) inferInstance

instance binderRule_local {E : List Tree → List Tree → Prop} : Rule.Local E (binderRule g) := by
  unfold binderRule; infer_instance

end Angles

/-! ## Before the body of a type -/

/-- The body of a type starts here: its fields in braces, or the semicolon of one without. -/
def opensBody (ts : List Tree) : Bool := startsGroup .brace ts || startsOperator [';'] ts

/-- A body, whatever it is. -/
def BodyEdge (e e' : List Tree) : Prop := opensBody e = true ∧ opensBody e' = true

theorem opensBody_cases {e : List Tree} (h : opensBody e = true) :
    (∃ content s ts, e = .group .brace content s :: ts) ∨ ∃ joint s ts, e = .punct ';' joint s :: ts := by
  match e with
  | .group .brace content s :: ts => exact .inl ⟨content, s, ts, rfl⟩
  | .punct c joint s :: ts =>
    simp only [opensBody, startsGroup, startsOperator, Bool.false_or, Bool.and_eq_true, beq_iff_eq] at h
    exact .inr ⟨joint, s, ts, by rw [h.1]⟩
  | [] | .ident _ :: _ | .literal _ _ :: _ | .group .paren _ _ :: _ | .group .bracket _ _ :: _ => cases h

instance bodyEdge_edge : Edge BodyEdge where
  closed h := by
    have hclosed {e : List Tree} (h : opensBody e = true) : Closed e := by
      obtain ⟨content, s, ts, rfl⟩ | ⟨joint, s, ts, rfl⟩ := opensBody_cases h <;> rfl
    exact ⟨hclosed h.1, hclosed h.2⟩
  angle h := by
    have hangle {e : List Tree} (h : opensBody e = true) : startsOperator ['>'] e = false := by
      obtain ⟨content, s, ts, rfl⟩ | ⟨joint, s, ts, rfl⟩ := opensBody_cases h <;> rfl
    rw [hangle h.1, hangle h.2]

instance comma_sees_body : Sees BodyEdge (op ",") := by
  have hcomma {e : List Tree} (h : opensBody e = true) : (op ",").test e = false := by
    obtain ⟨content, s, ts, rfl⟩ | ⟨joint, s, ts, rfl⟩ := opensBody_cases h <;> rfl
  refine ⟨fun ts e e' h => ?_⟩
  cases ts with
  | nil => exact (hcomma h.1).trans (hcomma h.2).symm
  | cons t ts => cases t <;> rfl

theorem seesAny_body {ps : List Probe} (hbrace : brace ∈ ps) (hsemi : op ";" ∈ ps)
    (hcons : ∀ p ∈ ps, ∀ t ts us, p.test (t :: ts) = p.test (t :: us)) : SeesAny BodyEdge ps := by
  have hbody {e : List Tree} (h : opensBody e = true) : (ps.any fun p => p.test e) = true := by
    rw [List.any_eq_true]
    obtain ⟨content, s, ts, rfl⟩ | ⟨joint, s, ts, rfl⟩ := opensBody_cases h
    · exact ⟨brace, hbrace, rfl⟩
    · exact ⟨op ";", hsemi, rfl⟩
  refine ⟨fun ts e e' h => ?_⟩
  cases ts with
  | nil => exact (hbody h.1).trans (hbody h.2).symm
  | cons t ts =>
    rw [Bool.eq_iff_iff, List.any_eq_true, List.any_eq_true]
    exact exists_congr fun p => and_congr_right fun hp => by rw [List.cons_append, hcons p hp, ← List.cons_append]

theorem op_cons {s : String} (hs : s.toList.length = 1) (t : Tree) (ts us : List Tree) :
    (op s).test (t :: ts) = (op s).test (t :: us) := by
  obtain ⟨c, hc⟩ := List.length_eq_one_iff.1 hs
  rw [op_test, op_test, hc]
  cases t <;> rfl

instance ends_seesAny_body : SeesAny BodyEdge [brace, op ",", op ";", op "="] := by
  refine seesAny_body (by simp) (by simp) ?_
  simp only [List.forall_mem_cons]
  exact ⟨fun t _ _ => by cases t <;> rfl, op_cons (by decide), op_cons (by decide), op_cons (by decide),
    by simp⟩

instance ends_colon_seesAny_body : SeesAny BodyEdge [brace, op ",", op ";", op ":", op "="] := by
  refine seesAny_body (by simp) (by simp) ?_
  simp only [List.forall_mem_cons]
  exact ⟨fun t _ _ => by cases t <;> rfl, op_cons (by decide), op_cons (by decide), op_cons (by decide),
    op_cons (by decide), by simp⟩

instance atEnd_looks_body : Looks BodyEdge atEnd := by
  refine .of_still List.isEmpty run_atEnd fun ts e e' h => ?_
  have hbody {e : List Tree} (h : opensBody e = true) : e.isEmpty = false := by
    obtain ⟨content, s, ts, rfl⟩ | ⟨joint, s, ts, rfl⟩ := opensBody_cases h <;> rfl
  cases ts with
  | nil => exact (hbody h.1).trans (hbody h.2).symm
  | cons t ts => rfl

theorem opensGenerics_body (ts : List Tree) {e e' : List Tree} (h : BodyEdge e e') :
    opensGenerics (ts ++ e) = opensGenerics (ts ++ e') := by
  obtain ⟨hc, hc'⟩ := Edge.closed h
  have hsees (p : Probe) [hp : Sees BodyEdge p] (ts : List Tree) := hp.eq ts h
  unfold opensGenerics
  simp only [skip_succ, skip_zero]
  rw [← hsees (op "<") ts]
  cases hts : (op "<").test (ts ++ e) with
  | false => simp only [Bool.false_and]
  | true =>
    have hne : ts ≠ [] := by
      rintro rfl
      have hnone : startsOperator ['<'] e = false :=
        startsOperator_closed hc (by decide) (by decide) (by decide)
      cases hnone.symm.trans hts
    obtain ⟨zs, hzs⟩ := skipOne_append hne
    rw [hzs e hc, hzs e' hc', ← hsees (op ">") zs, ← hsees (op "#") zs, ← hsees lifetime zs,
      ← hsees name zs, ← hsees (kw "const") zs]
    cases zs with
    | nil =>
      simp only [List.nil_append, lifetime_test, startsLifetime_closed hc, name_front.closed hc,
        Bool.false_and, Bool.or_self]
    | cons z zs =>
      obtain ⟨ys, hys⟩ := skipOne_append (List.cons_ne_nil z zs)
      rw [hys e hc, hys e' hc', ← hsees (op ">") ys, ← hsees (op ",") ys, ← hsees (op ":") ys,
        ← hsees (op "::") ys, ← hsees (op "=") ys]

instance peekGenerics_looks_body : Looks BodyEdge peekGenerics := by
  refine .of_still opensGenerics (fun c => ?_) fun ts e e' h => opensGenerics_body ts h
  simp only [peekGenerics, run_bind, run_trees, andThen_ok, run_pure]

section Conditions

variable (g : Rules) [g.Forward] [g.Local]

set_option synthInstance.maxSize 2000 in
instance predicate_local : Rule.Local BodyEdge (predicate g) := by
  unfold predicate
  refine peek_peek2_local startsLifetime_closed (fun a b => ?_) rfl
  infer_instance

set_option synthInstance.maxSize 20000 in
instance whereClause_local : Rule.Local BodyEdge (whereClause g) := by
  unfold whereClause; infer_instance

end Conditions

/-! ## Every level -/

instance rules_local (n : Nat) : (rules n).Local := by
  induction n with
  | zero => constructor <;> intros <;> exact Rule.fail_local _
  | succ n ih => constructor <;> intros <;> unfold rules <;> infer_instance

/-- A rule of the grammar is one of a level that is deep enough for both. -/
theorem same_local {α : Type} {E : List Tree → List Tree → Prop} {r : Nat → Rule α} {r' : Rule α}
    {j : Nat} (h : ∀ n, Rule.Same n j (r n) r') [hr : ∀ n, Rule.Local E (r n)] : Rule.Local E r' := by
  refine ⟨fun {ts e e' us w l a w' l'} he hrun => ?_⟩
  let n := 4 * (sizeOfTrees (ts ++ e) + sizeOfTrees (ts ++ e')) + j
  have hleft := (h n).step ⟨ts ++ e, w, l⟩ (by simp only [n, Cursor.size]; omega)
  have hright := (h n).step ⟨ts ++ e', w, l⟩ (by simp only [n, Cursor.size]; omega)
  rw [← hright]
  exact (hr n).step he (hleft.trans hrun)

instance grammar_local : grammar.Local where
  type _ _ plus := same_local fun n => (rules_same n).type plus
  angle _ := same_local fun n => (rules_same n).angle
  binder _ := same_local fun n => (rules_same n).binder

end FetchKit.Grammar
