import FetchKit.Proofs.Grammar.Parameters

/-!
# Code is set anew

A type can hold code: in the length of an array, in a block and in an attribute. The rules for
patterns, expressions and statements write what they read, set anew.
-/

namespace FetchKit.Grammar

open FetchKit.Source Rule

variable {base : Cursor}

/-! ## Fields -/

theorem tupleIndex_eq_ok {negative : Bool} {text : String} {s : Span} {c c' : Cursor} {t : Tree}
    (h : tupleIndex negative text s c = .ok (t, c')) :
    negative = false ∧ c' = c ∧ ∃ n, Denotes text n ∧ t = .literal (toString n) s := by
  unfold tupleIndex at h
  cases htext : integer? text with
  | none =>
    rw [htext] at h
    cases h
  | some found =>
    rw [htext] at h
    dsimp only at h
    obtain ⟨hempty, h⟩ | ⟨-, h⟩ := ite_taken h
    · obtain ⟨-, h⟩ | ⟨hneg, h⟩ := ite_taken h
      · cases h
      obtain ⟨-, h⟩ | ⟨-, h⟩ := ite_taken h
      · cases h
        rw [String.isEmpty_iff] at hempty
        have hdenotes : Denotes text found.1 := integer?_denotes (by rw [htext, ← hempty])
        exact ⟨Bool.eq_false_iff.2 hneg, rfl, found.1, hdenotes, rfl⟩
      · cases h
    · cases h

theorem memberKey_cases {c c' : Cursor} {key : MemberKey} (h : memberKey c = .ok (key, c')) :
    (∃ i ts, key = .name i ∧ c.rest = .ident i :: ts ∧
      c' = { c with rest := ts, written := .ident i :: c.written }) ∨
    ∃ text s n ts, key = .index ∧ Denotes text n ∧ c.rest = .literal text s :: ts ∧
      c' = { c with rest := ts, written := .literal (toString n) s :: c.written } := by
  obtain ⟨-, h⟩ | ⟨-, h⟩ := ite_taken (peek_taken h)
  · obtain ⟨i, c₁, hname, hpure⟩ := bind_eq_ok.1 h
    cases hpure
    obtain ⟨-, ts, hc, rfl⟩ := eatName_eq_ok.1 hname
    exact .inl ⟨i, ts, rfl, hc, rfl⟩
  obtain ⟨ts, w, l⟩ := c
  rw [run_bind, run_trees, andThen_ok] at h
  dsimp only at h
  split at h
  · next text s ts _ =>
    obtain ⟨-, h⟩ | ⟨-, h⟩ := ite_taken h
    · obtain ⟨t, c₁, hindex, hmore⟩ := bind_eq_ok.1 h
      obtain ⟨-, rfl, n, htext, rfl⟩ := tupleIndex_eq_ok hindex
      rw [run_bind, run_advance, andThen_ok] at hmore
      cases hmore
      exact .inr ⟨text, s, n, ts, rfl, htext, rfl, rfl⟩
    · cases h
  · obtain ⟨-, h⟩ | ⟨-, h⟩ := ite_taken h
    · obtain ⟨t, c₁, hindex, -⟩ := bind_eq_ok.1 h
      obtain ⟨hfalse, -⟩ := tupleIndex_eq_ok hindex
      cases hfalse
    · cases h
  · cases h

theorem memberKey_bind_resets {β : Type} {f : MemberKey → Rule β} {y : Rule β}
    (hindex : f .index = eatOp ":" >>= fun _ => y) [∀ base, Rule.Resets .code base y]
    [hname : ∀ i base, Rule.Resets .code base (f (.name i))] :
    Rule.Resets .code base (memberKey >>= f) := by
  refine .of_here fun {c b c'} h => ?_
  obtain ⟨key, c₁, hkey, h⟩ := bind_eq_ok.1 h
  obtain ⟨i, ts, rfl, hc, rfl⟩ | ⟨text, s, n, ts, rfl, htext, hc, rfl⟩ := memberKey_cases hkey
  · exact (hname i c).step (.of_same [.ident i] hc) h
  · rw [hindex] at h
    have hcolon : startsOperator [':'] ts = true := by
      obtain ⟨u, c₂, heat, -⟩ := bind_eq_ok.1 h
      obtain ⟨joint, s, us, hts, -⟩ := (eatOp_one (d := ':') (by decide) (by decide)).1 heat
      obtain rfl : ts = _ := hts
      rfl
    have hanew : Anew .code c ⟨ts, .literal (toString n) s :: c.written, c.leftover⟩ :=
      fun hl => ⟨hl, [.literal text s], [_], hc, rfl, .key s htext hcolon⟩
    exact Rule.Resets.step hanew h

section Values

variable (g : Rules) [g.Forward] [g.Resets]

/-! ## Patterns -/

instance peekBar_resets : Rule.Resets .code base peekBar := by
  unfold peekBar; infer_instance
instance alternatives_resets : Rule.Resets .code base (alternatives g) := by
  unfold alternatives; infer_instance
instance constBlock_resets : Rule.Resets .code base (constBlock g) := by
  unfold constBlock; infer_instance
set_option synthInstance.maxSize 2000 in
instance rangeBound_resets : Rule.Resets .code base (rangeBound g) := by
  unfold rangeBound; infer_instance
instance limits_resets : Rule.Resets .code base limits := by
  unfold limits; infer_instance

omit [g.Forward] [g.Resets] in
theorem rangeBound_true {c c' : Cursor} (h : rangeBound g c = .ok (true, c')) :
    (c.rest.isEmpty || startsOperator [','] c.rest) = false := by
  unfold rangeBound at h
  rw [run_bind, run_atEnd, andThen_ok, run_bind, run_peekAny, andThen_ok] at h
  obtain ⟨-, h⟩ | ⟨hstops, -⟩ := ite_taken (peek_taken (peek_taken h))
  · cases h
  · simp only [List.any_cons, List.any_nil, op_test, kw_test] at hstops
    grind

theorem starts_dots {ts : List Tree} (h : startsOperator ['.', '.', '.'] ts = true) :
    ∃ s s' joint s'' rest,
      ts = .punct '.' true s :: .punct '.' true s' :: .punct '.' joint s'' :: rest := by
  obtain ⟨s, us, rfl, htwo⟩ := startsOperator_more h
  obtain ⟨s', us, rfl, hone⟩ := startsOperator_more htwo
  obtain ⟨joint, s'', rest, rfl⟩ := startsOperator_one hone
  exact ⟨s, s', joint, s'', rest, rfl⟩

instance rangeAfter_resets : Rule.Resets .code base (rangeAfter g) := by
  refine .of_here fun {c shape c'} h => ?_
  obtain ⟨l, c₁, hlimits, h⟩ := bind_eq_ok.1 h
  obtain ⟨hdots, hlimits⟩ | ⟨-, hlimits⟩ := ite_taken (peek_taken hlimits)
  · obtain ⟨ts, w, left⟩ := c
    obtain ⟨s, s', joint, s'', rest, rfl⟩ := starts_dots hdots
    cases hlimits
    obtain ⟨bounded, c₂, hbound, h₂⟩ := bind_eq_ok.1 h
    cases bounded with
    | false => cases h₂
    | true =>
      have hanew : Anew .code
          ⟨[.punct '.' true s, .punct '.' true s', .punct '.' joint s''] ++ rest, w, left⟩
          ⟨rest, (operator "..=").reverse ++ w, left⟩ :=
        fun hl => ⟨hl, _, _, rfl, rfl, .limits s s' s'' joint (rangeBound_true g hbound)⟩
      exact Rule.Resets.step hanew h
  · exact Rule.Resets.step (Rule.Resets.here .code hlimits) h

instance rangeFromNothing_resets : Rule.Resets .code base (rangeFromNothing g) := by
  unfold rangeFromNothing; infer_instance

instance fieldPattern_resets : Rule.Resets .code base (fieldPattern g) := by
  have hkey (base : Cursor) : Rule.Resets .code base (do
      match ← memberKey with
      | .index =>
        eatOp ":"
        let _ ← alternatives g
      | .name _ =>
        if ← eatOp? ":" then
          let _ ← alternatives g) := memberKey_bind_resets rfl
  unfold fieldPattern
  infer_instance

set_option synthInstance.maxSize 2000 in
instance structPattern_resets : Rule.Resets .code base (structPattern g) := by
  unfold structPattern; infer_instance

instance pathPattern_resets : Rule.Resets .code base (pathPattern g) := by
  unfold pathPattern; infer_instance

set_option synthInstance.maxSize 2000 in
instance namePattern_resets : Rule.Resets .code base (namePattern g) := by
  unfold namePattern; infer_instance
instance literalPattern_resets : Rule.Resets .code base (literalPattern g) := by
  unfold literalPattern; infer_instance
instance slicePattern_resets : Rule.Resets .code base (slicePattern g) := by
  unfold slicePattern; infer_instance
set_option synthInstance.maxSize 20000 in
instance patternRule_resets : Rule.Resets .code base (patternRule g) := by
  unfold patternRule; infer_instance

omit [g.Forward] [g.Resets] in
theorem pathPattern_gives {c : Cursor} : Gives (· ≠ PatternShape.verbatim) (pathPattern g) c := by
  unfold pathPattern rangeAfter
  with_reducible repeat' first
    | exact gives_pure (by simp)
    | exact gives_complain _
    | refine gives_ite (fun _ => ?_) fun _ => ?_
    | refine gives_bind fun _ _ _ => ?_

omit [g.Forward] [g.Resets] in
theorem literalPattern_gives {c : Cursor} : Gives (· ≠ PatternShape.verbatim) (literalPattern g) c := by
  unfold literalPattern rangeAfter
  with_reducible repeat' first
    | exact gives_pure (by simp)
    | exact gives_complain _
    | refine gives_ite (fun _ => ?_) fun _ => ?_
    | refine gives_bind fun _ _ _ => ?_

omit [g.Forward] [g.Resets] in
theorem patternRule_verbatim {c c' : Cursor} (h : patternRule g c = .ok (.verbatim, c')) :
    startsWord "box" c.rest = true := by
  unfold patternRule at h
  simp only [run_bind, run_peek, run_peek2, run_peekAny, andThen_ok] at h
  obtain ⟨-, h⟩ | ⟨-, h⟩ := ite_taken h
  · exact absurd rfl (pathPattern_gives g _ _ h)
  obtain ⟨-, h⟩ | ⟨-, h⟩ := ite_taken (peek_taken h)
  · obtain ⟨u, c₁, -, hpure⟩ := bind_eq_ok.1 h
    cases hpure
  obtain ⟨hbox, -⟩ | ⟨-, h⟩ := ite_taken (peek_taken h)
  · exact hbox
  rw [run_bind, run_peekAny, andThen_ok] at h
  obtain ⟨-, h⟩ | ⟨-, h⟩ := ite_taken h
  · exact absurd rfl (literalPattern_gives g _ _ h)
  suffices hgives : Gives (· ≠ PatternShape.verbatim) _ c from absurd rfl (hgives _ _ h)
  unfold rangeFromNothing
  with_reducible repeat' first
    | exact gives_pure (by simp)
    | exact gives_complain _
    | exact gives_unmet _
    | refine gives_ite (fun _ => ?_) fun _ => ?_
    | refine gives_bind fun _ _ _ => ?_

/-! ## Expressions -/

instance peekOperator_resets : Rule.Resets .code base peekOperator := by
  unfold peekOperator; infer_instance
instance nextPrecedence_resets : Rule.Resets .code base nextPrecedence := by
  unfold nextPrecedence; infer_instance
instance rightOperand_resets (allowStruct : Bool) (p : Nat) :
    Rule.Resets .code base (rightOperand g allowStruct p) := by
  unfold rightOperand; infer_instance
instance rangeStops_resets (allowStruct : Bool) : Rule.Resets .code base (rangeStops allowStruct) := by
  unfold rangeStops; infer_instance
instance rangeTail_resets (allowStruct : Bool) : Rule.Resets .code base (rangeTail g allowStruct) := by
  unfold rangeTail; infer_instance
set_option synthInstance.maxSize 2000 in
instance checkCast_resets : Rule.Resets .code base checkCast := by
  unfold checkCast; infer_instance
set_option synthInstance.maxSize 2000 in
instance operatorsRule_resets (first : ExprShape) (allowStruct : Bool) (p : Nat) :
    Rule.Resets .code base (operatorsRule g first allowStruct p) := by
  unfold operatorsRule; infer_instance
instance callArguments_resets : Rule.Resets .code base (callArguments g) := by
  unfold callArguments; infer_instance

/-! ### What stands after a point -/

theorem pointed_ne_nil (text : String) : pointed text ≠ [] := by
  simp only [pointed, ne_eq, List.map_eq_nil_iff]
  split
  · next hend =>
    obtain ⟨cs, hcs⟩ := List.getLast?_eq_some_iff.1 (eq_of_beq hend)
    rw [hcs, List.splitOn_append_cons_self, List.splitOn_nil, List.dropLast_concat]
    exact List.splitOn_ne_nil _ _
  · exact List.splitOn_ne_nil _ _

theorem mapM_tupleIndex {negative : Bool} {s : Span} {parts : List (List Char)} {c c' : Cursor}
    {places : List Tree}
    (h : parts.mapM (fun part => tupleIndex negative (String.ofList part) s) c = .ok (places, c')) :
    c' = c ∧ (parts = [] ∨ negative = false) ∧ ∃ ns : List Nat,
      List.Forall₂ Denotes (parts.map String.ofList) ns ∧
      places = ns.map fun n => .literal (toString n) s := by
  rw [← List.mapM'_eq_mapM] at h
  induction parts generalizing places with
  | nil =>
    cases h
    exact ⟨rfl, .inl rfl, [], .nil, rfl⟩
  | cons part parts ih =>
    rw [List.mapM'_cons] at h
    obtain ⟨t, c₁, hpart, h⟩ := bind_eq_ok.1 h
    obtain ⟨ts, c₂, hparts, hpure⟩ := bind_eq_ok.1 h
    cases hpure
    obtain ⟨hnegative, rfl, n, htext, rfl⟩ := tupleIndex_eq_ok hpart
    obtain ⟨rfl, -, ns, hns, rfl⟩ := ih hparts
    exact ⟨rfl, .inr hnegative, n :: ns, .cons htext hns, rfl⟩

theorem floatMembers_eq_ok {negative trailing : Bool} {text : String} {s : Span} {rest : List Tree}
    {c c' : Cursor} (h : floatMembers negative text s rest c = .ok (trailing, c')) :
    negative = false ∧ ∃ out, Numbered [.literal text s] out ∧
      c' = { c with rest, written := out.reverse ++ c.written } := by
  unfold floatMembers at h
  obtain ⟨places, c₁, hplaces, h⟩ := bind_eq_ok.1 h
  obtain ⟨rfl, hnegative, ns, hns, rfl⟩ := mapM_tupleIndex hplaces
  have hne := pointed_ne_nil text
  refine ⟨hnegative.resolve_left fun hnil => hne (by unfold pointed; exact congrArg _ hnil), ?_⟩
  have hnumbered : Numbered [.literal text s] _ := .several s hns
  rw [run_bind, run_advance, andThen_ok] at h
  obtain ⟨htrailing, h⟩ | ⟨htrailing, h⟩ := ite_taken h
  · rw [run_bind, run_write, andThen_ok] at h
    cases h
    refine ⟨_, hnumbered, ?_⟩
    simp [endsInPoint, htrailing]
  · cases h
    refine ⟨_, hnumbered, ?_⟩
    simp [endsInPoint, htrailing]

/-- What was read of numbers after a point: none yet, or some. -/
def Counted (read out : List Tree) : Prop := (read = [] ∧ out = []) ∨ Numbered read out

theorem Counted.reset {read out : List Tree} (h : Counted read out) (joint : Bool) (s : Span)
    (next : List Tree) : Reset .code next (.punct '.' joint s :: read) (.punct '.' false s :: out) := by
  obtain ⟨rfl, rfl⟩ | h := h
  · exact .spacing '.' joint s rfl
  · exact .member joint s h

theorem Counted.more {read out : List Tree} (h : Counted read out) {text : String} {n : Nat} (s : Span)
    (htext : Denotes text n) :
    Numbered (read ++ [.literal text s]) (out ++ [.literal (toString n) s]) := by
  obtain ⟨rfl, rfl⟩ | h := h
  · exact .one s htext
  · exact .more h (.one s htext)

omit [g.Forward] in
theorem lastMember_anew {joint : Bool} {s : Span} {read out ts w : List Tree} {l : Option Delimiter}
    (hcounted : Counted read out) {c' : Cursor} {u : Unit} (h : (do
      if ← eatWord? "await" then return ()
      match ← memberKey with
      | .index => return ()
      | .name _ =>
        let turbofish ← peek (op "::")
        if turbofish then
          eatOp "::"
          g.angle
        if turbofish || (← peek paren) then callArguments g : Rule Unit)
      ⟨ts, out.reverse ++ .punct '.' false s :: w, l⟩ = .ok (u, c')) :
    Anew .code ⟨.punct '.' joint s :: read ++ ts, w, l⟩ c' := by
  have hbase : Anew .code ⟨.punct '.' joint s :: read ++ ts, w, l⟩
      ⟨ts, out.reverse ++ .punct '.' false s :: w, l⟩ :=
    fun hl => ⟨hl, _, .punct '.' false s :: out, rfl, by simp, hcounted.reset joint s ts⟩
  obtain ⟨await, c₁, hawait, h⟩ := bind_eq_ok.1 h
  rw [run_eatWord?] at hawait
  split at hawait
  · obtain ⟨v, c₂, heat, hpure⟩ := andThen_eq_ok.1 hawait
    cases hpure
    cases h
    exact Rule.Resets.step hbase heat
  cases hawait
  rw [if_neg Bool.false_ne_true] at h
  obtain ⟨key, c₁, hkey, h⟩ := bind_eq_ok.1 h
  obtain ⟨i, ts', rfl, hts, rfl⟩ | ⟨text, s', n, ts', rfl, htext, hts, rfl⟩ := memberKey_cases hkey
  · exact Rule.Resets.step (hbase.trans (.of_same [.ident i] hts)) h
  · cases h
    obtain rfl : ts = .literal text s' :: ts' := hts
    refine fun hl => ⟨hl, .punct '.' joint s :: (read ++ [.literal text s']),
      .punct '.' false s :: (out ++ [.literal (toString n) s']), by simp, by simp, ?_⟩
    exact .member joint s (hcounted.more s' htext)

instance memberTail_resets : Rule.Resets .code base (memberTail g) := by
  refine .of_here fun {c u c'} h => ?_
  obtain ⟨v, c₁, hdot, h⟩ := bind_eq_ok.1 h
  obtain ⟨joint, s, ts, hc, rfl⟩ := (eatOp_one (d := '.') (by decide) (by decide)).1 hdot
  obtain ⟨rest, w, l⟩ := c
  obtain rfl : rest = .punct '.' joint s :: ts := hc
  rw [run_bind, run_trees, andThen_ok] at h
  dsimp only at h
  split at h
  · next text span ts _ _ =>
    obtain ⟨-, h⟩ | ⟨-, h⟩ := ite_taken h
    · obtain ⟨trailing, c₂, hfloat, h⟩ := bind_eq_ok.1 h
      obtain ⟨-, out, hnumbered, rfl⟩ := floatMembers_eq_ok hfloat
      cases trailing with
      | false =>
        cases h
        exact fun hl => ⟨hl, [_, _], .punct '.' false s :: out, rfl, by simp, .member joint s hnumbered⟩
      | true => exact lastMember_anew g (.inr hnumbered) h
    · exact lastMember_anew g (.inl ⟨rfl, rfl⟩) h
  · obtain ⟨-, h⟩ | ⟨-, h⟩ := ite_taken h
    · obtain ⟨trailing, c₂, hfloat, h⟩ := bind_eq_ok.1 h
      obtain ⟨hfalse, -⟩ := floatMembers_eq_ok hfloat
      cases hfalse
    · exact lastMember_anew g (.inl ⟨rfl, rfl⟩) h
  · exact lastMember_anew g (.inl ⟨rfl, rfl⟩) h

set_option synthInstance.maxSize 2000 in
instance trailers_resets (first : ExprShape) : Rule.Resets .code base (trailers g first) := by
  unfold trailers; infer_instance
instance canBegin_resets : Rule.Resets .code base canBegin := by
  unfold canBegin; infer_instance

instance fieldValue_resets : Rule.Resets .code base (fieldValue g) := by
  have hkey (base : Cursor) : Rule.Resets .code base (do
      match ← memberKey with
      | .index =>
        eatOp ":"
        let _ ← g.expr true
      | .name _ =>
        if ← eatOp? ":" then
          let _ ← g.expr true) := memberKey_bind_resets rfl
  unfold fieldValue
  infer_instance

set_option synthInstance.maxSize 2000 in
instance structFields_resets : Rule.Resets .code base (structFields g) := by
  unfold structFields; infer_instance
instance pathOperand_resets (allowStruct : Bool) :
    Rule.Resets .code base (pathOperand g allowStruct) := by
  unfold pathOperand; infer_instance

/-! ### Attributes before an operand -/

theorem Marks.starts {ts out : List Tree} (h : Marks ts out) :
    out = [] ∨ startsOperator ['#'] ts = true := by
  cases h with
  | nil => exact .inl rfl
  | more => exact .inr rfl

theorem attributed_reset {next marks text ts out : List Tree}
    (hmarks : Reset .code (ts ++ next) marks text)
    (hstarts : text = [] ∨ startsOperator ['#'] marks = true) (h : Reset .code next ts out) (isRange : Bool) :
    Reset .code next (marks ++ ts) (attributed text out isRange) := by
  unfold attributed
  split
  · next hrange =>
    obtain rfl | hstarts := hstarts
    · simp at hrange
    · exact .range hstarts hmarks h
  · exact .append hmarks h

theorem written_reset {α : Type} {r : Rule α} [∀ base, Rule.Resets .code base r]
    {read text ts rest w w' : List Tree} {a : α} (hread : Reset .code ts read text)
    (h : (write text >>= fun _ => r) ⟨ts, w, none⟩ = .ok (a, ⟨rest, w', none⟩)) :
    ∃ read' out, read ++ ts = read' ++ rest ∧ w' = out.reverse ++ w ∧ Reset .code rest read' out := by
  rw [run_bind, run_write, andThen_ok] at h
  have hanew : Anew .code ⟨read ++ ts, w, none⟩ ⟨ts, text.reverse ++ w, none⟩ :=
    fun hl => ⟨hl, read, text, rfl, rfl, hread⟩
  exact (Rule.Resets.step hanew h rfl).2

theorem afterMarks_word {ts : List Tree} {w : String} (h : startsWord w ts = true) :
    afterMarks ts = ts := by
  match ts, h with
  | .ident _ :: _, _ => rfl

theorem startsKept_box {ts : List Tree} (h : startsWord "box" ts = true) : startsKept ts = true := by
  simp [startsKept, afterMarks_word h, h]

instance closureArgument_resets : Rule.Resets .code base (closureArgument g) := by
  refine .of_taken fun {ts rest w w' u} h => ?_
  obtain ⟨as, marks, rest₁, rfl, has, hmore⟩ := held_taken h
  have hmarks := outerAttributes_taken g has
  obtain ⟨⟨shape, text⟩, piece, rest₂, w₁, rfl, hpattern, hlast⟩ := bind_taken hmore
  obtain ⟨rfl, hrun⟩ := withhold_eq_ok.1 hpattern
  have hpiece : Reset .code rest₂ piece text := Writes.reset ⟨shape, hrun⟩
  obtain ⟨-, hlast⟩ | ⟨-, hlast⟩ := ite_taken (peek_taken hlast)
  · have hfirst : Reset .code rest₂ (marks ++ piece) (as ++ text) :=
      .append (hmarks.reset _ _) hpiece
    rw [← List.append_assoc]
    exact written_reset hfirst hlast
  obtain ⟨hverbatim, hlast⟩ | ⟨-, hlast⟩ := ite_taken hlast
  · rw [run_write] at hlast
    cases hlast
    obtain rfl : shape = .verbatim := by simpa using hverbatim
    have hkept : startsKept (piece ++ rest₂) = true :=
      startsKept_box (Rules.Resets.verbatim (g := g) hrun)
    exact ⟨marks ++ piece, text, by simp, rfl, (hmarks.omitted hkept).append hpiece⟩
  · rw [run_write] at hlast
    cases hlast
    refine ⟨marks ++ piece, _, by simp, rfl, ?_⟩
    exact attributed_reset (hmarks.reset _ _) hmarks.starts hpiece _

set_option synthInstance.maxSize 20000 in
instance closure_resets (allowStruct : Bool) : Rule.Resets .code base (closure g allowStruct) := by
  unfold closure; infer_instance
instance parenOrTuple_resets : Rule.Resets .code base (parenOrTuple g) := by
  unfold parenOrTuple; infer_instance
set_option synthInstance.maxSize 2000 in
instance arrayOrRepeat_resets : Rule.Resets .code base (arrayOrRepeat g) := by
  unfold arrayOrRepeat; infer_instance
instance letOperand_resets (allowStruct : Bool) :
    Rule.Resets .code base (letOperand g allowStruct) := by
  unfold letOperand; infer_instance
set_option synthInstance.maxSize 2000 in
instance ifOperand_resets : Rule.Resets .code base (ifOperand g) := by
  unfold ifOperand; infer_instance
instance whileOperand_resets : Rule.Resets .code base (whileOperand g) := by
  unfold whileOperand; infer_instance
instance forOperand_resets : Rule.Resets .code base (forOperand g) := by
  unfold forOperand; infer_instance
instance loopOperand_resets : Rule.Resets .code base (loopOperand g) := by
  unfold loopOperand; infer_instance
set_option synthInstance.maxSize 2000 in
instance labelled_resets : Rule.Resets .code base (labelled g) := by
  unfold labelled; infer_instance
set_option synthInstance.maxSize 2000 in
instance arm_resets : Rule.Resets .code base (arm g) := by
  unfold arm; infer_instance
instance matchOperand_resets : Rule.Resets .code base (matchOperand g) := by
  unfold matchOperand; infer_instance
set_option synthInstance.maxSize 2000 in
instance breakOperand_resets (allowStruct : Bool) :
    Rule.Resets .code base (breakOperand g allowStruct) := by
  unfold breakOperand; infer_instance
instance peekBinder_still : Still peekBinder := by
  unfold peekBinder; infer_instance
instance peekClosure_still : Still peekClosure := by
  unfold peekClosure; infer_instance
instance peekBinder_resets : Rule.Resets .code base peekBinder := peekBinder_still.resets
instance peekClosure_resets : Rule.Resets .code base peekClosure := peekClosure_still.resets

/-- A rule that looks and chooses another, which sets trees anew. -/
class Offers {α : Type} (r : Rule (Option (Rule α))) : Prop where
  still : Still r
  chosen : ∀ {c rule c'}, r c = .ok (some rule, c') → ∀ base, Rule.Resets .code base rule

instance pure_some_offers {α : Type} (r : Rule α) [hr : ∀ base, Rule.Resets .code base r] :
    Offers (pure (some r)) := by
  refine ⟨inferInstance, fun h => ?_⟩
  cases h
  exact hr

instance pure_none_offers {α : Type} : Offers (pure none : Rule (Option (Rule α))) := by
  refine ⟨inferInstance, fun h => ?_⟩
  cases h

instance bind_offers {α β : Type} {x : Rule β} {f : β → Rule (Option (Rule α))} [hx : Still x]
    [hf : ∀ b, Offers (f b)] : Offers (x >>= f) := by
  have : ∀ b, Still (f b) := fun b => (hf b).still
  refine ⟨inferInstance, fun h => ?_⟩
  obtain ⟨b, c₁, -, h₂⟩ := bind_eq_ok.1 h
  exact (hf b).chosen h₂

instance ite_offers {α : Type} {p : Prop} [Decidable p] {x y : Rule (Option (Rule α))}
    [hx : Offers x] [hy : Offers y] : Offers (if p then x else y) := by
  split
  · exact hx
  · exact hy

theorem bind_offered_resets {α β : Type} {x : Rule (Option (Rule α))} {f : Option (Rule α) → Rule β}
    [hx : Offers x] (hn : Rule.Resets .code base (f none))
    (hs : ∀ r [∀ base, Rule.Resets .code base r], Rule.Resets .code base (f (some r))) :
    Rule.Resets .code base (x >>= f) := by
  refine ⟨fun hb h => ?_⟩
  obtain ⟨o, c₁, h₁, h₂⟩ := bind_eq_ok.1 h
  obtain rfl := hx.still.step h₁
  cases o with
  | none => exact hn.step hb h₂
  | some r =>
    have := hx.chosen h₁
    exact (hs r).step hb h₂

set_option synthInstance.maxSize 20000 in
instance blockLike_offers : Offers (blockLike g) := by
  unfold blockLike; infer_instance

instance atom_resets (allowStruct : Bool) : Rule.Resets .code base (atom g allowStruct) := by
  unfold atom
  repeat' first
    | refine @ite_resets _ _ _ _ _ _ _ ?_ ?_
    | exact bind_offered_resets inferInstance fun _ _ => inferInstance
    | refine @bind_resets _ _ _ _ _ _ inferInstance fun _ => ?_
    | infer_instance

instance trailed_resets (attributes : List Attribute) (allowStruct : Bool) :
    Rule.Resets .code base (trailed g attributes allowStruct) := by
  unfold trailed; infer_instance
instance peekVerbatim_still : Still peekVerbatim := by
  unfold peekVerbatim; infer_instance
instance peekVerbatim_resets : Rule.Resets .code base peekVerbatim := peekVerbatim_still.resets
set_option synthInstance.maxSize 2000 in
instance unaryAfter_resets (attributes : List Attribute) (allowStruct : Bool) :
    Rule.Resets .code base (unaryAfter g attributes allowStruct) := by
  unfold unaryAfter; infer_instance
instance unaryRule_resets (allowStruct : Bool) :
    Rule.Resets .code base (unaryRule g allowStruct) := by
  unfold unaryRule; infer_instance
instance exprRule_resets (allowStruct : Bool) :
    Rule.Resets .code base (exprRule g allowStruct) := by
  unfold exprRule; infer_instance

/-! ### Attributes before a statement or an arm -/

theorem peekVerbatim_kept {c c' : Cursor} (h : peekVerbatim c = .ok (true, c')) :
    startsKept c.rest = true := by
  unfold peekVerbatim peekBuiltin at h
  simp only [run_bind, run_trees, run_peek, run_peek2, run_pure, andThen_ok, Except.ok.injEq,
    Prod.mk.injEq, Bool.or_eq_true, Bool.and_eq_true, kw_test, op_test] at h
  obtain ⟨hbecome | ⟨⟨hbuiltin, hhash⟩, -⟩, -⟩ := h
  · simp [startsKept, afterMarks_word hbecome, hbecome]
  · have hhash : startsOperator ['#'] (skip 1 c.rest) = true := hhash
    simp only [startsKept, afterMarks_word hbuiltin, hbuiltin, hhash, Bool.and_self, Bool.or_true]

theorem leadingAttributes_taken {ts rest w w' text : List Tree} {as : List Attribute}
    (h : leadingAttributes g ⟨ts, w, none⟩ = .ok ((as, text), ⟨rest, w', none⟩)) :
    w' = w ∧ ∃ marks, ts = marks ++ rest ∧ Reset .code rest marks text ∧
      (text = [] ∨ startsOperator ['#'] marks = true) := by
  obtain ⟨⟨as', text'⟩, marks, rest₁, w₁, rfl, hmarks, hmore⟩ := bind_taken h
  obtain ⟨rfl, hrun⟩ := withhold_eq_ok.1 hmarks
  have hset := outerAttributes_taken g ⟨as', hrun⟩
  obtain ⟨verbatim, c₁, hverbatim, hpure⟩ := bind_eq_ok.1 hmore
  obtain rfl := peekVerbatim_still.step hverbatim
  cases hpure
  refine ⟨rfl, marks, rfl, ?_⟩
  cases verbatim with
  | true => exact ⟨hset.omitted (peekVerbatim_kept hverbatim), .inl rfl⟩
  | false => exact ⟨hset.reset _ _, hset.starts⟩

theorem leading_resets {α : Type} {f : List Attribute × List Tree → Rule α}
    (hforward : ∀ p base, Forward base (f p))
    (hf : ∀ {as marks text ts rest w w' a}, Reset .code ts marks text →
      text = [] ∨ startsOperator ['#'] marks = true →
      f (as, text) ⟨ts, w, none⟩ = .ok (a, ⟨rest, w', none⟩) →
      ∃ read out, marks ++ ts = read ++ rest ∧ w' = out.reverse ++ w ∧ Reset .code rest read out) :
    Rule.Resets .code base (leadingAttributes g >>= f) := by
  refine .of_taken fun h => ?_
  obtain ⟨⟨as, text⟩, piece, rest₁, w₁, rfl, hleading, hmore⟩ := bind_taken h
  obtain ⟨rfl, marks, hmarks, hreset, hstarts⟩ := leadingAttributes_taken g hleading
  obtain rfl : piece = marks := List.append_cancel_right hmarks
  exact hf hreset hstarts hmore

instance boundedRule_resets : Rule.Resets .code base (boundedRule g) := by
  unfold boundedRule
  refine leading_resets g (fun _ _ => bind_chosen_forward inferInstance fun _ _ => inferInstance) ?_
  intro as marks text ts rest w w' shape hmarks hstarts h
  obtain ⟨o, c₁, hlike, h⟩ := bind_eq_ok.1 h
  obtain rfl := (blockLike_offers g).still.step hlike
  cases o with
  | none =>
    obtain ⟨⟨first, text'⟩, piece, rest₁, w₁, rfl, hfirst, hmore⟩ := bind_taken h
    obtain ⟨rfl, hrun⟩ := withhold_eq_ok.1 hfirst
    rw [← List.append_assoc]
    exact written_reset (attributed_reset hmarks hstarts (Writes.reset ⟨first, hrun⟩) _) hmore
  | some block =>
    have := (blockLike_offers g).chosen hlike
    exact written_reset hmarks h

/-! ## Statements -/

instance endsInBrace_resets : Rule.Resets .code base endsInBrace := by
  unfold endsInBrace
  refine @get_bind_resets _ _ _ _ fun c _ => ?_
  split <;> infer_instance

set_option synthInstance.maxSize 20000 in
instance localBinding_resets : Rule.Resets .code base (localBinding g) := by
  unfold localBinding; infer_instance

instance peekCall_still : Still peekCall := by
  refine ⟨fun h => ?_⟩
  unfold peekCall at h
  rw [run_bind, run_get, andThen_ok] at h
  generalize StateT.run plainPath _ = found at h
  cases found with
  | error e =>
    cases h
    rfl
  | ok after => exact Still.step h

instance peekItem_still : Still peekItem := by
  unfold peekItem; infer_instance

set_option synthInstance.maxSize 20000 in
instance keptStatement_resets : Rule.Resets .code base (keptStatement g) := by
  unfold keptStatement
  refine leading_resets g (fun (_, _) _ => inferInstance) ?_
  intro as marks text ts rest w w' kept hmarks hstarts h
  obtain ⟨call, c₁, hcall, h⟩ := bind_eq_ok.1 h
  obtain rfl := peekCall_still.step hcall
  obtain ⟨-, h⟩ | ⟨-, h⟩ := ite_taken h
  · exact written_reset hmarks h
  obtain ⟨-, h⟩ | ⟨-, h⟩ := ite_taken (peek_taken h)
  · exact written_reset hmarks h
  obtain ⟨item, c₁, hitem, h⟩ := bind_eq_ok.1 h
  obtain rfl := peekItem_still.step hitem
  obtain ⟨-, h⟩ | ⟨-, h⟩ := ite_taken h
  · exact written_reset hmarks h
  · obtain ⟨⟨shape, body⟩, piece, rest₁, w₁, rfl, hbounded, hmore⟩ := bind_taken h
    obtain ⟨rfl, hrun⟩ := withhold_eq_ok.1 hbounded
    rw [← List.append_assoc]
    exact written_reset (attributed_reset hmarks hstarts (Writes.reset ⟨shape, hrun⟩) _) hmore

instance statement_resets : Rule.Resets .code base (statement g) := by
  unfold statement; infer_instance
instance statementsRule_resets : Rule.Resets .code base (statementsRule g) := by
  unfold statementsRule; infer_instance

end Values

end FetchKit.Grammar
