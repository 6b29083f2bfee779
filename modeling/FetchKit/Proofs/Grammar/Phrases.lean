import FetchKit.Proofs.Grammar.Reading

/-!
# Phrases

Which phrases the rules for paths, types, patterns and expressions take whole. What may follow a
phrase is part of what is said about it, since rules look ahead.
-/

namespace FetchKit.Grammar

open FetchKit.Source Rule

attribute [local simp] startsOperator_nil startsOperator_ident startsOperator_literal
  startsOperator_group startsOperator_last startsOperator_cons startsWord startsName startsAnyIdent
  startsLifetime startsGroup startsLiteral setOperator

variable {g : Rules}

/-! ## Paths -/

/-- The `::` that a path or its arguments may start with. -/
def lead (leading : Bool) : List Tree :=
  if leading then [.punct ':' true .callSite, .punct ':' false .callSite] else []

/-- Names after a first one, each after `::`. -/
def pathTail (is : List Ident) : List Tree :=
  is.flatMap fun i => [.punct ':' true .callSite, .punct ':' false .callSite, .ident i]

/-- Where a segment ends: no arguments follow. -/
def EndsSegment (rest : List Tree) : Prop :=
  startsOperator ['<'] rest = false ∧
    (startsOperator [':', ':'] rest = true → startsOperator ['<'] (skip 2 rest) = false)

/-- Where a path ends: neither `::` nor arguments follow. -/
def EndsPath (rest : List Tree) : Prop :=
  startsOperator ['<'] rest = false ∧ startsOperator [':', ':'] rest = false

theorem EndsPath.endsSegment {rest : List Tree} (h : EndsPath rest) : EndsSegment rest :=
  ⟨h.1, fun hc => by simp [h.2] at hc⟩

theorem endsSegment_pathTail (is : List Ident) {rest : List Tree} (hrest : EndsSegment rest) :
    EndsSegment (pathTail is ++ rest) := by
  cases is with
  | nil => exact hrest
  | cons i is => simp [EndsSegment, pathTail]

theorem segment_reads_name (g : Rules) (inExpr : Bool) {i : Ident} (hi : i.isName = true)
    {rest : List Tree} (hrest : EndsSegment rest) :
    Reads (segment g inExpr) [.ident i] rest { ident := i } := by
  intro w l
  have hr := isWord_eq_false hi
  simp only [reservedWords, List.mem_cons, forall_eq_or_imp, List.not_mem_nil, or_false,
    forall_eq] at hr
  obtain ⟨hangle, hcolons⟩ := hrest
  simp at hcolons
  simp [↓segment, hr, ↓run_eatName hi, hangle]
  intro hc ha
  simp [hcolons hc] at ha

theorem segment_reads_angle (inExpr : Bool) {i : Ident} (hi : i.isName = true) {s : Span}
    {args rest : List Tree} (hargs : Reads g.angle (.punct '<' false s :: args) rest ()) :
    Reads (segment g inExpr) (.ident i :: (lead inExpr ++ .punct '<' false s :: args)) rest
      { ident := i, hasArguments := true } := by
  intro w l
  have hr := isWord_eq_false hi
  simp only [reservedWords, List.mem_cons, forall_eq_or_imp, List.not_mem_nil, or_false,
    forall_eq] at hr
  have ha := hargs ((.ident i :: lead inExpr).reverse ++ w) l
  cases inExpr with
  | false =>
    simp [lead] at ha ⊢
    simp [↓segment, hr, ↓run_eatName hi, ha]
  | true =>
    simp [lead] at ha ⊢
    simp [↓segment, hr, ↓run_eatName hi, ha]

/-- One round of `moreSegments`. -/
def nextSegment (g : Rules) (inExpr : Bool) (found : List Segment) :
    Rule (Progress (List Segment)) := do
  if (← peek (op "::")) && !(← peek3 paren) then
    eatOp "::"
    return .again ((← segment g inExpr) :: found)
  else return .done found

theorem nextSegment_reads {inExpr : Bool} {piece rest : List Tree} {i : Ident} {s : Segment}
    (h : Reads (segment g inExpr) (.ident i :: piece) rest s) (found : List Segment) :
    Reads (nextSegment g inExpr found)
      (.punct ':' true .callSite :: .punct ':' false .callSite :: .ident i :: piece) rest
      (.again (s :: found)) := by
  intro w l
  have h := h ([.punct ':' false .callSite, .punct ':' true .callSite] ++ w) l
  simp at h ⊢
  simp [↓nextSegment, h]

theorem loops_nextSegment_done (g : Rules) (inExpr : Bool) {rest : List Tree}
    (hrest : EndsPath rest) (found : List Segment) :
    Loops (nextSegment g inExpr) found [] rest found := by
  refine .done fun w l => ?_
  simp [↓nextSegment, hrest.2]

theorem loops_nextSegment_names {inExpr : Bool} {is : List Ident} (his : ∀ i ∈ is, i.isName = true)
    {us rest : List Tree} (hrest : EndsSegment (us ++ rest)) {found out : List Segment}
    (hus : Loops (nextSegment g inExpr) ((is.map fun i => { ident := i }).reverse ++ found) us rest
      out) : Loops (nextSegment g inExpr) found (pathTail is ++ us) rest out := by
  induction is generalizing found with
  | nil => exact hus
  | cons i is ih =>
    have hseg : Reads (segment g inExpr) [.ident i] (pathTail is ++ us ++ rest) { ident := i } := by
      rw [List.append_assoc]
      exact segment_reads_name g inExpr (his i (by simp)) (endsSegment_pathTail is hrest)
    have hmore : Loops (nextSegment g inExpr) ({ ident := i } :: found) (pathTail is ++ us) rest
        out := by
      refine ih (fun j hj => his j (by simp [hj])) ?_
      simpa using hus
    simpa [pathTail] using Loops.again (nextSegment_reads hseg found) hmore

theorem moreSegments_reads {inExpr : Bool} {ts rest : List Tree} {segments found : List Segment}
    (h : Loops (nextSegment g inExpr) segments.reverse ts rest found) :
    Reads (moreSegments g inExpr segments) ts rest found.reverse := by
  intro w l
  have heq : moreSegments g inExpr segments = do
      return (← iterate segments.reverse (nextSegment g inExpr)).reverse := rfl
  rw [heq, run_bind, h.reads w l]
  rfl

theorem path_reads {inExpr : Bool} (leading : Bool) {i : Ident} {first tail rest : List Tree}
    {s : Segment} {segments : List Segment}
    (hfirst : Reads (segment g inExpr) (.ident i :: first) (tail ++ rest) s)
    (htail : Reads (moreSegments g inExpr [s]) tail rest segments) :
    Reads (path g inExpr) (lead leading ++ .ident i :: (first ++ tail)) rest ⟨leading, segments⟩ := by
  intro w l
  have hf := hfirst ((lead leading).reverse ++ w) l
  have ht := htail ((.ident i :: first).reverse ++ ((lead leading).reverse ++ w)) l
  cases leading with
  | false =>
    simp [lead] at hf ht ⊢
    simp [↓path, hf, ht]
  | true =>
    simp [lead] at hf ht ⊢
    simp [↓path, hf, ht]

theorem path_reads_names (g : Rules) (inExpr leading : Bool) {i : Ident} {is : List Ident}
    (hi : i.isName = true) (his : ∀ j ∈ is, j.isName = true) {rest : List Tree}
    (hrest : EndsPath rest) :
    Reads (path g inExpr) (lead leading ++ .ident i :: pathTail is) rest
      ⟨leading, { ident := i } :: is.map fun j => { ident := j }⟩ := by
  have hfirst := segment_reads_name g inExpr hi (endsSegment_pathTail is hrest.endsSegment)
  have hloop : Loops (nextSegment g inExpr) [{ ident := i }] (pathTail is ++ []) rest _ :=
    loops_nextSegment_names his (show EndsSegment ([] ++ rest) from hrest.endsSegment)
      (loops_nextSegment_done g inExpr hrest _)
  rw [List.append_nil] at hloop
  simpa using path_reads leading hfirst (moreSegments_reads hloop)

theorem path_reads_angle {inExpr : Bool} (leading : Bool) {i j : Ident} {is : List Ident}
    (hi : i.isName = true) (his : ∀ k ∈ is, k.isName = true) (hj : j.isName = true) {s : Span}
    {args rest : List Tree} (hargs : Reads g.angle (.punct '<' false s :: args) rest ())
    (hrest : EndsPath rest) :
    Reads (path g inExpr)
      (lead leading ++ .ident i ::
        (pathTail (is ++ [j]) ++ (lead inExpr ++ .punct '<' false s :: args))) rest
      ⟨leading, ({ ident := i } :: is.map fun k => { ident := k }) ++
        [{ ident := j, hasArguments := true }]⟩ := by
  have hends : EndsSegment (pathTail [j] ++ (lead inExpr ++ .punct '<' false s :: args) ++ rest) := by
    simp [EndsSegment, pathTail]
  have hlast := nextSegment_reads (segment_reads_angle inExpr hj hargs)
  have hloop : Loops (nextSegment g inExpr) [{ ident := i }]
      (pathTail is ++ (pathTail [j] ++ (lead inExpr ++ .punct '<' false s :: args))) rest _ :=
    loops_nextSegment_names his hends
      (by simpa [pathTail] using Loops.again (hlast _) (loops_nextSegment_done g inExpr hrest _))
  have hfirst := segment_reads_name g inExpr hi (endsSegment_pathTail is hends)
  rw [← List.append_assoc] at hfirst
  simpa [pathTail] using path_reads leading hfirst (moreSegments_reads hloop)

/-! ## Types -/

/-- Where a path ends as a type: it is not called, and no bound is joined to it. -/
def EndsType (rest : List Tree) : Prop :=
  startsOperator ['!'] rest = false ∧ startsOperator ['+'] rest = false

theorem type_reads_path (plus leading : Bool) {i : Ident} (hi : i.isName = true)
    {tail rest : List Tree} {p : Path}
    (hpath : Reads (path g false) (lead leading ++ .ident i :: tail) rest p)
    (hbuiltin : startsOperator ['#'] (tail ++ rest) = false) (hrest : EndsType rest) :
    Reads (typeRule g plus) (lead leading ++ .ident i :: tail) rest (.path p) := by
  have hr := isWord_eq_false hi
  simp only [reservedWords, List.mem_cons, forall_eq_or_imp, List.not_mem_nil, or_false,
    forall_eq] at hr
  refine Reads.keeping (a := ⟨TypeShape.path p, false⟩) fun w l => ?_
  have hp := hpath w l
  cases leading with
  | false =>
    simp [lead] at hp ⊢
    simp [↓keptType, ↓binder?, ↓peekBuiltin, ↓typeAfterPath, ↓anyPath, hr, hi, hbuiltin, hp, hrest.1,
      hrest.2]
  | true =>
    simp [lead] at hp ⊢
    simp [↓keptType, ↓binder?, ↓peekBuiltin, ↓typeAfterPath, ↓anyPath, hp, hrest.1, hrest.2]

theorem type_reads_reference (plus : Bool) {s : Span} {ts rest : List Tree} {t : TypeShape}
    (htype : Reads (g.type false) (lead true ++ ts) rest t) :
    Reads (typeRule g plus) (.punct '&' false s :: (lead true ++ ts)) rest .other := by
  refine Reads.keeping (a := ⟨TypeShape.other, false⟩) fun w l => ?_
  have ht := htype (.punct '&' false s :: w) l
  simp [lead] at ht ⊢
  simp [↓keptType, ↓binder?, ↓peekBuiltin, ↓reference, ↓eatLifetime?, ht]

/-! ### Generic arguments -/

theorem genericArgument_reads_name {i : Ident} (hi : i.isName = true) {s : Span} {rest : List Tree}
    (htype : Reads (g.type true) [.ident i] (.punct '>' false s :: rest)
      (.path ⟨false, [{ ident := i }]⟩)) :
    Reads (genericArgument g) [.ident i] (.punct '>' false s :: rest) false := by
  intro w l
  have hr := isWord_eq_false hi
  simp only [reservedWords, List.mem_cons, forall_eq_or_imp, List.not_mem_nil, or_false,
    forall_eq] at hr
  have ht := htype w l
  simp at ht ⊢
  simp [↓genericArgument, hr, ht]

theorem angle_reads_name {i : Ident} (hi : i.isName = true) {s s' : Span} {rest : List Tree}
    (htype : Reads (g.type true) [.ident i] (.punct '>' false s' :: rest)
      (.path ⟨false, [{ ident := i }]⟩)) :
    Reads (angleRule g) [.punct '<' false s, .ident i, .punct '>' false s'] rest () := by
  intro w l
  have hw := (genericArgument_reads_name hi htype).withhold (.punct '<' false s :: w) l
  simp at hw ⊢
  simp [↓angleRule, hw, arrange]

/-! ## Patterns -/

/-- Where a name ends as a pattern: nothing follows that would make it more than a name. -/
def EndsName (rest : List Tree) : Prop :=
  startsOperator [':', ':'] rest = false ∧ startsOperator ['!'] rest = false ∧
    startsGroup .brace rest = false ∧ startsGroup .paren rest = false ∧
    startsOperator ['.', '.'] rest = false ∧ startsOperator ['@'] rest = false

theorem pattern_reads_name (g : Rules) {i : Ident} (hi : i.isName = true) {rest : List Tree}
    (hrest : EndsName rest) : Reads (patternRule g) [.ident i] rest .other := by
  intro w l
  have hr := isWord_eq_false hi
  simp only [reservedWords, List.mem_cons, forall_eq_or_imp, List.not_mem_nil, or_false,
    forall_eq] at hr
  obtain ⟨hcolons, hbang, hbrace, hparen, hdots, hat⟩ := hrest
  simp at hbrace hparen
  simp [↓patternRule, ↓namePattern, hr, hi, ↓run_eatName hi, hcolons, hbang, hbrace, hparen, hdots,
    hat]

theorem pattern_reads_tuple {content rest : List Tree} {s : Span} {shapes : List PatternShape}
    (h : Reads (terminated (alternatives g)) content [] shapes) :
    Reads (patternRule g) [.group .paren content s] rest .other := by
  intro w l
  have h := h.within .paren s rest w l
  simp at h ⊢
  simp [↓patternRule, h]

theorem pattern_reads_call {ts content rest : List Tree} {s : Span} {p : Path}
    {shapes : List PatternShape}
    (hpath : Reads (path g true) (lead true ++ ts) (.group .paren content s :: rest) p)
    (h : Reads (terminated (alternatives g)) content [] shapes) :
    Reads (patternRule g) (lead true ++ ts ++ [.group .paren content s]) rest .other := by
  intro w l
  have hp := hpath w l
  have h := h.within .paren s rest ((lead true ++ ts).reverse ++ w) l
  simp [lead] at hp h ⊢
  simp [↓patternRule, ↓pathPattern, ↓anyPath, hp, h]

theorem alternatives_reads {ts rest : List Tree} {shape : PatternShape}
    (h : Reads g.pattern ts rest shape) (hfirst : startsOperator ['|'] (ts ++ rest) = false)
    (hrest : startsOperator ['|'] rest = false) : Reads (alternatives g) ts rest shape := by
  intro w l
  simp [↓alternatives, ↓peekBar, hfirst, h w l, hrest]

/-! ## Expressions -/

/-- Where an expression ends: at the end of its group, at a comma or semicolon, or before a block. -/
inductive EndsExpr : List Tree → Prop
  | nil : EndsExpr []
  | comma {joint span rest} : EndsExpr (.punct ',' joint span :: rest)
  | semicolon {joint span rest} : EndsExpr (.punct ';' joint span :: rest)
  | block {content span rest} : EndsExpr (.group .brace content span :: rest)

theorem EndsExpr.startsOperator_eq_false {rest : List Tree} (h : EndsExpr rest) (c : Char)
    (cs : List Char) (hcomma : c ≠ ',') (hsemicolon : c ≠ ';') :
    startsOperator (c :: cs) rest = false := by
  cases h <;> cases cs <;> simp [hcomma, hsemicolon]

theorem binaryOperators_chars : ∀ o ∈ binaryOperators,
    ∃ c cs, o.1.toList = c :: cs ∧ c ≠ ',' ∧ c ≠ ';' := by
  simp [binaryOperators]

theorem peekOperator_of_endsExpr {rest : List Tree} (h : EndsExpr rest) (w : List Tree)
    (l : Option Delimiter) : peekOperator ⟨rest, w, l⟩ = .ok (none, ⟨rest, w, l⟩) := by
  have hnone : binaryOperators.find? (fun o => (op o.1).test rest) = none := by
    rw [List.find?_eq_none]
    intro o ho
    obtain ⟨c, cs, hchars, hcomma, hsemicolon⟩ := binaryOperators_chars o ho
    simp [hchars, h.startsOperator_eq_false c cs hcomma hsemicolon]
  rw [peekOperator, run_bind, run_trees, andThen_ok, run_pure, hnone]

theorem operators_reads_nil (g : Rules) {rest : List Tree} (h : EndsExpr rest) (first : ExprShape)
    (allowStruct : Bool) (p : Nat) :
    Reads (operatorsRule g first allowStruct p) [] rest first := by
  intro w l
  have hnone := peekOperator_of_endsExpr h w l
  have hchar := h.startsOperator_eq_false
  have has : startsWord "as" rest = false := by cases h <;> rfl
  by_cases hrange : first = .range
  · simp [↓operatorsRule, hrange]
  · simp [↓operatorsRule, hrange, hnone, hchar, has, -startsWord]

theorem expr_reads {allowStruct : Bool} {ts rest : List Tree} {shape : ExprShape}
    (h : Reads (unaryRule g allowStruct) ts rest shape) (hrest : EndsExpr rest) :
    Reads (exprRule g allowStruct) ts rest shape := by
  intro w l
  have hops := operators_reads_nil g hrest shape allowStruct Precedence.lowest (ts.reverse ++ w) l
  simp at hops
  simp [↓exprRule, h w l, hops]

/-! ### What follows an operand -/

/-- One round of `trailers`. -/
def trailer (g : Rules) (operand : ExprShape) : Rule (Progress ExprShape) := do
  if ← peek paren then
    callArguments g
    return .again .other
  else if (← peek (op ".")) && !(← peek (op "..")) && operand != .range then
    memberTail g
    return .again .other
  else if ← peek bracket then
    let _ ← within .bracket (g.expr true)
    return .again .other
  else if (← peek (op "?")) && operand != .range then
    eatOp "?"
    return .again .other
  else return .done operand

theorem trailers_reads {first shape : ExprShape} {ts rest : List Tree}
    (h : Loops (trailer g) first ts rest shape) : Reads (trailers g first) ts rest shape :=
  h.reads

theorem loops_trailer_done (g : Rules) {rest : List Tree} (h : EndsExpr rest) (operand : ExprShape) :
    Loops (trailer g) operand [] rest operand := by
  refine .done fun w l => ?_
  cases h <;> simp [↓trailer]

theorem callArguments_reads {content : List Tree} {shapes : List ExprShape}
    (h : Reads (terminated (g.expr true)) content [] shapes) (s : Span) (rest : List Tree) :
    Reads (callArguments g) [.group .paren content s] rest () := by
  intro w l
  rw [callArguments, run_bind, h.within .paren s rest w l]
  simp

theorem loops_trailer_call {content us rest : List Tree} {s : Span} {shapes : List ExprShape}
    {operand shape : ExprShape} (h : Reads (terminated (g.expr true)) content [] shapes)
    (hus : Loops (trailer g) .other us rest shape) :
    Loops (trailer g) operand (.group .paren content s :: us) rest shape := by
  have hround : Reads (trailer g operand) [.group .paren content s] (us ++ rest) (.again .other) := by
    intro w l
    have h := callArguments_reads h s (us ++ rest) w l
    simp at h ⊢
    simp [↓trailer, h]
  exact .again hround hus

theorem loops_trailer_await {us rest : List Tree} {s s' : Span} {operand shape : ExprShape}
    (hoperand : operand ≠ .range) (hus : Loops (trailer g) .other us rest shape) :
    Loops (trailer g) operand (.punct '.' false s :: .ident ⟨"await", false, s'⟩ :: us) rest
      shape := by
  have hround : Reads (trailer g operand) [.punct '.' false s, .ident ⟨"await", false, s'⟩]
      (us ++ rest) (.again .other) := by
    intro w l
    simp [↓trailer, ↓memberTail, hoperand]
  exact .again hround hus

theorem loops_trailer_question {us rest : List Tree} {s : Span} {operand shape : ExprShape}
    (hoperand : operand ≠ .range) (hus : Loops (trailer g) .other us rest shape) :
    Loops (trailer g) operand (.punct '?' false s :: us) rest shape := by
  have hround : Reads (trailer g operand) [.punct '?' false s] (us ++ rest) (.again .other) := by
    intro w l
    simp [↓trailer, hoperand]
  exact .again hround hus

theorem loops_trailer_method {i : Ident} (hi : i.isName = true) {content us rest : List Tree}
    {s s' : Span} {shapes : List ExprShape} {operand shape : ExprShape} (hoperand : operand ≠ .range)
    (h : Reads (terminated (g.expr true)) content [] shapes)
    (hus : Loops (trailer g) .other us rest shape) :
    Loops (trailer g) operand (.punct '.' false s :: .ident i :: .group .paren content s' :: us) rest
      shape := by
  have hr := isWord_eq_false hi
  simp only [reservedWords, List.mem_cons, forall_eq_or_imp, List.not_mem_nil, or_false,
    forall_eq] at hr
  have hround : Reads (trailer g operand) [.punct '.' false s, .ident i, .group .paren content s']
      (us ++ rest) (.again .other) := by
    intro w l
    have h := callArguments_reads h s' (us ++ rest) (.ident i :: .punct '.' false s :: w) l
    simp at h ⊢
    simp [↓trailer, ↓memberTail, ↓memberKey, ↓run_eatName hi, hi, hoperand, hr, h]
  exact .again hround hus

/-! ### Operands -/

theorem outerAttributes_reads_nil (g : Rules) {rest : List Tree}
    (h : startsOperator ['#'] rest = false) : Reads (outerAttributes g) [] rest [] := by
  intro w l
  simp [↓outerAttributes, h]

theorem pathOperand_reads (allowStruct : Bool) {ts rest : List Tree} {p : Path}
    (hpath : Reads (path g true) ts rest p) (hfirst : startsOperator ['<'] (ts ++ rest) = false)
    (hbang : startsOperator ['!'] rest = false)
    (hbrace : allowStruct = true → startsGroup .brace rest = false) :
    Reads (pathOperand g allowStruct) ts rest .other := by
  intro w l
  cases allowStruct with
  | false => simp [↓pathOperand, ↓anyPath, hfirst, hpath w l, hbang]
  | true =>
    have hbrace := hbrace rfl
    simp at hbrace
    simp [↓pathOperand, ↓anyPath, hfirst, hpath w l, hbang, hbrace]

theorem atom_reads_path (allowStruct leading : Bool) {i : Ident} (hi : i.isName = true)
    {tail rest : List Tree} {shape : ExprShape}
    (h : Reads (pathOperand g allowStruct) (lead leading ++ .ident i :: tail) rest shape)
    (hbuiltin : startsOperator ['#'] (tail ++ rest) = false) :
    Reads (atom g allowStruct) (lead leading ++ .ident i :: tail) rest shape := by
  intro w l
  have hr := isWord_eq_false hi
  simp only [reservedWords, List.mem_cons, forall_eq_or_imp, List.not_mem_nil, or_false,
    forall_eq] at hr
  have h := h w l
  cases leading with
  | false =>
    simp [lead] at h ⊢
    simp [↓atom, ↓peekClosure, ↓peekBinder, ↓peekBuiltin, hr, hi, hbuiltin, h]
  | true =>
    simp [lead] at h ⊢
    simp [↓atom, ↓peekClosure, ↓peekBinder, ↓peekBuiltin, h]

theorem atom_reads_literal (g : Rules) (allowStruct : Bool) (text : String) (s : Span)
    (rest : List Tree) : Reads (atom g allowStruct) [.literal text s] rest .other := by
  intro w l
  simp [↓atom, ↓eatLiteral]

/-- An operand starts here without attributes or operators, and it is not kept as it stood. -/
structure PlainStart (ts : List Tree) : Prop where
  hash : startsOperator ['#'] ts = false
  amp : startsOperator ['&'] ts = false
  star : startsOperator ['*'] ts = false
  bang : startsOperator ['!'] ts = false
  minus : startsOperator ['-'] ts = false
  become : startsWord "become" ts = false
  builtin : startsWord "builtin" ts = true → startsOperator ['#'] (skip 1 ts) = false

theorem plainStart_path (leading : Bool) {i : Ident} (hi : i.isName = true) {tail : List Tree}
    (hbuiltin : startsOperator ['#'] tail = false) :
    PlainStart (lead leading ++ .ident i :: tail) := by
  have hr := isWord_eq_false hi
  simp only [reservedWords, List.mem_cons, forall_eq_or_imp, List.not_mem_nil, or_false,
    forall_eq] at hr
  cases leading <;> constructor <;> simp [lead, hr, hbuiltin]

theorem plainStart_literal (text : String) (s : Span) (tail : List Tree) :
    PlainStart (.literal text s :: tail) := by
  constructor <;> simp

theorem peekVerbatim_of_plainStart {ts : List Tree} (h : PlainStart ts) (w : List Tree)
    (l : Option Delimiter) : peekVerbatim ⟨ts, w, l⟩ = .ok (false, ⟨ts, w, l⟩) := by
  have hbecome := h.become
  cases hb : startsWord "builtin" ts with
  | false => simp [↓peekVerbatim, ↓peekBuiltin, hbecome, hb, -startsWord]
  | true =>
    have hhash := h.builtin hb
    simp at hhash
    simp [↓peekVerbatim, ↓peekBuiltin, hbecome, hb, hhash, -startsWord]

theorem unary_reads {allowStruct : Bool} {ts us rest : List Tree} {shape shape' : ExprShape}
    (hatom : Reads (atom g allowStruct) ts (us ++ rest) shape)
    (htrail : Loops (trailer g) shape us rest shape') (hstart : PlainStart (ts ++ us ++ rest)) :
    Reads (unaryRule g allowStruct) (ts ++ us) rest shape' := by
  refine Reads.keeping (a := ⟨shape', false⟩) fun w l => ?_
  have ha := hatom w l
  have ht := trailers_reads htrail (ts.reverse ++ w) l
  have hv := peekVerbatim_of_plainStart hstart w l
  have hattr := outerAttributes_reads_nil g hstart.hash w l
  obtain ⟨-, hamp, hstar, hbang, hminus, -, -⟩ := hstart
  simp at hattr hv hamp hstar hbang hminus ⊢
  simp [hattr, hv, ↓unaryAfter, ↓trailed, hamp, hstar, hbang, hminus, ha, ht]

theorem unary_reads_path {allowStruct : Bool} (leading : Bool) {i : Ident} (hi : i.isName = true)
    {tail us rest : List Tree} {p : Path} {shape : ExprShape}
    (hpath : Reads (path g true) (lead leading ++ .ident i :: tail) (us ++ rest) p)
    (hbuiltin : startsOperator ['#'] (tail ++ (us ++ rest)) = false)
    (hbang : startsOperator ['!'] (us ++ rest) = false)
    (hbrace : allowStruct = true → startsGroup .brace (us ++ rest) = false)
    (htrail : Loops (trailer g) .other us rest shape) :
    Reads (unaryRule g allowStruct) (lead leading ++ .ident i :: tail ++ us) rest shape := by
  have hangle : startsOperator ['<'] (lead leading ++ .ident i :: tail ++ (us ++ rest)) = false := by
    cases leading <;> simp [lead]
  have hatom := atom_reads_path allowStruct leading hi
    (pathOperand_reads allowStruct hpath hangle hbang hbrace) hbuiltin
  have hstart := plainStart_path leading hi hbuiltin
  refine unary_reads hatom htrail ?_
  simpa using hstart

theorem unary_reads_call (allowStruct leading : Bool) {i : Ident} (hi : i.isName = true)
    {is : List Ident} (his : ∀ j ∈ is, j.isName = true) {content us rest : List Tree} {s : Span}
    {shapes : List ExprShape} {shape : ExprShape}
    (h : Reads (terminated (g.expr true)) content [] shapes)
    (hus : Loops (trailer g) .other us rest shape) :
    Reads (unaryRule g allowStruct)
      (lead leading ++ .ident i :: pathTail is ++ .group .paren content s :: us) rest shape := by
  have hends : EndsPath (.group .paren content s :: us ++ rest) := by simp [EndsPath]
  have hpath := path_reads_names g true leading hi his hends
  refine unary_reads_path leading hi hpath ?_ ?_ ?_ (loops_trailer_call h hus)
  · cases is <;> simp [pathTail]
  · simp
  · simp

theorem unary_reads_literal (g : Rules) (allowStruct : Bool) (text : String) (s : Span)
    {rest : List Tree} (hrest : EndsExpr rest) :
    Reads (unaryRule g allowStruct) [.literal text s] rest .other := by
  have hatom := atom_reads_literal g allowStruct text s ([] ++ rest)
  have hstart := plainStart_literal text s rest
  have hunary := unary_reads hatom (loops_trailer_done g hrest .other) (by simpa using hstart)
  simpa using hunary

theorem unary_reads_borrow {allowStruct : Bool} {i : Ident} (hi : i.isName = true)
    (hraw : i.isWord "raw" = false) {s : Span} {rest : List Tree} {shape : ExprShape}
    (h : Reads (g.unary allowStruct) [.ident i] rest shape) :
    Reads (unaryRule g allowStruct) [.punct '&' false s, .ident i] rest .other := by
  have hr := isWord_eq_false hi
  simp only [reservedWords, List.mem_cons, forall_eq_or_imp, List.not_mem_nil, or_false,
    forall_eq] at hr
  refine Reads.keeping (a := ⟨ExprShape.other, false⟩) fun w l => ?_
  have h := h (.punct '&' false s :: w) l
  simp at h ⊢
  simp [↓outerAttributes, ↓peekVerbatim, ↓peekBuiltin, ↓unaryAfter, hraw, hr, h]

end FetchKit.Grammar
