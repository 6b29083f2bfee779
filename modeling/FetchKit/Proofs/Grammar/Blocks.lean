import FetchKit.Proofs.Grammar.Phrases

/-!
# Blocks

Which statements, arms, functions and `impl` blocks the rules take whole, given the phrases that
they are made of.
-/

namespace FetchKit.Grammar

open FetchKit.Source Rule

attribute [local simp] startsOperator_nil startsOperator_ident startsOperator_literal
  startsOperator_group startsOperator_last startsOperator_cons startsWord startsName startsAnyIdent
  startsLifetime startsGroup startsLiteral setOperator

variable {α : Type} {g : Rules}

/-! ## Loops over the parts of a block -/

/-- One round of `loop`. -/
def loopRound (body : Rule Bool) (_ : Unit) : Rule (Progress Unit) := do
  if ← body then return .again () else return .done ()

theorem loops_loopRound_done {body : Rule Bool} {ts rest : List Tree} (h : Reads body ts rest false) :
    Loops (loopRound body) () ts rest () := by
  refine .done fun w l => ?_
  simp [↓loopRound, h w l]

theorem loops_loopRound_again {body : Rule Bool} {t : Tree} {ts us rest : List Tree}
    (h : Reads body (t :: ts) (us ++ rest) true) (hus : Loops (loopRound body) () us rest ()) :
    Loops (loopRound body) () (t :: ts ++ us) rest () := by
  refine .again (fun w l => ?_) hus
  have h := h w l
  simp at h ⊢
  simp [↓loopRound, h]

theorem loop_reads {body : Rule Bool} {ts rest : List Tree}
    (h : Loops (loopRound body) () ts rest ()) : Reads (loop body) ts rest () :=
  h.reads

/-- One round of `untilEnd`. -/
def untilRound (item : Rule α) (found : List α) : Rule (Progress (List α)) := do
  if ← atEnd then return .done found
  return .again ((← item) :: found)

theorem loops_untilRound_nil (item : Rule α) (found : List α) :
    Loops (untilRound item) found [] [] found := by
  refine .done fun w l => ?_
  simp [↓untilRound]

theorem loops_untilRound_again {item : Rule α} {t : Tree} {ts us : List Tree} {a : α}
    {found out : List α} (h : Reads item (t :: ts) us a)
    (hus : Loops (untilRound item) (a :: found) us [] out) :
    Loops (untilRound item) found (t :: ts ++ us) [] out := by
  refine .again (fun w l => ?_) hus
  have h := h w l
  simp at h ⊢
  simp [↓untilRound, h]

theorem untilEnd_reads {item : Rule α} {ts : List Tree} {found : List α}
    (h : Loops (untilRound item) [] ts [] found) : Reads (untilEnd item) ts [] found.reverse := by
  intro w l
  have heq : untilEnd item = do return (← iterate [] (untilRound item)).reverse := rfl
  rw [heq, run_bind, h.reads w l]
  rfl

theorem innerAttributes_reads_nil (g : Rules) {rest : List Tree}
    (h : startsOperator ['#'] rest = false) : Reads (innerAttributes g) [] rest [] := by
  intro w l
  simp [↓innerAttributes, h]

theorem bracedBlock_reads {content : List Tree} (h : Reads g.statements content [] ())
    (hhash : startsOperator ['#'] content = false) (s : Span) (rest : List Tree) :
    Reads (bracedBlock g) [.group .brace content s] rest () := by
  refine Reads.within (fun w l => ?_) .brace s rest
  have hattr := innerAttributes_reads_nil g hhash w l
  have h := h w l
  simp at hattr h ⊢
  simp [hattr, h]

/-! ## Expressions that stand alone -/

theorem leadingAttributes_of_plainStart (g : Rules) {ts : List Tree} (h : PlainStart ts)
    (w : List Tree) (l : Option Delimiter) :
    leadingAttributes g ⟨ts, w, l⟩ = .ok (([], []), ⟨ts, w, l⟩) := by
  have hattr := (outerAttributes_reads_nil g h.hash).withhold w l
  have hv := peekVerbatim_of_plainStart h w l
  simp at hattr
  simp [↓leadingAttributes, hattr, hv]

theorem blockLike_path (g : Rules) (leading : Bool) {i : Ident} (hi : i.isName = true)
    (tail w : List Tree) (l : Option Delimiter) :
    blockLike g ⟨lead leading ++ .ident i :: tail, w, l⟩ =
      .ok (none, ⟨lead leading ++ .ident i :: tail, w, l⟩) := by
  have hr := isWord_eq_false hi
  simp only [reservedWords, List.mem_cons, forall_eq_or_imp, List.not_mem_nil, or_false,
    forall_eq] at hr
  cases leading <;> simp [lead, ↓blockLike, ↓peekBinder, hr]

theorem bounded_reads_path {leading : Bool} {i : Ident} (hi : i.isName = true) {tail rest : List Tree}
    {shape : ExprShape} (h : Reads (unaryRule g true) (lead leading ++ .ident i :: tail) rest shape)
    (hbuiltin : startsOperator ['#'] (tail ++ rest) = false) (hrest : EndsExpr rest) :
    Reads (boundedRule g) (lead leading ++ .ident i :: tail) rest shape := by
  intro w l
  have hlead := leadingAttributes_of_plainStart g (plainStart_path leading hi hbuiltin) w l
  have hblock := blockLike_path g leading hi (tail ++ rest) w l
  have hunary := h.withhold w l
  have hops := operators_reads_nil g hrest shape true Precedence.lowest
    ((lead leading ++ .ident i :: tail).reverse ++ w) l
  simp at hlead hblock hunary hops ⊢
  simp [↓boundedRule, hlead, hblock, hunary, attributed, hops]

theorem bounded_reads_call (leading : Bool) {i : Ident} (hi : i.isName = true)
    {is : List Ident} (his : ∀ j ∈ is, j.isName = true) {content us rest : List Tree} {s : Span}
    {shapes : List ExprShape} {shape : ExprShape}
    (h : Reads (terminated (g.expr true)) content [] shapes)
    (hus : Loops (trailer g) .other us rest shape) (hrest : EndsExpr rest) :
    Reads (boundedRule g)
      (lead leading ++ .ident i :: pathTail is ++ .group .paren content s :: us) rest shape := by
  have hunary := unary_reads_call true leading hi his (s := s) h hus
  rw [List.append_assoc] at hunary ⊢
  refine bounded_reads_path hi hunary ?_ hrest
  cases is <;> simp [pathTail]

theorem bounded_reads_block {r : Rule Unit} {ts rest : List Tree} (hstart : PlainStart (ts ++ rest))
    (hblock : ∀ w l, blockLike g ⟨ts ++ rest, w, l⟩ = .ok (some r, ⟨ts ++ rest, w, l⟩))
    (h : Reads r ts rest ()) (hdot : startsOperator ['.'] rest = false)
    (hquestion : startsOperator ['?'] rest = false) :
    Reads (boundedRule g) ts rest .block := by
  intro w l
  have hlead := leadingAttributes_of_plainStart g hstart w l
  simp [↓boundedRule, hlead, hblock w l, h w l, hdot, hquestion]

/-! ## Statements -/

/-- One round of `plainPath`. -/
def nextName : List Segment × Bool → Rule (Progress (List Segment × Bool))
  | (segments, trailing) => do
    if ← peekAny [name, kw "super", kw "self", kw "Self", kw "crate"] then
      let i ← eatAnyIdent
      if ← peek (op "::") then
        eatOp "::"
        return .again ({ ident := i } :: segments, true)
      else return .done ({ ident := i } :: segments, false)
    else return .done (segments, trailing)

theorem loops_nextName {i : Ident} (hi : i.isName = true) {is : List Ident}
    (his : ∀ j ∈ is, j.isName = true) {rest : List Tree}
    (hrest : startsOperator [':', ':'] rest = false) (found : List Segment) (trailing : Bool) :
    Loops nextName (found, trailing) (.ident i :: pathTail is) rest
      (((i :: is).map fun j => { ident := j }).reverse ++ found, false) := by
  induction is generalizing i found trailing with
  | nil =>
    -- No `::` follows the last name, so the loop ends with it.
    refine .done fun w l => ?_
    simp [pathTail, ↓nextName, hi, hrest]
  | cons j is ih =>
    have his' : ∀ k ∈ is, k.isName = true := fun k hk => his k (by simp [hk])
    have hmore := ih (his j (by simp)) his' ({ ident := i } :: found) true
    have hround : Reads (nextName (found, trailing))
        [.ident i, .punct ':' true .callSite, .punct ':' false .callSite]
        (.ident j :: pathTail is ++ rest) (.again ({ ident := i } :: found, true)) := by
      intro w l
      simp [↓nextName, hi]
    simpa [pathTail] using Loops.again hround hmore

theorem plainPath_eq : plainPath = (do
    let leading ← eatOp? "::"
    let (segments, trailing) ← iterate ([], false) nextName
    if segments.isEmpty then
      let i ← eatName
      return ⟨leading, [{ ident := i }]⟩
    else if trailing then complain "expected path segment after `::`"
    else return ⟨leading, segments.reverse⟩) := rfl

theorem plainPath_reads (leading : Bool) {i : Ident} (hi : i.isName = true) {is : List Ident}
    (his : ∀ j ∈ is, j.isName = true) {rest : List Tree}
    (hrest : startsOperator [':', ':'] rest = false) :
    Reads plainPath (lead leading ++ .ident i :: pathTail is) rest
      ⟨leading, (i :: is).map fun j => { ident := j }⟩ := by
  intro w l
  have hloop := (loops_nextName hi his hrest [] false).reads ((lead leading).reverse ++ w) l
  rw [plainPath_eq]
  cases leading with
  | false =>
    simp [lead, -run_iterate] at hloop ⊢
    simp [hloop, -run_iterate]
  | true =>
    simp [lead, -run_iterate] at hloop ⊢
    simp [hloop, -run_iterate]

theorem peekCall_path (leading : Bool) {i : Ident} (hi : i.isName = true) {is : List Ident}
    (his : ∀ j ∈ is, j.isName = true) {rest : List Tree}
    (hrest : startsOperator [':', ':'] rest = false) (hbang : startsOperator ['!'] rest = false)
    (w : List Tree) (l : Option Delimiter) :
    peekCall ⟨lead leading ++ .ident i :: pathTail is ++ rest, w, l⟩ =
      .ok (.none, ⟨lead leading ++ .ident i :: pathTail is ++ rest, w, l⟩) := by
  have hpath := plainPath_reads leading hi his hrest w l
  rw [peekCall, run_bind, run_get, andThen_ok, run_self, hpath]
  simp [hbang]

theorem peekCall_keyword {i : Ident} (hi : i.isName = false)
    (hword : ∀ w ∈ ["super", "self", "Self", "crate"], i.isWord w = false) (ts w : List Tree)
    (l : Option Delimiter) :
    peekCall ⟨.ident i :: ts, w, l⟩ = .ok (.none, ⟨.ident i :: ts, w, l⟩) := by
  simp at hword
  have hpath : ∃ e, plainPath ⟨.ident i :: ts, w, l⟩ = .error e := by
    refine ⟨.keyword i.text, ?_⟩
    simp [↓plainPath, hi, hword, ↓eatName]
  obtain ⟨e, hpath⟩ := hpath
  rw [peekCall, run_bind, run_get, andThen_ok, run_self, hpath]
  simp

theorem startsWord_eq_false {ts : List Tree} (h : startsAnyIdent ts = false) (w : String) :
    startsWord w ts = false := by
  unfold startsAnyIdent at h
  unfold startsWord
  split
  · simp at h
  · rfl

theorem startsName_eq_false {ts : List Tree} (h : startsAnyIdent ts = false) :
    startsName ts = false := by
  unfold startsAnyIdent at h
  unfold startsName
  split
  · simp at h
  · rfl

theorem peekItem_path (leading : Bool) {i : Ident} (hi : i.isName = true) {tail : List Tree}
    (htail : startsAnyIdent tail = false) (w : List Tree) (l : Option Delimiter) :
    peekItem ⟨lead leading ++ .ident i :: tail, w, l⟩ =
      .ok (false, ⟨lead leading ++ .ident i :: tail, w, l⟩) := by
  have hr := isWord_eq_false hi
  simp only [reservedWords, List.mem_cons, forall_eq_or_imp, List.not_mem_nil, or_false,
    forall_eq] at hr
  have hname := startsName_eq_false htail
  have hword := startsWord_eq_false htail
  simp only [startsName, startsWord] at hname hword
  cases leading <;> simp [lead, ↓peekItem, hr, hname, hword]

theorem statement_reads_expr {ts rest : List Tree} {shape : ExprShape}
    (hstart : PlainStart (ts ++ rest))
    (hcall : ∀ w l, peekCall ⟨ts ++ rest, w, l⟩ = .ok (.none, ⟨ts ++ rest, w, l⟩))
    (hlet : startsWord "let" (ts ++ rest) = false)
    (hitem : ∀ w l, peekItem ⟨ts ++ rest, w, l⟩ = .ok (false, ⟨ts ++ rest, w, l⟩))
    (h : Reads g.bounded ts rest shape) (hrest : startsOperator [';'] rest = false) :
    Reads (statement g) ts rest shape.endsStatement := by
  refine Reads.keeping (a := ⟨shape.endsStatement, false⟩) fun w l => ?_
  have hlead := leadingAttributes_of_plainStart g hstart w l
  simp [↓keptStatement, hlead, hcall w l, hlet, hitem w l, h.withhold w l, attributed, hrest,
    -startsWord]

theorem statement_reads_call (leading : Bool) {i : Ident} (hi : i.isName = true) {is : List Ident}
    (his : ∀ j ∈ is, j.isName = true) {content us rest : List Tree} {s : Span} {shape : ExprShape}
    (h : Reads g.bounded (lead leading ++ .ident i :: pathTail is ++ .group .paren content s :: us)
      rest shape) (hrest : startsOperator [';'] rest = false) :
    Reads (statement g) (lead leading ++ .ident i :: pathTail is ++ .group .paren content s :: us)
      rest shape.endsStatement := by
  have hr := isWord_eq_false hi
  simp only [reservedWords, List.mem_cons, forall_eq_or_imp, List.not_mem_nil, or_false,
    forall_eq] at hr
  have hhash : startsOperator ['#'] (pathTail is ++ .group .paren content s :: (us ++ rest)) =
      false := by
    cases is <;> simp [pathTail]
  have hword : startsAnyIdent (pathTail is ++ .group .paren content s :: (us ++ rest)) = false := by
    cases is <;> simp [pathTail]
  have hlet : startsWord "let" (lead leading ++ .ident i :: pathTail is ++
      .group .paren content s :: (us ++ rest)) = false := by
    cases leading <;> simp [lead, hr]
  refine statement_reads_expr ?_ ?_ ?_ ?_ h hrest
  · simpa using plainStart_path leading hi hhash
  · have hcolons : startsOperator [':', ':'] (.group .paren content s :: (us ++ rest)) = false := by
      simp
    simpa using peekCall_path leading hi his hcolons (by simp)
  · simpa using hlet
  · simpa using peekItem_path leading hi hword

theorem endsInBrace_still (c : Cursor) :
    endsInBrace c = .ok (true, c) ∨ endsInBrace c = .ok (false, c) := by
  unfold endsInBrace
  rw [run_bind, run_get, andThen_ok]
  generalize c.written = ws
  split
  · exact .inl (run_pure _ _)
  · exact .inr (run_pure _ _)

theorem localBinding_reads {s s' s'' : Span} {pattern value rest : List Tree} {shape : PatternShape}
    {shape' : ExprShape}
    (hpattern : Reads g.pattern pattern
      (.punct '=' false s' :: (value ++ .punct ';' false s'' :: rest)) shape)
    (hvalue : Reads (g.expr true) value (.punct ';' false s'' :: rest) shape') :
    Reads (localBinding g)
      (.ident ⟨"let", false, s⟩ ::
        (pattern ++ .punct '=' false s' :: (value ++ [.punct ';' false s'']))) rest () := by
  intro w l
  have hp := hpattern (.ident ⟨"let", false, s⟩ :: w) l
  have hv := hvalue (.punct '=' false s' :: (pattern.reverse ++ .ident ⟨"let", false, s⟩ :: w)) l
  simp at hp hv ⊢
  -- Either way no `else` follows.
  rcases endsInBrace_still ⟨.punct ';' false s'' :: rest, value.reverse ++ .punct '=' false s' ::
    (pattern.reverse ++ .ident ⟨"let", false, s⟩ :: w), l⟩ with hb | hb
  · simp [↓localBinding, hp, hv, hb]
  · simp [↓localBinding, hp, hv, hb]

theorem statement_reads_let {s : Span} {ts rest : List Tree}
    (h : Reads (localBinding g) (.ident ⟨"let", false, s⟩ :: ts) rest ()) :
    Reads (statement g) (.ident ⟨"let", false, s⟩ :: ts) rest true := by
  refine Reads.keeping (a := ⟨true, false⟩) fun w l => ?_
  have hstart : PlainStart (.ident ⟨"let", false, s⟩ :: (ts ++ rest)) := by
    constructor <;> simp 
  have hlead := leadingAttributes_of_plainStart g hstart w l
  have hcall := peekCall_keyword (i := ⟨"let", false, s⟩) rfl (by simp ) (ts ++ rest) w l
  have h := h w l
  simp at h ⊢
  simp [↓keptStatement, hlead, hcall, h]

/-- One round of `statementsRule`. -/
def nextStatement (g : Rules) : Rule Bool := do
  loop (eatOp? ";")
  if ← atEnd then return false
  let ended ← statement g
  if ← atEnd then return false
  unless ended do complain "unexpected token, expected `;`"
  return true

theorem loop_semicolons_reads_nil {rest : List Tree} (h : startsOperator [';'] rest = false) :
    Reads (loop (eatOp? ";")) [] rest () := by
  refine loop_reads (loops_loopRound_done fun w l => ?_)
  simp [h]

theorem loops_nextStatement_last {t : Tree} {ts : List Tree} {ended : Bool}
    (h : Reads (statement g) (t :: ts) [] ended) (hsemi : startsOperator [';'] (t :: ts) = false) :
    Loops (loopRound (nextStatement g)) () (t :: ts) [] () := by
  refine loops_loopRound_done fun w l => ?_
  have hloop := loop_semicolons_reads_nil hsemi w l
  have h := h w l
  simp at hloop h ⊢
  simp [↓nextStatement, hloop, h]

theorem loops_nextStatement_more {t u : Tree} {ts us : List Tree}
    (h : Reads (statement g) (t :: ts) (u :: us) true)
    (hsemi : startsOperator [';'] (t :: (ts ++ u :: us)) = false)
    (hus : Loops (loopRound (nextStatement g)) () (u :: us) [] ()) :
    Loops (loopRound (nextStatement g)) () (t :: ts ++ u :: us) [] () := by
  refine loops_loopRound_again (fun w l => ?_) hus
  have hloop := loop_semicolons_reads_nil hsemi w l
  have h := h w l
  simp at hloop h ⊢
  simp [↓nextStatement, hloop, h]

theorem statements_reads {ts : List Tree} (h : Loops (loopRound (nextStatement g)) () ts [] ()) :
    Reads (statementsRule g) ts [] () :=
  loop_reads h

/-! ## Arms -/

theorem arm_reads_comma {s s' s'' : Span} {pattern value rest : List Tree} {shape : PatternShape}
    {shape' : ExprShape}
    (hhash : startsOperator ['#'] (pattern ++ .punct '=' true s :: .punct '>' false s' ::
      (value ++ .punct ',' false s'' :: rest)) = false)
    (hpattern : Reads (alternatives g) pattern
      (.punct '=' true s :: .punct '>' false s' :: (value ++ .punct ',' false s'' :: rest)) shape)
    (hvalue : Reads g.bounded value (.punct ',' false s'' :: rest) shape')
    (hshape : shape' ≠ .block) :
    Reads (arm g)
      (pattern ++ .punct '=' true s :: .punct '>' false s' :: (value ++ [.punct ',' false s'']))
      rest () := by
  intro w l
  have hattr := outerAttributes_reads_nil g hhash w l
  have hp := hpattern w l
  have hv := hvalue (.punct '>' false s' :: .punct '=' true s :: (pattern.reverse ++ w)) l
  simp at hattr hp hv ⊢
  cases rest <;> simp [↓arm, hattr, hp, hv, hshape]

theorem arm_reads_block {s s' : Span} {pattern value : List Tree} {shape : PatternShape}
    (hhash : startsOperator ['#'] (pattern ++ .punct '=' true s :: .punct '>' false s' :: value) =
      false)
    (hpattern : Reads (alternatives g) pattern (.punct '=' true s :: .punct '>' false s' :: value)
      shape)
    (hvalue : Reads g.bounded value [] .block) :
    Reads (arm g) (pattern ++ .punct '=' true s :: .punct '>' false s' :: value) [] () := by
  intro w l
  have hattr := outerAttributes_reads_nil g hhash w l
  have hp := hpattern w l
  have hv := hvalue (.punct '>' false s' :: .punct '=' true s :: (pattern.reverse ++ w)) l
  simp at hattr hp hv ⊢
  simp [↓arm, hattr, hp, hv]

theorem match_reads {s s' : Span} {value content rest : List Tree} {shape : ExprShape}
    {arms : List Unit}
    (hvalue : Reads (g.expr false) value (.group .brace content s' :: rest) shape)
    (hhash : startsOperator ['#'] content = false)
    (harms : Reads (untilEnd (arm g)) content [] arms) :
    Reads (matchOperand g) (.ident ⟨"match", false, s⟩ :: (value ++ [.group .brace content s'])) rest
      () := by
  intro w l
  have hv := hvalue (.ident ⟨"match", false, s⟩ :: w) l
  have hbody : Reads (do
      let _ ← innerAttributes g
      let _ ← untilEnd (arm g)) content [] () := by
    intro w l
    have hattr := innerAttributes_reads_nil g hhash w l
    have ha := harms w l
    simp at hattr ha ⊢
    simp [hattr, ha]
  have hb := hbody.within .brace s' rest (value.reverse ++ .ident ⟨"match", false, s⟩ :: w) l
  simp at hv hb ⊢
  simp [↓matchOperand, hv, hb]

/-! ## Blocks as expressions -/

theorem bounded_reads_braced {content : List Tree} (h : Reads g.statements content [] ())
    (hhash : startsOperator ['#'] content = false) (s : Span) :
    Reads (boundedRule g) [.group .brace content s] [] .block := by
  refine bounded_reads_block ?_ (fun w l => ?_) (bracedBlock_reads h hhash s []) ?_ ?_
  · constructor <;> simp
  · simp [↓blockLike, ↓peekBinder]
  · simp
  · simp

theorem plainStart_match (s : Span) (ts : List Tree) :
    PlainStart (.ident ⟨"match", false, s⟩ :: ts) := by
  constructor <;> simp

theorem bounded_reads_match {s : Span} {ts : List Tree}
    (h : Reads (matchOperand g) (.ident ⟨"match", false, s⟩ :: ts) [] ()) :
    Reads (boundedRule g) (.ident ⟨"match", false, s⟩ :: ts) [] .block := by
  refine bounded_reads_block ?_ (fun w l => ?_) h ?_ ?_
  · simpa using plainStart_match s ts
  · simp [↓blockLike, ↓peekBinder]
  · simp
  · simp

theorem statement_reads_match {s : Span} {ts : List Tree}
    (h : Reads g.bounded (.ident ⟨"match", false, s⟩ :: ts) [] .block) :
    Reads (statement g) (.ident ⟨"match", false, s⟩ :: ts) [] true := by
  have hcall := peekCall_keyword (i := ⟨"match", false, s⟩) rfl (by simp) ts
  refine statement_reads_expr ?_ ?_ ?_ (fun w l => ?_) h ?_
  · simpa using plainStart_match s ts
  · simpa using hcall
  · simp
  · simp [↓peekItem]
  · simp

end FetchKit.Grammar
