import FetchKit.Proofs.Grammar.Setting.Opening

/-!
# Types are set anew

The rules for attributes, bounds and types write what they read, set anew.
-/

namespace FetchKit.Grammar

open FetchKit.Source Rule

/-- Two pairs of parentheses stand around a bound with `?`, or one pair that is read. -/
def Relaxed (c c' : Cursor) : Prop :=
  ∃ content s out, c.rest = .group .paren content s :: c'.rest ∧
    c'.written = .group .paren out s :: c.written ∧ startsOperator ['?'] content = true ∧
    ∀ place, Reset place [] content out

class Rules.Resets (g : Rules) : Prop where
  matching : g.Matches
  opening : g.Opens
  type : ∀ place base plus, Rule.Resets place base (g.type plus)
  angle : ∀ place base, Rule.Resets place base g.angle
  binder : ∀ place base, Rule.Resets place base g.binder
  pattern : ∀ base, Rule.Resets .code base g.pattern
  expr : ∀ base allowStruct, Rule.Resets .code base (g.expr allowStruct)
  bounded : ∀ base, Rule.Resets .code base g.bounded
  unary : ∀ base allowStruct, Rule.Resets .code base (g.unary allowStruct)
  operators : ∀ base first allowStruct p, Rule.Resets .code base (g.operators first allowStruct p)
  statements : ∀ base, Rule.Resets .code base g.statements
  item : ∀ base attributes, Rule.Resets .code base (g.item attributes)
  imports : ∀ base allowRoot, Rule.Resets .code base (g.imports allowRoot)
  fields : ∀ base, Rule.Resets .code base g.fields
  relaxed : ∀ {plus c c'}, g.type plus c = .ok (.relaxed, c') → c'.leftover = none → Relaxed c c'
  verbatim : ∀ {c c'}, g.pattern c = .ok (.verbatim, c') → startsWord "box" c.rest = true

attribute [instance] Rules.Resets.matching Rules.Resets.opening Rules.Resets.type Rules.Resets.angle
  Rules.Resets.binder Rules.Resets.pattern Rules.Resets.expr Rules.Resets.bounded Rules.Resets.unary
  Rules.Resets.operators Rules.Resets.statements Rules.Resets.item Rules.Resets.imports
  Rules.Resets.fields

section Types

variable {place : Place} {base : Cursor} (g : Rules) [g.Forward] [g.Resets]

/-! ## Attributes and blocks -/

instance plainPath_resets : Rule.Resets place base plainPath := by
  unfold plainPath; infer_instance

set_option synthInstance.maxSize 2000 in
instance valueAfter_resets (p : Path) : Rule.Resets .code base (valueAfter g p) := by
  unfold valueAfter; infer_instance

instance afterPath_resets (p : Path) : Rule.Resets .code base (afterPath g p) := by
  unfold afterPath
  refine @bind_resets _ _ _ _ _ _ _ fun ts => ?_
  split <;> infer_instance

instance attributeContent_resets : Rule.Resets .code base (attributeContent g) := by
  unfold attributeContent; infer_instance

omit [g.Forward] in
theorem outerAttribute_marks {c c' : Cursor} {a : Attribute} (h : outerAttribute g c = .ok (a, c'))
    (hl : c'.leftover = none) : ∃ joint s content s' out ts w,
      c = ⟨.punct '#' joint s :: .group .bracket content s' :: ts, w, none⟩ ∧
      c' = ⟨ts, .group .bracket out s' :: .punct '#' false s :: w, none⟩ ∧
      Reset .code [] content out := by
  obtain ⟨u, c₁, hhash, hcontent⟩ := bind_eq_ok.1 h
  obtain ⟨joint, s, ts, hc, rfl⟩ := (eatOp_one (d := '#') (by decide) (by decide)).1 hhash
  obtain ⟨content, s', ts', out, w, hc₁, rfl, -, hreset⟩ := within_anew .code hcontent hl
  obtain ⟨rest, w', l⟩ := c
  cases hc₁
  obtain rfl : rest = _ := hc
  exact ⟨joint, s, content, s', out, ts', w', rfl, rfl, hreset⟩

instance outerAttribute_resets : Rule.Resets place base (outerAttribute g) := by
  refine .of_here fun h hl => ?_
  obtain ⟨joint, s, content, s', out, ts, w, rfl, rfl, hreset⟩ := outerAttribute_marks g h hl
  exact ⟨rfl, [_, _], [_, _], rfl, rfl, .attribute joint s s' hreset⟩

instance outerAttributes_resets : Rule.Resets place base (outerAttributes g) := by
  unfold outerAttributes; infer_instance
instance innerAttributes_resets : Rule.Resets .code base (innerAttributes g) := by
  unfold innerAttributes; infer_instance

theorem iterateFor_marks {n : Nat} {found out : List Attribute} {ts rest w w' : List Tree}
    (h : iterateFor n found (attributeRound g) ⟨ts, w, none⟩ = .ok (out, ⟨rest, w', none⟩)) :
    ∃ read set, ts = read ++ rest ∧ w' = set.reverse ++ w ∧ Marks read set := by
  induction n generalizing found ts w with
  | zero =>
    cases h
    exact ⟨[], [], rfl, rfl, .nil⟩
  | succ n ih =>
    obtain ⟨step, zs, rest₁, w₁, rfl, hstep, hmore⟩ := iterateFor_taken h
    replace hstep := peek_taken hstep
    rw [run_ite] at hstep
    split at hstep
    · obtain ⟨a, c₁, ha, hpure⟩ := bind_eq_ok.1 hstep
      cases hpure
      obtain ⟨joint, s, content, s', set, ts', w₂, hc, hc', hreset⟩ := outerAttribute_marks g ha rfl
      cases hc'
      obtain ⟨hdone, -, -⟩ | ⟨found', hagain, hmore⟩ := hmore
      · cases hdone
      obtain ⟨read, set', rfl, rfl, hmarks⟩ := ih hmore
      obtain ⟨hzs, rfl, -⟩ := Cursor.mk.inj hc
      exact ⟨_, _, hzs, by simp, .more joint s s' hreset hmarks⟩
    · simp only [run_pure, Except.ok.injEq, Prod.mk.injEq, Cursor.mk.injEq] at hstep
      obtain ⟨rfl, hstay, rfl, -⟩ := hstep
      obtain ⟨-, rfl, rfl⟩ | ⟨found', hagain, -⟩ := hmore
      · exact ⟨[], [], hstay, rfl, .nil⟩
      · cases hagain

theorem outerAttributes_taken {next piece text : List Tree}
    (h : Writes (outerAttributes g) next piece text) : Marks piece text := by
  obtain ⟨as, h⟩ := h
  rw [outerAttributes_eq] at h
  obtain ⟨found, zs, rest₁, w₁, hts, hfound, hpure⟩ := bind_taken h
  cases hpure
  obtain ⟨read, set, hread, hset, hmarks⟩ := iterateFor_marks g hfound
  obtain rfl : piece = read := List.append_cancel_right (hts.trans hread)
  obtain rfl : text = set := by simpa using hset
  exact hmarks

theorem braced_resets {body : Rule Unit} [∀ base, Rule.Resets .code base body] :
    Rule.Resets place base (within .brace body) := by
  refine .of_here fun h hl => ?_
  obtain ⟨content, s, ts, out, w, rfl, rfl, -, hreset⟩ := within_anew .code h hl
  exact ⟨rfl, [_], [_], rfl, rfl, .block s hreset⟩

instance plainBlock_resets : Rule.Resets place base (plainBlock g) := braced_resets
instance bracedBlock_resets : Rule.Resets place base (bracedBlock g) := braced_resets

/-! ## Paths and bounds -/

instance constArgument_resets : Rule.Resets place base (constArgument g) := by
  unfold constArgument; infer_instance
instance binder?_resets : Rule.Resets place base (binder? g) := by
  unfold binder?; infer_instance
instance returnType_resets (plus : Bool) : Rule.Resets place base (returnType g plus) := by
  unfold returnType; infer_instance
set_option synthInstance.maxSize 2000 in
instance segment_resets (inExpr : Bool) : Rule.Resets place base (segment g inExpr) := by
  unfold segment; infer_instance
instance moreSegments_resets (inExpr : Bool) (segments : List Segment) :
    Rule.Resets place base (moreSegments g inExpr segments) := by
  unfold moreSegments; infer_instance
instance path_resets (inExpr : Bool) : Rule.Resets place base (path g inExpr) := by
  unfold path; infer_instance
set_option synthInstance.maxSize 20000 in
instance anyPath_resets (inExpr : Bool) : Rule.Resets place base (anyPath g inExpr) := by
  unfold anyPath; infer_instance

theorem dropOp_apart {c c' : Cursor} {u : Unit} (hcolons : startsOperator [':', ':'] c.rest = true)
    (hparen : startsGroup .paren (skip 2 c.rest) = true) (h : dropOp "::" c = .ok (u, c')) :
    Anew place c c' := by
  obtain ⟨ts, w, l⟩ := c
  obtain ⟨s, joint, s', rest, rfl⟩ := starts_colons hcolons
  cases h
  exact fun hl => ⟨hl, [.punct ':' true s, .punct ':' joint s'], [], rfl, rfl, .apart s joint s' hparen⟩

instance parenArguments?_resets (p : Path) : Rule.Resets place base (parenArguments? g p) := by
  refine .of_here fun {c a c'} h => ?_
  unfold parenArguments? at h
  simp only [run_bind, run_peek, run_peek3, andThen_ok] at h
  have harguments : Rule.Resets place c (do
      let _ ← within .paren (terminated (g.type true))
      returnType g false) := inferInstance
  rw [run_ite] at h
  split at h
  · split at h
    · next hapart =>
      obtain ⟨u, c₁, hdrop, h⟩ := bind_eq_ok.1 h
      obtain ⟨hcolons, hparen⟩ := Bool.and_eq_true_iff.1 hapart
      exact harguments.step (dropOp_apart hcolons hparen hdrop) h
    · exact harguments.step (.refl c) h
  · cases h
    exact .refl c

/-! ## Between angle brackets -/

/-- An argument with the comma after it, as it is given. -/
def IsArgument (place : Place) (next piece : List Tree) (a : Listed) : Prop :=
  Reset place next piece a.text ∧ Matched piece ∧ a.first = isLifetime piece

theorem angled_resets {body : List Listed → Rule (Progress (List Listed))}
    [∀ found base, Rule.Forward base (body found)]
    (hbody : ListingRound Listed.comma (IsArgument place) body) : Rule.Resets place base (do
      eatOp "<"
      let found ← iterate [] body
      write (arrange found.reverse)
      eatOp ">") := by
  refine .of_taken fun {ts rest w w' a} h => ?_
  obtain ⟨u, c₁, hopen, h₁⟩ := bind_eq_ok.1 h
  obtain ⟨joint, s, ts₁, hts, rfl⟩ := (eatOp_one (d := '<') (by decide) (by decide)).1 hopen
  obtain ⟨found, zs, rest₁, w₁, hzs, hfound, hmore⟩ := bind_taken h₁
  obtain ⟨rfl, front, items, hfront, rfl, hitems⟩ := iterateFor_listing hbody hfound
  rw [run_bind, run_write, andThen_ok] at hmore
  obtain ⟨joint', s', ts₂, hts₂, hc⟩ := (eatOp_one (d := '>') (by decide) (by decide)).1 hmore
  cases hc
  obtain rfl : rest₁ = .punct '>' joint' s' :: rest := hts₂
  obtain ⟨pieces, hreset, hmatched, hpieces, hout⟩ := hitems.arranged (f := id) (fun _ => rfl) id
  rw [List.map_id] at hout
  refine ⟨.punct '<' joint s :: front ++ [.punct '>' joint' s'],
    .punct '<' false s :: arrange items ++ [.punct '>' false s'], ?_, ?_,
    .arguments hreset hmatched hpieces hout⟩
  · dsimp only at hts
    rw [hts, hzs, hfront]
    simp
  · simp

/-- One round of `preciseCapture`. -/
def captureRound (found : List Listed) : Rule (Progress (List Listed)) := do
  if ← peek (op ">") then return .done found
  let first ← peek lifetime
  let text ← held do
    if first then eatLifetime
    else if (← peek name) || (← peek (kw "Self")) then
      let _ ← eatAnyIdent
    else unmet [lifetime, name, op ">"]
  if ← peek (op ",") then return .again (⟨first, text, ← held (eatOp ",")⟩ :: found)
  else if ← peek (op ">") then return .done (⟨first, text, []⟩ :: found)
  else unmet [op ",", op ">"]

set_option synthInstance.maxSize 2000 in
instance captureRound_forward (base : Cursor) (found : List Listed) :
    Rule.Forward base (captureRound found) := by
  unfold captureRound; infer_instance

theorem captured_first {first : Bool} {next piece text : List Tree} (h : Writes (do
      if first then eatLifetime
      else if (← peek name) || (← peek (kw "Self")) then
        let _ ← eatAnyIdent
      else unmet [lifetime, name, op ">"]) next piece text) : first = isLifetime piece := by
  cases first with
  | true =>
    obtain ⟨s, i, rfl, rfl⟩ := writes_eatLifetime h
    rfl
  | false =>
    obtain ⟨u, h⟩ := h
    rw [if_neg Bool.false_ne_true] at h
    replace h := peek_taken h
    replace h := peek_taken h
    rw [run_ite] at h
    split at h
    · obtain ⟨i, c₁, hi, hpure⟩ := bind_eq_ok.1 h
      cases hpure
      obtain ⟨i, rfl, -⟩ := writes_eatAnyIdent ⟨_, hi⟩
      rfl
    · cases h

theorem captureRound_listing : ListingRound Listed.comma (IsArgument place) captureRound := by
  intro found step ts rest w w' h
  unfold captureRound at h
  replace h := peek_taken h
  rw [run_ite] at h
  split at h
  · cases h
    exact ⟨rfl, .inl ⟨rfl, rfl⟩⟩
  replace h := peek_taken h
  obtain ⟨text, piece, rest₁, rfl, htext, hmore⟩ := held_taken h
  have harg (comma : List Tree) : IsArgument place rest₁ piece ⟨_, text, comma⟩ :=
    ⟨htext.reset, htext.matched, captured_first htext⟩
  replace hmore := peek_taken hmore
  rw [run_ite] at hmore
  split at hmore
  · obtain ⟨comma, cs, rest₂, rfl, hcomma, hpure⟩ := held_taken hmore
    obtain ⟨joint, s, rfl, rfl⟩ := writes_eatOp (d := ',') (by decide) (by decide) hcomma
    cases hpure
    exact ⟨rfl, .inr (.inr ⟨piece, _, joint, s, rfl, rfl, harg _, rfl⟩)⟩
  replace hmore := peek_taken hmore
  rw [run_ite] at hmore
  split at hmore
  · cases hmore
    exact ⟨rfl, .inr (.inl ⟨piece, _, rfl, rfl, harg _, rfl⟩)⟩
  · cases hmore

set_option synthInstance.maxSize 2000 in
instance preciseCapture_resets : Rule.Resets place base preciseCapture :=
  @bind_resets _ _ _ _ _ _ _ fun _ => angled_resets captureRound_listing

set_option synthInstance.maxSize 2000 in
instance traitBound_resets (allowConst : Bool) : Rule.Resets place base (traitBound g allowConst) := by
  unfold traitBound; infer_instance
set_option synthInstance.maxSize 2000 in
instance bound_resets (allowCapture allowConst : Bool) :
    Rule.Resets place base (bound g allowCapture allowConst) := by
  unfold bound; infer_instance
instance boundsUntil_resets (bound : Rule BoundKind) (stop : Rule Bool)
    [Rule.Resets place base bound] [Rule.Resets place base stop] :
    Rule.Resets place base (boundsUntil bound stop) := by
  unfold boundsUntil; infer_instance

instance genericArgument_resets : Rule.Resets place base (genericArgument g) := by
  unfold genericArgument
  repeat' first
    | infer_instance
    | split
    | refine @bind_resets _ _ _ _ _ _ inferInstance fun _ => ?_

omit [g.Forward] [g.Resets] in
theorem genericArgument_lifetime {c c' : Cursor} (h : genericArgument g c = .ok (true, c')) :
    ∃ s i, c.rest = .punct '\'' true s :: .ident i :: c'.rest := by
  unfold genericArgument at h
  rw [run_bind, run_peek, andThen_ok, run_bind, run_peek2, andThen_ok, run_ite] at h
  split at h
  · obtain ⟨u, c₁, hlifetime, hpure⟩ := bind_eq_ok.1 h
    cases hpure
    obtain ⟨s, i, ts, hc, rfl⟩ := eatLifetime_eq_ok hlifetime
    exact ⟨s, i, hc⟩
  · suffices hgives : Gives (· = false) _ c by cases hgives _ _ h
    with_reducible repeat' first
      | exact gives_pure rfl
      | refine gives_ite (fun _ => ?_) fun _ => ?_
      | refine gives_bind fun _ _ _ => ?_
      | split

omit [g.Forward] [g.Resets] in
theorem genericArgument_first {first : Bool} {piece next w : List Tree} {c' : Cursor}
    (h : genericArgument g ⟨piece ++ next, w, none⟩ = .ok (first, c')) (hrest : c'.rest = next)
    (hnext : startsOperator ['+'] next = false) : first = isLifetime piece := by
  cases first with
  | true =>
    obtain ⟨s, i, hpiece⟩ := genericArgument_lifetime g h
    rw [hrest] at hpiece
    obtain rfl : piece = [.punct '\'' true s, .ident i] := List.append_cancel_right hpiece
    rfl
  | false =>
    symm
    rw [← Bool.not_eq_true]
    intro hlifetime
    unfold isLifetime at hlifetime
    split at hlifetime
    · next s i =>
      unfold genericArgument at h
      rw [run_bind, run_peek, andThen_ok, run_bind, run_peek2, andThen_ok, run_ite] at h
      have hplus : (op "+").test (skip 1 ([.punct '\'' true s, .ident i] ++ next)) = false := hnext
      have hstarts : lifetime.test ([.punct '\'' true s, .ident i] ++ next) = true := rfl
      rw [hplus, hstarts] at h
      obtain ⟨u, c₁, -, hpure⟩ := bind_eq_ok.1 h
      cases hpure
    · cases hlifetime

theorem angleArguments_listing :
    ListingRound Listed.comma (IsArgument place) (angleArguments g) := by
  intro found step ts rest w w' h
  unfold angleArguments at h
  replace h := peek_taken h
  rw [run_ite] at h
  split at h
  · cases h
    exact ⟨rfl, .inl ⟨rfl, rfl⟩⟩
  obtain ⟨⟨first, text⟩, piece, rest₁, w₁, rfl, hfirst, hmore⟩ := bind_taken h
  obtain ⟨rfl, hrun⟩ := withhold_eq_ok.1 hfirst
  have harg (hnext : startsOperator ['+'] rest₁ = false) (comma : List Tree) :
      IsArgument place rest₁ piece ⟨first, text, comma⟩ :=
    ⟨Writes.reset ⟨first, hrun⟩, Matches.read hrun, genericArgument_first g hrun rfl hnext⟩
  replace hmore := peek_taken hmore
  rw [run_ite] at hmore
  split at hmore
  · next hclose =>
    obtain ⟨joint, s, ts, hts⟩ := startsOperator_one hclose
    cases hmore
    obtain rfl : rest = _ := hts
    exact ⟨rfl, .inr (.inl ⟨piece, _, rfl, rfl, harg rfl _, rfl⟩)⟩
  obtain ⟨⟨u, comma⟩, cs, rest₂, w₂, rfl, hcomma, hpure⟩ := bind_taken hmore
  obtain ⟨rfl, hcomma'⟩ := withhold_eq_ok.1 hcomma
  obtain ⟨joint, s, rfl, rfl⟩ := writes_eatOp (d := ',') (by decide) (by decide) ⟨u, hcomma'⟩
  cases hpure
  exact ⟨rfl, .inr (.inr ⟨piece, _, joint, s, rfl, rfl, harg rfl _, rfl⟩)⟩

instance angleRule_resets : Rule.Resets place base (angleRule g) := by
  rw [angleRule_eq]
  exact angled_resets (angleArguments_listing g)

/-! ## Types -/

instance callAfterPath_resets : Rule.Resets place base callAfterPath := by
  unfold callAfterPath; infer_instance
instance boundList_resets (plus allowCapture allowConst : Bool) :
    Rule.Resets place base (boundList g plus allowCapture allowConst) := by
  unfold boundList; infer_instance
instance objectBounds_resets (plus : Bool) : Rule.Resets place base (objectBounds g plus) := by
  unfold objectBounds; infer_instance
instance implBounds_resets (plus : Bool) : Rule.Resets place base (implBounds g plus) := by
  unfold implBounds; infer_instance
instance moreBounds_resets : Rule.Resets place base (moreBounds g) := by
  unfold moreBounds; infer_instance
instance boundsAfterPath_resets : Rule.Resets place base (boundsAfterPath g) := by
  unfold boundsAfterPath; infer_instance
set_option synthInstance.maxSize 2000 in
instance bareArgument_resets (first : Bool) : Rule.Resets place base (bareArgument g first) := by
  unfold bareArgument; infer_instance
instance abi_resets : Rule.Resets place base abi := by
  unfold abi; infer_instance
instance abi?_resets : Rule.Resets place base abi? := by
  unfold abi?; infer_instance

set_option synthInstance.maxSize 5000 in
instance bareFunction_resets : Rule.Resets place base (bareFunction g) := by
  unfold bareFunction
  refine @bind_resets _ _ _ _ _ _ inferInstance fun _ => ?_
  refine @bind_resets _ _ _ _ _ _ inferInstance fun _ => ?_
  refine @bind_resets _ _ _ _ _ _ inferInstance fun _ => ?_
  exact enter_resets (fun _ _ => inferInstance) fun _ _ => inferInstance

instance moreElements_resets : Rule.Resets place base (moreElements g) := by
  unfold moreElements; infer_instance

instance typeAfterPath_resets (plus binder : Bool) :
    Rule.Resets place base (typeAfterPath g plus binder) := by
  unfold typeAfterPath
  refine @bind_pair_resets _ _ _ _ _ _ _ inferInstance fun qualified p => ?_
  cases qualified <;> infer_instance

set_option synthInstance.maxSize 2000 in
instance pointer_resets : Rule.Resets place base (pointer g) := by
  unfold pointer; infer_instance
instance reference_resets : Rule.Resets place base (reference g) := by
  unfold reference; infer_instance

instance arrayOrSlice_resets : Rule.Resets place base (arrayOrSlice g) := by
  refine .of_taken fun h => ?_
  obtain ⟨content, s, written, rfl, -, hbody, rfl⟩ := (within_eq_ok inferInstance).1 h
  obtain ⟨shape, element, rest₁, w₁, rfl, htype, hmore⟩ := bind_taken hbody
  obtain ⟨-, read, out, hread, rfl, hreset⟩ := Rule.Resets.here place htype rfl
  obtain rfl : element = read := List.append_cancel_right hread
  replace hmore := peek_taken hmore
  rw [run_ite] at hmore
  split at hmore
  · obtain ⟨u, c₁, hsemi, hmore⟩ := bind_eq_ok.1 hmore
    obtain ⟨joint, s', ts, hts, rfl⟩ := (eatOp_one (d := ';') (by decide) (by decide)).1 hsemi
    obtain ⟨shape', c₂, hlength, hpure⟩ := bind_eq_ok.1 hmore
    cases hpure
    obtain ⟨-, length, out', hlength', hout', hreset'⟩ := Rule.Resets.here .code hlength rfl
    obtain rfl : rest₁ = .punct ';' joint s' :: ts := hts
    obtain rfl : ts = length := by simpa using hlength'
    obtain rfl : written = out'.reverse ++ .punct ';' false s' :: (out.reverse ++ []) := hout'
    exact ⟨[_], [_], rfl, by simp, .array joint s' s hreset hreset'⟩
  · cases hmore
    rw [List.append_nil]
    exact ⟨[_], [.group .bracket out s], rfl, by simp, .group .bracket s hreset⟩

instance builtin_resets : Rule.Resets place base builtin := by
  unfold builtin; infer_instance
instance peekBuiltin_resets : Rule.Resets place base peekBuiltin := peekBuiltin_still.resets

/-! ## Types in parentheses -/

/-- What stands between the parentheses of a type. -/
def parenContent (g : Rules) : Rule Parenthesized := do
  if ← atEnd then return .tuple
  if ← peek lifetime then
    objectBounds g true
    return .object
  if ← peek (op "?") then
    let _ ← traitBound g false
    return .relaxed
  let s ← g.type true
  if ← peek (op ",") then
    moreElements g
    return .tuple
  return .type s

set_option synthInstance.maxSize 2000 in
instance parenContent_forward : Rule.Forward base (parenContent g) := by
  unfold parenContent; infer_instance
set_option synthInstance.maxSize 2000 in
instance parenContent_resets : Rule.Resets place base (parenContent g) := by
  unfold parenContent; infer_instance

omit [g.Forward] [g.Resets] in
theorem parenContent_relaxed {c c' : Cursor} (h : parenContent g c = .ok (.relaxed, c')) :
    startsOperator ['?'] c.rest = true := by
  unfold parenContent at h
  simp only [run_bind, run_atEnd, run_peek, andThen_ok, run_ite] at h
  split at h
  · cases h
  split at h
  · obtain ⟨u, c₁, -, hpure⟩ := andThen_eq_ok.1 h
    cases hpure
  split at h
  · assumption
  obtain ⟨s, c₁, -, h⟩ := andThen_eq_ok.1 h
  simp only [run_bind, run_peek, andThen_ok, run_ite] at h
  split at h
  · obtain ⟨u, c₂, -, hpure⟩ := andThen_eq_ok.1 h
    cases hpure
  · cases h

omit [g.Forward] [g.Resets] in
theorem parenContent_type {c c' : Cursor} {shape : TypeShape}
    (h : parenContent g c = .ok (.type shape, c')) : g.type true c = .ok (shape, c') := by
  unfold parenContent at h
  simp only [run_bind, run_atEnd, run_peek, andThen_ok, run_ite] at h
  split at h
  · cases h
  split at h
  · obtain ⟨u, c₁, -, hpure⟩ := andThen_eq_ok.1 h
    cases hpure
  split at h
  · obtain ⟨u, c₁, -, hpure⟩ := andThen_eq_ok.1 h
    cases hpure
  obtain ⟨s, c₁, htype, h⟩ := andThen_eq_ok.1 h
  simp only [run_bind, run_peek, andThen_ok, run_ite] at h
  split at h
  · obtain ⟨u, c₂, -, hpure⟩ := andThen_eq_ok.1 h
    cases hpure
  · cases h
    exact htype

omit [g.Forward] [g.Resets] in
theorem moreBounds_lone {c c' : Cursor} (h : moreBounds g c = .ok (true, c')) : c' = c := by
  refine iterateFor_preserves (P := fun lone c' => lone = true → c' = c) ?_ (fun _ => rfl) h rfl
  intro lone c₁ p c₂ hlone hround
  obtain ⟨plus, c₃, hplus, hround⟩ := bind_eq_ok.1 hround
  rw [run_eatOp?] at hplus
  split at hplus
  · obtain ⟨u, c₄, -, hpure⟩ := andThen_eq_ok.1 hplus
    cases hpure
    obtain ⟨kind, c₅, -, hpure⟩ := bind_eq_ok.1 hround
    cases hpure
    exact fun h => absurd h Bool.false_ne_true
  · cases hplus
    cases hround
    exact hlone

omit [g.Forward] in
theorem parenType_relaxed {plus : Bool} {c c' : Cursor}
    (h : parenType g plus c = .ok (.relaxed, c')) (hl : c'.leftover = none) : Relaxed c c' := by
  obtain ⟨⟨content, missed⟩, c₁, henter, h₁⟩ := bind_eq_ok.1 h
  replace henter : enter .paren (parenContent g) c = .ok ((content, missed), c₁) := henter
  cases content with
  | relaxed =>
    dsimp only at h₁
    obtain ⟨lone, c₂, hmore, hleave⟩ := bind_eq_ok.1 h₁
    simp only [run_bind, run_pure, run_leave, andThen_ok, Except.ok.injEq, Prod.mk.injEq] at hleave
    obtain ⟨hlone, rfl⟩ := hleave
    cases lone with
    | false => cases hlone
    | true =>
      obtain rfl := moreBounds_lone g hmore
      obtain ⟨hl₁, rfl⟩ := Option.or_eq_none_iff.1 hl
      obtain ⟨content, s, ts, out, w, rfl, rfl, hbody, -⟩ := enter_anew .type henter hl₁
      refine ⟨content, s, out, rfl, rfl, parenContent_relaxed g hbody, fun place => ?_⟩
      obtain ⟨-, read, out', hread, hout, hreset⟩ := Rule.Resets.here place hbody rfl
      obtain rfl : content = read := by simpa using hread
      obtain rfl : out = out' := by simpa using hout
      exact hreset
  | _ =>
    suffices hgives : Gives (· ≠ TypeShape.relaxed) _ c₁ from absurd rfl (hgives _ _ h₁)
    simp only [pure_bind]
    with_reducible repeat' first
      | exact gives_pure (by simp)
      | refine gives_ite (fun _ => ?_) fun _ => ?_
      | refine gives_bind fun _ _ _ => ?_
      | split

instance parenType_resets (plus : Bool) : Rule.Resets place base (parenType g plus) := by
  have hbody (base : Cursor) : Rule.Resets place base (parenContent g) := inferInstance
  refine @enter_resets_of _ _ _ _ _ _ hbody _ ?_ ?_ ?_
  · rintro ⟨content, missed⟩ base
    cases content with
    | type shape =>
      cases shape with
      | bounds lone => cases lone <;> infer_instance
      | _ => infer_instance
    | _ => infer_instance
  · intro content missed
    cases content with
    | type shape =>
      cases shape with
      | bounds lone => cases lone <;> infer_instance
      | _ => infer_instance
    | _ => infer_instance
  · intro content s ts out w a b c' hreset hcontent h
    cases a with
    | type shape =>
      cases shape with
      | bounds lone => cases lone <;> exact Rule.Resets.step (.of_group s hreset) h
      | relaxed =>
        dsimp only at h
        replace h := peek_taken h
        rw [run_ite] at h
        split at h
        · next hplus =>
          obtain ⟨inner, s', out', rfl, hout, hmark, hinner⟩ :=
            Rules.Resets.relaxed (parenContent_type g hcontent) rfl
          obtain rfl : out = [.group .paren out' s'] := by simpa using hout
          obtain ⟨u, c₁, hunwrap, h⟩ := bind_eq_ok.1 h
          cases hunwrap
          refine Rule.Resets.step (fun _ => ⟨rfl, [_], [_], rfl, rfl, ?_⟩) h
          exact .parens s' s hmark (Bool.and_eq_true_iff.1 hplus).2 (hinner place)
        · exact Rule.Resets.step (.of_group s hreset) h
      | _ => exact Rule.Resets.step (.of_group s hreset) h
    | _ => exact Rule.Resets.step (.of_group s hreset) h

/-! ## Any type -/

theorem starts_group {d : Delimiter} {ts : List Tree} (h : startsGroup d ts = true) :
    ∃ content s us, ts = .group d content s :: us := by
  unfold startsGroup at h
  split at h
  · obtain rfl := eq_of_beq h
    exact ⟨_, _, _, rfl⟩
  · cases h

omit [g.Forward] [g.Resets] in
theorem typeAfterPath_gives {plus binder : Bool} {c : Cursor} :
    Gives (fun k : Kept TypeShape => k.phrase ≠ .relaxed)
      (do return ⟨← typeAfterPath g plus binder, false⟩) c := by
  suffices h : Gives (· ≠ TypeShape.relaxed) (typeAfterPath g plus binder) c from
    gives_bind fun _ _ hshape => gives_pure (h _ _ hshape)
  unfold typeAfterPath
  with_reducible repeat' first
    | exact gives_pure (by simp)
    | refine gives_ite (fun _ => ?_) fun _ => ?_
    | refine gives_bind fun _ _ _ => ?_
    | split

omit [g.Forward] [g.Resets] in
theorem binder?_none {c c' : Cursor} (h : binder? g c = .ok (false, c')) : c' = c := by
  replace h := peek_taken h
  rw [run_ite] at h
  split at h
  · obtain ⟨u, c₁, -, hpure⟩ := bind_eq_ok.1 h
    cases hpure
  · cases h
    rfl

omit [g.Forward] [g.Resets] in
theorem keptType_relaxed {plus kept : Bool} {c c' : Cursor}
    (h : keptType g plus c = .ok (⟨.relaxed, kept⟩, c')) :
    kept = false ∧ parenType g plus c = .ok (.relaxed, c') := by
  unfold keptType at h
  obtain ⟨binder, c₁, hbinder, h₁⟩ := bind_eq_ok.1 h
  cases binder with
  | false =>
    obtain rfl := binder?_none g hbinder
    rw [if_neg Bool.false_ne_true] at h₁
    obtain ⟨-, h₁⟩ | ⟨-, h₁⟩ := ite_taken (peek_taken h₁)
    · obtain ⟨shape, c₂, hshape, hpure⟩ := bind_eq_ok.1 h₁
      cases hpure
      exact ⟨rfl, hshape⟩
    · suffices hgives : Gives (fun k : Kept TypeShape => k.phrase ≠ .relaxed) _ c₁ from
        absurd rfl (hgives _ _ h₁)
      with_reducible repeat' first
        | exact gives_pure (by simp)
        | exact gives_unmet _
        | exact typeAfterPath_gives g
        | refine gives_ite (fun _ => ?_) fun _ => ?_
        | refine gives_bind fun _ _ _ => ?_
  | true =>
    -- After parameters no parenthesis may follow.
    rw [if_pos rfl] at h₁
    rw [run_bind, run_peekAny, andThen_ok] at h₁
    obtain ⟨-, h₁⟩ | ⟨hstarts, h₁⟩ := ite_taken (peek_taken h₁)
    · obtain ⟨u, c₂, hunmet, -⟩ := bind_eq_ok.1 h₁
      cases hunmet
    obtain ⟨hparen, -⟩ | ⟨-, h₁⟩ := ite_taken (peek_taken h₁)
    · obtain ⟨content, s, ts, hts⟩ := starts_group hparen
      refine absurd ?_ hstarts
      rw [hts]
      rfl
    · suffices hgives : Gives (fun k : Kept TypeShape => k.phrase ≠ .relaxed) _ c₁ from
        absurd rfl (hgives _ _ h₁)
      with_reducible repeat' first
        | exact gives_pure (by simp)
        | exact gives_unmet _
        | exact typeAfterPath_gives g
        | refine gives_ite (fun _ => ?_) fun _ => ?_
        | refine gives_bind fun _ _ _ => ?_

instance keptType_resets (plus : Bool) : Rule.Resets place base (keptType g plus) := by
  unfold keptType
  refine @bind_resets _ _ _ _ _ _ inferInstance fun binder => ?_
  repeat' first
    | refine @ite_resets _ _ _ _ _ _ _ ?_ ?_
    | refine @bind_resets _ _ _ _ _ _ inferInstance fun _ => ?_
    | infer_instance

instance typeRule_resets (plus : Bool) : Rule.Resets place base (typeRule g plus) := by
  unfold typeRule; infer_instance

omit [g.Forward] in
theorem typeRule_relaxed {plus : Bool} {c c' : Cursor}
    (h : typeRule g plus c = .ok (.relaxed, c')) (hl : c'.leftover = none) : Relaxed c c' := by
  obtain ⟨kept, inner, hinner, rfl⟩ := keeping_eq_ok h
  obtain ⟨rfl, hparen⟩ := keptType_relaxed g hinner
  obtain ⟨content, s, out, hread, hout, hmark, hreset⟩ := parenType_relaxed g hparen hl
  exact ⟨content, s, out, hread, by simp [hout], hmark, hreset⟩

end Types

end FetchKit.Grammar
