import FetchKit.Proofs.Grammar.Listing
import FetchKit.Proofs.Grammar.Following

/-!
# How paths are spelled

A path is spelled by its segments, with `::` between them and maybe in front. In a list of paths, the
rule for paths takes these spellings and no others, and what it gives depends on the segments only.
-/

namespace FetchKit.Grammar

open FetchKit.Source Rule

attribute [local simp] startsOperator_nil startsOperator_ident startsOperator_literal
  startsOperator_group startsOperator_last startsOperator_cons startsWord startsName startsAnyIdent
  startsLifetime startsGroup startsLiteral setOperator

/-! ## Generic arguments -/

/-- Generic arguments between angle brackets. -/
def IsAngled (ts : List Tree) : Prop :=
  ∃ rest w w', grammar.angle ⟨ts ++ rest, w, none⟩ = .ok ((), ⟨rest, w', none⟩)

theorem grammar_angle : grammar.angle = angleRule grammar := congrArg Rules.angle grammar_next.symm

theorem grammar_type : grammar.type = typeRule grammar := congrArg Rules.type grammar_next.symm

instance angleRule_blind (g : Rules) : Blind (angleRule g) := by
  unfold angleRule; infer_instance

theorem IsAngled.reads {ts : List Tree} (h : IsAngled ts) (rest w : List Tree) :
    ∃ w', grammar.angle ⟨ts ++ rest, w, none⟩ = .ok ((), ⟨rest, w', none⟩) := by
  obtain ⟨rest₀, w₀, w₁, h⟩ := h
  have hlocal : Rule.Local (fun _ e => e = rest) grammar.angle := inferInstance
  have hmoved := hlocal.taken rfl h
  rw [grammar_angle] at hmoved ⊢
  exact (angleRule_blind grammar).step hmoved w

theorem typeRule_eq_ok {g : Rules} {plus : Bool} {rest w : List Tree} {l : Option Delimiter}
    {shape : TypeShape} {c : Cursor} (h : typeRule g plus ⟨rest, w, l⟩ = .ok (shape, c)) :
    ∃ kept c', keptType g plus ⟨rest, [], l⟩ = .ok (kept, c') := by
  unfold typeRule keeping at h
  rw [run_self] at h
  split at h
  · cases h
  · next kept c' hkept => exact ⟨kept, c', hkept⟩

theorem not_type_equals (plus joint : Bool) (s : Span) (ts w : List Tree) (l : Option Delimiter)
    (shape : TypeShape) (c : Cursor) :
    grammar.type plus ⟨.punct '=' joint s :: ts, w, l⟩ ≠ .ok (shape, c) := by
  rw [grammar_type]
  intro h
  obtain ⟨kept, c', hkept⟩ := typeRule_eq_ok h
  simp [↓keptType, ↓binder?, ↓peekBuiltin] at hkept
  cases hkept

theorem not_type_angle_equals (plus joint joint' : Bool) (s s' : Span) (ts w : List Tree)
    (l : Option Delimiter) (shape : TypeShape) (c : Cursor) :
    grammar.type plus ⟨.punct '<' joint s :: .punct '=' joint' s' :: ts, w, l⟩ ≠ .ok (shape, c) := by
  rw [grammar_type]
  intro h
  obtain ⟨kept, c', hkept⟩ := typeRule_eq_ok h
  simp [↓keptType, ↓binder?, ↓peekBuiltin, ↓typeAfterPath, ↓anyPath] at hkept
  obtain ⟨p, c₁, hpath, -⟩ := andThen_eq_ok.1 hkept
  obtain ⟨shape', c₂, htype, -⟩ := andThen_eq_ok.1 hpath
  exact not_type_equals _ _ _ _ _ _ _ _ htype

theorem angleArguments_type {g : Rules} {d : Char} (hd : d = '=' ∨ d = '<') {joint : Bool} {s : Span}
    {ts w : List Tree} {l : Option Delimiter} {found : List Listed} {p : Progress (List Listed)}
    {c : Cursor} (h : angleArguments g found ⟨.punct d joint s :: ts, w, l⟩ = .ok (p, c)) :
    ∃ shape c', g.type true ⟨.punct d joint s :: ts, [], l⟩ = .ok (shape, c') := by
  have hopen : (op ">").test (.punct d joint s :: ts) = false := by obtain rfl | rfl := hd <;> rfl
  unfold angleArguments at h
  replace h := peek_taken h
  rw [hopen, run_ite, if_neg Bool.false_ne_true] at h
  obtain ⟨⟨first, text⟩, ⟨rest, out, l'⟩, hargument, -⟩ := bind_eq_ok.1 h
  obtain ⟨-, hargument⟩ := withhold_eq_ok.1 hargument
  obtain rfl | rfl := hd
  all_goals
    simp [↓genericArgument] at hargument
    obtain ⟨shape, c', htype, -⟩ := andThen_eq_ok.1 hargument
    exact ⟨shape, c', htype⟩

theorem angle_starts {c c' : Cursor} {u : Unit} (h : grammar.angle c = .ok (u, c')) :
    startsOperator ['<'] c.rest = true ∧ startsOperator ['<', '='] c.rest = false ∧
      startsOperator ['<', '<', '='] c.rest = false := by
  rw [grammar_angle, angleRule_eq] at h
  obtain ⟨u, c₁, hopen, h⟩ := bind_eq_ok.1 h
  obtain ⟨joint, s, ts, hrest, rfl⟩ := (eatOp_one (d := '<') (by decide) (by decide)).1 hopen
  obtain ⟨found, c₂, hfound, -⟩ := bind_eq_ok.1 h
  rw [run_iterate] at hfound
  obtain ⟨step, c₃, hstep, -⟩ := andThen_eq_ok.1 hfound
  rw [hrest]
  refine ⟨rfl, Bool.eq_false_iff.2 fun heq => ?_, Bool.eq_false_iff.2 fun heq => ?_⟩
  · match ts with
    | .punct d joint' s' :: ts =>
      obtain ⟨-, rfl, -⟩ : joint = true ∧ '=' = d ∧ ¬ d = '\'' := by simpa using heq
      obtain ⟨shape, c', htype⟩ := angleArguments_type (.inl rfl) hstep
      exact not_type_equals _ _ _ _ _ _ _ _ htype
    | [] | .ident _ :: _ | .literal _ _ :: _ | .group _ _ _ :: _ => simp at heq
  · match ts with
    | .punct d joint' s' :: .punct e joint'' s'' :: ts =>
      obtain ⟨-, ⟨rfl, -⟩, rfl, -⟩ :
          joint = true ∧ ('<' = d ∧ joint' = true) ∧ '=' = e ∧ ¬ e = '\'' := by simpa using heq
      obtain ⟨shape, c', htype⟩ := angleArguments_type (.inr rfl) hstep
      exact not_type_angle_equals _ _ _ _ _ _ _ _ _ _ htype
    | [] | [.punct _ _ _] | .ident _ :: _ | .literal _ _ :: _ | .group _ _ _ :: _
    | .punct _ _ _ :: .ident _ :: _ | .punct _ _ _ :: .literal _ _ :: _
    | .punct _ _ _ :: .group _ _ _ :: _ => simp at heq

/-! ## Segments -/

/-- `::` -/
def IsColons (ts : List Tree) : Prop := ∃ s joint s', ts = [.punct ':' true s, .punct ':' joint s']

/-- The arguments of a segment, maybe after `::`. -/
inductive IsArguments : List Tree → Prop
  | plain {args} (hargs : IsAngled args) : IsArguments args
  | apart {colons args} (hcolons : IsColons colons) (hargs : IsAngled args) :
    IsArguments (colons ++ args)

/-- A segment as it stands in the source. -/
structure SegmentText where
  ident : Ident
  arguments : List Tree := []

namespace SegmentText

def trees (s : SegmentText) : List Tree := .ident s.ident :: s.arguments

def value (s : SegmentText) : Segment := ⟨s.ident, !s.arguments.isEmpty⟩

/-- Some words take no arguments. -/
inductive WellFormed : SegmentText → Prop
  | word {i : Ident} (hi : ["super", "self", "crate", "try"].any i.isWord = true) :
    WellFormed { ident := i }
  | name {i : Ident} (hi : i.isName = true ∨ i.isWord "Self" = true) : WellFormed { ident := i }
  | applied {i : Ident} {args : List Tree} (hi : i.isName = true ∨ i.isWord "Self" = true)
    (hargs : IsArguments args) : WellFormed ⟨i, args⟩

end SegmentText

/-- A segment after its name. -/
def segmentAfter (g : Rules) (i : Ident) : Rule Segment := do
  let plain := (← peek (op "<")) && !(← peek (op "<=")) && !(← peek (op "<<="))
  if plain || ((← peek (op "::")) && (← peek3 (op "<"))) then
    let _ ← eatOp? "::"
    g.angle
    return { ident := i, hasArguments := true }
  else return { ident := i }

theorem segment_name {g : Rules} {i : Ident} (hi : i.isName = true ∨ i.isWord "Self" = true)
    (ts w : List Tree) (l : Option Delimiter) :
    segment g false ⟨.ident i :: ts, w, l⟩ = segmentAfter g i ⟨ts, .ident i :: w, l⟩ := by
  obtain hi | hi := hi
  · have hr := isWord_eq_false hi
    simp only [reservedWords, List.mem_cons, forall_eq_or_imp, List.not_mem_nil, or_false,
      forall_eq] at hr
    simp [↓segment, ↓segmentAfter, hr, ↓run_eatName hi]
  · obtain ⟨name, raw, span⟩ := i
    simp only [Ident.isWord, Bool.and_eq_true, Bool.not_eq_true', beq_iff_eq] at hi
    obtain ⟨rfl, rfl⟩ := hi
    simp [↓segment, ↓segmentAfter]

theorem segment_inv {g : Rules} {c c' : Cursor} {s : Segment} (h : segment g false c = .ok (s, c')) :
    ∃ i ts, c.rest = .ident i :: ts ∧
      ((["super", "self", "crate", "try"].any i.isWord = true ∧ s = { ident := i } ∧
          c' = { c with rest := ts, written := .ident i :: c.written }) ∨
        ((i.isName = true ∨ i.isWord "Self" = true) ∧
          segmentAfter g i { c with rest := ts, written := .ident i :: c.written } = .ok (s, c'))) := by
  unfold segment at h
  rw [run_bind, run_peekAny, andThen_ok, run_ite] at h
  split at h
  · next hword =>
    obtain ⟨i, c₁, hi, hpure⟩ := bind_eq_ok.1 h
    cases hpure
    obtain ⟨ts, hrest, rfl⟩ := eatAnyIdent_eq_ok.1 hi
    rw [hrest] at hword
    exact ⟨i, ts, hrest, .inl ⟨hword, rfl, rfl⟩⟩
  replace h := peek_taken h
  rw [run_ite] at h
  split at h
  · next hself =>
    obtain ⟨i, c₁, hi, hafter⟩ := bind_eq_ok.1 h
    obtain ⟨ts, hrest, rfl⟩ := eatAnyIdent_eq_ok.1 hi
    rw [hrest] at hself
    exact ⟨i, ts, hrest, .inr ⟨.inr hself, hafter⟩⟩
  · obtain ⟨i, c₁, hi, hafter⟩ := bind_eq_ok.1 h
    obtain ⟨hname, ts, hrest, rfl⟩ := eatName_eq_ok.1 hi
    exact ⟨i, ts, hrest, .inr ⟨.inl hname, hafter⟩⟩

theorem run_segmentAfter (g : Rules) (i : Ident) (c : Cursor) : segmentAfter g i c =
    if (startsOperator ['<'] c.rest && !startsOperator ['<', '='] c.rest &&
          !startsOperator ['<', '<', '='] c.rest) ||
        (startsOperator [':', ':'] c.rest && startsOperator ['<'] (skip 2 c.rest)) then
      andThen (eatOp? "::" c) fun _ => do
        g.angle
        return { ident := i, hasArguments := true }
    else .ok ({ ident := i }, c) := by
  simp only [segmentAfter, run_bind, run_peek, run_peek3, andThen_ok, run_ite, op_test]
  rfl

theorem not_colons_of_angle {ts : List Tree} (h : startsOperator ['<'] ts = true) :
    startsOperator [':', ':'] ts = false := by
  match ts with
  | .punct d joint s :: ts =>
    obtain ⟨rfl, -⟩ : '<' = d ∧ ¬ d = '\'' := by simpa using h
    rfl
  | [] | .ident _ :: _ | .literal _ _ :: _ | .group _ _ _ :: _ => cases h

theorem eatColons {c c' : Cursor} {u : Unit} : eatOp "::" c = .ok (u, c') ↔
    ∃ s joint s' ts, c.rest = .punct ':' true s :: .punct ':' joint s' :: ts ∧
      c' = { c with rest := ts, written := .punct ':' false s' :: .punct ':' true s :: c.written } := by
  obtain ⟨rest, w, l⟩ := c
  constructor
  · intro h
    rw [run_eatOp] at h
    split at h
    · next hstarts =>
      obtain ⟨s, joint, s', ts, rfl⟩ := starts_colons hstarts
      cases h
      exact ⟨s, joint, s', ts, rfl, rfl⟩
    · cases h
  · rintro ⟨s, joint, s', ts, hrest, rfl⟩
    obtain rfl : rest = _ := hrest
    rfl

theorem eatColons? {ts w : List Tree} {l : Option Delimiter} {c : Cursor} {found : Bool}
    (h : eatOp? "::" ⟨ts, w, l⟩ = .ok (found, c)) :
    ∃ colons rest w', ts = colons ++ rest ∧ c = ⟨rest, w', l⟩ ∧
      ((found = true ∧ IsColons colons) ∨ (found = false ∧ colons = [])) := by
  rw [run_eatOp?] at h
  split at h
  · obtain ⟨u, c₁, heat, hpure⟩ := andThen_eq_ok.1 h
    cases hpure
    obtain ⟨s, joint, s', rest, hrest, rfl⟩ := eatColons.1 heat
    exact ⟨_, rest, _, hrest, rfl, .inl ⟨rfl, s, joint, s', rfl⟩⟩
  · cases h
    exact ⟨[], ts, w, rfl, rfl, .inr ⟨rfl, rfl⟩⟩

theorem segmentAfter_none {g : Rules} {i : Ident} {rest : List Tree} (h : EndsSegment rest)
    (w : List Tree) (l : Option Delimiter) :
    segmentAfter g i ⟨rest, w, l⟩ = .ok ({ ident := i }, ⟨rest, w, l⟩) := by
  obtain ⟨hangle, hcolons⟩ := h
  rw [run_segmentAfter, if_neg]
  rw [hangle]
  cases hstarts : startsOperator [':', ':'] rest with
  | false => simp
  | true => rw [hcolons hstarts]; simp

theorem IsAngled.starts {ts : List Tree} (h : IsAngled ts) (rest : List Tree) :
    startsOperator ['<'] (ts ++ rest) = true ∧ startsOperator ['<', '='] (ts ++ rest) = false ∧
      startsOperator ['<', '<', '='] (ts ++ rest) = false := by
  obtain ⟨w', h⟩ := h.reads rest []
  exact angle_starts h

theorem segmentAfter_arguments {i : Ident} {args : List Tree} (h : IsArguments args)
    (rest w : List Tree) :
    ∃ w', segmentAfter grammar i ⟨args ++ rest, w, none⟩ =
      .ok ({ ident := i, hasArguments := true }, ⟨rest, w', none⟩) := by
  cases h with
  | plain hargs =>
    obtain ⟨hangle, hle, hshift⟩ := hargs.starts rest
    obtain ⟨w', hreads⟩ := hargs.reads rest w
    have hcolons := not_colons_of_angle hangle
    refine ⟨w', ?_⟩
    rw [run_segmentAfter, if_pos (by simp [hangle, hle, hshift]), run_eatOp?]
    simp [hcolons, hreads]
  | @apart colons args hcolons hargs =>
    obtain ⟨s, joint, s', rfl⟩ := hcolons
    obtain ⟨hangle, -, -⟩ := hargs.starts rest
    obtain ⟨w', hreads⟩ := hargs.reads rest (.punct ':' false s' :: .punct ':' true s :: w)
    refine ⟨w', ?_⟩
    rw [run_segmentAfter, if_pos (by simp [hangle]), run_eatOp?]
    simp [hreads]

theorem IsArguments.isEmpty {args : List Tree} (h : IsArguments args) : args.isEmpty = false := by
  cases h with
  | plain hargs =>
    obtain ⟨hangle, -, -⟩ := hargs.starts []
    cases args with
    | nil => cases hangle
    | cons t ts => rfl
  | apart hcolons _ =>
    obtain ⟨s, joint, s', rfl⟩ := hcolons
    rfl

theorem segmentAfter_sound {i : Ident} {ts rest w w' : List Tree} {s : Segment}
    (h : segmentAfter grammar i ⟨ts, w, none⟩ = .ok (s, ⟨rest, w', none⟩)) :
    ∃ args, ts = args ++ rest ∧ s = ⟨i, !args.isEmpty⟩ ∧ (args = [] ∨ IsArguments args) := by
  rw [run_segmentAfter] at h
  split at h
  · obtain ⟨found, c₁, hfound, hmore⟩ := andThen_eq_ok.1 h
    obtain ⟨colons, rest₁, w₁, rfl, rfl, hcolons⟩ := eatColons? hfound
    obtain ⟨u, args, rest₂, w₂, rfl, hangle, hpure⟩ := bind_taken hmore
    cases hpure
    have hargs : IsAngled args := ⟨_, _, _, hangle⟩
    obtain ⟨-, hcolons⟩ | ⟨-, rfl⟩ := hcolons
    · have happly := IsArguments.apart hcolons hargs
      exact ⟨colons ++ args, by simp, by rw [happly.isEmpty]; rfl, .inr happly⟩
    · have happly := IsArguments.plain hargs
      exact ⟨args, rfl, by rw [happly.isEmpty]; rfl, .inr happly⟩
  · cases h
    exact ⟨[], rfl, rfl, .inl rfl⟩

theorem SegmentText.WellFormed.reads {s : SegmentText} (h : s.WellFormed) {rest : List Tree}
    (hrest : EndsSegment rest) (w : List Tree) :
    ∃ w', segment grammar false ⟨s.trees ++ rest, w, none⟩ = .ok (s.value, ⟨rest, w', none⟩) := by
  cases h with
  | @word i hi =>
    refine ⟨.ident i :: w, ?_⟩
    simp at hi
    simp [↓segment, trees, value, hi]
  | @name i hi =>
    refine ⟨.ident i :: w, ?_⟩
    rw [trees, List.singleton_append, segment_name hi, segmentAfter_none hrest]
    rfl
  | @applied i args hi hargs =>
    obtain ⟨w', hafter⟩ := segmentAfter_arguments hargs rest (.ident i :: w)
    refine ⟨w', ?_⟩
    rw [trees, List.cons_append, segment_name hi, hafter, value, hargs.isEmpty]
    rfl

theorem segment_sound {ts rest w w' : List Tree} {s : Segment}
    (h : segment grammar false ⟨ts, w, none⟩ = .ok (s, ⟨rest, w', none⟩)) :
    ∃ t : SegmentText, t.WellFormed ∧ ts = t.trees ++ rest ∧ t.value = s := by
  obtain ⟨i, us, hts, ⟨hi, rfl, hc⟩ | ⟨hi, hafter⟩⟩ := segment_inv h
  · cases hc
    exact ⟨{ ident := i }, .word hi, hts, rfl⟩
  · obtain ⟨args, rfl, rfl, rfl | hargs⟩ := segmentAfter_sound hafter
    · exact ⟨{ ident := i }, .name hi, hts, rfl⟩
    · exact ⟨⟨i, args⟩, .applied hi hargs, hts, rfl⟩

/-! ## Paths -/

/-- Segments with `::` between them. -/
inductive Chained : List SegmentText → List Tree → Prop
  | last (s : SegmentText) : Chained [s] s.trees
  | more (s : SegmentText) {colons ss ts} (hcolons : IsColons colons) (h : Chained ss ts) :
    Chained (s :: ss) (s.trees ++ (colons ++ ts))

/-- A path as it stands in the source: whether `::` is in front, and its segments. -/
structure PathText where
  rooted : Bool
  segments : List SegmentText

namespace PathText

def value (p : PathText) : Path := ⟨p.rooted, p.segments.map (·.value)⟩

/-- Its last name. -/
def name (p : PathText) : Option String := p.segments.getLast?.map (·.ident.name)

def WellFormed (p : PathText) : Prop := p.segments ≠ [] ∧ ∀ s ∈ p.segments, s.WellFormed

/-- These trees are the path. -/
inductive Spells : PathText → List Tree → Prop
  | plain {ss ts} (h : Chained ss ts) : Spells ⟨false, ss⟩ ts
  | rooted {colons ss ts} (hcolons : IsColons colons) (h : Chained ss ts) :
    Spells ⟨true, ss⟩ (colons ++ ts)

theorem canonicalName_value (p : PathText) : p.value.canonicalName = p.name := by
  simp [Path.canonicalName, value, name, List.getLast?_map, SegmentText.value, Function.comp_def]

end PathText

theorem endsPath_nil : EndsPath [] := ⟨rfl, rfl⟩

theorem endsPath_comma (joint : Bool) (s : Span) (rest : List Tree) :
    EndsPath (.punct ',' joint s :: rest) :=
  ⟨rfl, rfl⟩

theorem Chained.starts {ss : List SegmentText} {ts : List Tree} (h : Chained ss ts) :
    ∃ i us, ts = .ident i :: us := by
  cases h with
  | last s => exact ⟨s.ident, _, rfl⟩
  | more s hcolons h => exact ⟨s.ident, _, rfl⟩

theorem endsSegment_colons {colons ts : List Tree} {ss : List SegmentText} (hcolons : IsColons colons)
    (h : Chained ss ts) (rest : List Tree) : EndsSegment (colons ++ ts ++ rest) := by
  obtain ⟨s, joint, s', rfl⟩ := hcolons
  obtain ⟨i, us, rfl⟩ := h.starts
  exact ⟨rfl, fun _ => rfl⟩

theorem nextSegment_colons {colons rest : List Tree} {t : SegmentText} (hcolons : IsColons colons)
    (ht : t.WellFormed) (hrest : EndsSegment rest) (found : List Segment) (w : List Tree) :
    ∃ w', nextSegment grammar false found ⟨colons ++ (t.trees ++ rest), w, none⟩ =
      .ok (.again (t.value :: found), ⟨rest, w', none⟩) := by
  obtain ⟨s, joint, s', rfl⟩ := hcolons
  obtain ⟨w', hsegment⟩ := ht.reads hrest (.punct ':' false s' :: .punct ':' true s :: w)
  refine ⟨w', ?_⟩
  rw [SegmentText.trees, List.cons_append] at hsegment ⊢
  simp [↓nextSegment, hsegment]

theorem Chained.reads {s : SegmentText} {ss : List SegmentText} {ts : List Tree}
    (h : Chained (s :: ss) ts) (hss : ∀ t ∈ ss, t.WellFormed) {rest : List Tree}
    (hrest : EndsPath rest) :
    ∃ tail, ts = s.trees ++ tail ∧ EndsSegment (tail ++ rest) ∧
      ∀ n, tail.length < n → ∀ found w, ∃ w',
        iterateFor n found (nextSegment grammar false) ⟨tail ++ rest, w, none⟩ =
          .ok ((ss.map (·.value)).reverse ++ found, ⟨rest, w', none⟩) := by
  -- The first segment is read before the loop: each round takes `::` and the segment after it.
  induction ss generalizing s ts with
  | nil =>
    cases h with
    | last =>
      refine ⟨[], by simp, hrest.endsSegment, fun n hn found w => ?_⟩
      obtain ⟨n, rfl⟩ := Nat.exists_eq_succ_of_ne_zero (Nat.ne_zero_of_lt hn)
      refine ⟨w, ?_⟩
      simp [iterateFor, ↓nextSegment, hrest.2]
    | more _ _ hnone => cases hnone
  | cons t ss ih =>
    cases h with
    | @more _ colons _ us hcolons hus =>
      obtain ⟨tail, rfl, hends, hloop⟩ := ih hus fun x hx => hss x (List.mem_cons_of_mem t hx)
      refine ⟨colons ++ (t.trees ++ tail), rfl, endsSegment_colons hcolons hus rest, ?_⟩
      intro n hn found w
      obtain ⟨n, rfl⟩ := Nat.exists_eq_succ_of_ne_zero (Nat.ne_zero_of_lt hn)
      have hlength : tail.length < n := by
        simp only [List.length_append, SegmentText.trees, List.length_cons] at hn
        omega
      obtain ⟨w₁, hround⟩ := nextSegment_colons hcolons (hss t (List.mem_cons_self ..)) hends found w
      obtain ⟨w₂, hmore⟩ := hloop n hlength (t.value :: found) w₁
      refine ⟨w₂, bind_eq_ok.2 ⟨.again (t.value :: found), ⟨tail ++ rest, w₁, none⟩, ?_, ?_⟩⟩
      · simpa using hround
      · simpa using hmore

theorem moreSegments_eq (g : Rules) (inExpr : Bool) (segments : List Segment) :
    moreSegments g inExpr segments = do
      return (← iterate segments.reverse (nextSegment g inExpr)).reverse := rfl

theorem Chained.ne_nil {ss : List SegmentText} {ts : List Tree} (h : Chained ss ts) : ss ≠ [] := by
  cases h <;> exact List.cons_ne_nil _ _

/-- The rule for a path without the `::` that it may start with. -/
def segments (g : Rules) : Rule (List Segment) := do
  let first ← segment g false
  moreSegments g false [first]

theorem path_eq (g : Rules) : path g false = do
    let leading ← eatOp? "::"
    return ⟨leading, ← segments g⟩ := by
  unfold path segments
  simp only [bind_assoc]

theorem segments_complete {ss : List SegmentText} {ts : List Tree} (h : Chained ss ts)
    (hss : ∀ s ∈ ss, s.WellFormed) {rest : List Tree} (hrest : EndsPath rest) (w : List Tree) :
    ∃ w', segments grammar ⟨ts ++ rest, w, none⟩ = .ok (ss.map (·.value), ⟨rest, w', none⟩) := by
  obtain ⟨s, ss, rfl⟩ := List.exists_cons_of_ne_nil h.ne_nil
  obtain ⟨tail, rfl, hends, hloop⟩ := h.reads (fun t ht => hss t (List.mem_cons_of_mem s ht)) hrest
  obtain ⟨w₁, hfirst⟩ := (hss s (List.mem_cons_self ..)).reads hends w
  have hlength : tail.length < (tail ++ rest).length + 1 := by
    rw [List.length_append]
    omega
  obtain ⟨w₂, hmore⟩ := hloop _ hlength [s.value] w₁
  refine ⟨w₂, bind_eq_ok.2 ⟨s.value, ⟨tail ++ rest, w₁, none⟩, by rwa [List.append_assoc], ?_⟩⟩
  rw [moreSegments_eq, bind_eq_ok]
  exact ⟨_, _, hmore, by simp⟩

theorem PathText.Spells.isPath {p : PathText} {ts : List Tree} (h : p.Spells ts) (hp : p.WellFormed)
    {rest : List Tree} (hrest : EndsPath rest) : IsPath grammar ts rest p.value := by
  cases h with
  | plain h =>
    obtain ⟨w', hsegments⟩ := segments_complete h hp.2 hrest []
    obtain ⟨i, us, hts⟩ := h.starts
    have hnone : eatOp? "::" { rest := ts ++ rest } = .ok (false, { rest := ts ++ rest }) := by
      rw [run_eatOp?, hts]
      rfl
    refine ⟨w', ?_⟩
    rw [path_eq]
    exact bind_eq_ok.2 ⟨false, _, hnone, bind_eq_ok.2 ⟨_, _, hsegments, rfl⟩⟩
  | @rooted colons ss ts hcolons h =>
    obtain ⟨s, joint, s', rfl⟩ := hcolons
    obtain ⟨w', hsegments⟩ := segments_complete h hp.2 hrest [.punct ':' false s', .punct ':' true s]
    refine ⟨w', ?_⟩
    rw [path_eq]
    exact bind_eq_ok.2 ⟨true, _, rfl, bind_eq_ok.2 ⟨_, _, hsegments, rfl⟩⟩

/-! ### Every path is spelled so -/

instance nextSegment_forward {g : Rules} [g.Forward] (base : Cursor) (inExpr : Bool)
    (found : List Segment) :
    Rule.Forward base (nextSegment g inExpr found) := by
  unfold nextSegment; infer_instance

theorem nextSegment_sound {found : List Segment} {step : Progress (List Segment)}
    {ts rest w w' : List Tree}
    (h : nextSegment grammar false found ⟨ts, w, none⟩ = .ok (step, ⟨rest, w', none⟩)) :
    (ts = rest ∧ step = .done found) ∨ ∃ colons, ∃ t : SegmentText, IsColons colons ∧ t.WellFormed ∧
      ts = colons ++ (t.trees ++ rest) ∧ step = .again (t.value :: found) := by
  unfold nextSegment at h
  rw [run_bind, run_peek, andThen_ok, run_bind, run_peek3, andThen_ok, run_ite] at h
  split at h
  · obtain ⟨u, c₁, hcolons, hmore⟩ := bind_eq_ok.1 h
    obtain ⟨s, joint, s', us, rfl, rfl⟩ := eatColons.1 hcolons
    obtain ⟨t, c₂, hsegment, hpure⟩ := bind_eq_ok.1 hmore
    cases hpure
    obtain ⟨t, ht, rfl, rfl⟩ := segment_sound hsegment
    exact .inr ⟨_, t, ⟨s, joint, s', rfl⟩, ht, rfl, rfl⟩
  · cases h
    exact .inl ⟨rfl, rfl⟩

theorem iterateFor_nextSegment_sound {n : Nat} {found out : List Segment} {ts rest w w' : List Tree}
    (h : iterateFor n found (nextSegment grammar false) ⟨ts, w, none⟩ = .ok (out, ⟨rest, w', none⟩)) :
    ∃ ss tail, ts = tail ++ rest ∧ out = (ss.map SegmentText.value).reverse ++ found ∧
      (∀ s ∈ ss, s.WellFormed) ∧ ∀ s : SegmentText, Chained (s :: ss) (s.trees ++ tail) := by
  -- What the rounds take is a tail, for whichever segment stands in front of it.
  induction n generalizing found ts w with
  | zero =>
    cases h
    exact ⟨[], [], rfl, rfl, by simp, fun s => by simpa using Chained.last s⟩
  | succ n ih =>
    obtain ⟨step, piece, rest₁, w₁, rfl, hstep, hmore⟩ := iterateFor_taken h
    obtain ⟨hts, rfl⟩ | ⟨colons, t, hcolons, ht, hts, rfl⟩ := nextSegment_sound hstep
    · obtain ⟨hdone, rfl, rfl⟩ | ⟨s', hagain, -⟩ := hmore
      · cases hdone
        exact ⟨[], [], hts, rfl, by simp, fun s => by simpa using Chained.last s⟩
      · cases hagain
    · obtain ⟨hdone, -⟩ | ⟨s', hagain, hloop⟩ := hmore
      · cases hdone
      · cases hagain
        obtain ⟨ss, tail, rfl, rfl, hss, hchained⟩ := ih hloop
        refine ⟨t :: ss, colons ++ (t.trees ++ tail), by simpa using hts, by simp, ?_, ?_⟩
        · simpa using ⟨ht, hss⟩
        · exact fun s => .more s hcolons (hchained t)

theorem IsPath.spells {piece rest : List Tree} {q : Path} (h : IsPath grammar piece rest q) :
    ∃ p : PathText, p.WellFormed ∧ p.Spells piece ∧ p.value = q := by
  obtain ⟨out, h⟩ := h
  rw [path_eq] at h
  obtain ⟨leading, c₁, hleading, hmore⟩ := bind_eq_ok.1 h
  obtain ⟨colons, rest₁, w₁, hpiece, rfl, hcolons⟩ := eatColons? hleading
  obtain ⟨segs, c₂, hsegments, hpure⟩ := bind_eq_ok.1 hmore
  cases hpure
  obtain ⟨first, front, rest₂, w₂, rfl, hfirst, htail⟩ := bind_taken hsegments
  obtain ⟨t, ht, hfront, rfl⟩ := segment_sound hfirst
  obtain rfl := List.append_cancel_right hfront
  rw [moreSegments_eq] at htail
  obtain ⟨found, c₃, hloop, hpure⟩ := bind_eq_ok.1 htail
  cases hpure
  obtain ⟨ss, tail, rfl, rfl, hss, hchained⟩ := iterateFor_nextSegment_sound hloop
  have hwf (leading : Bool) : PathText.WellFormed ⟨leading, t :: ss⟩ :=
    ⟨List.cons_ne_nil _ _, by simpa using ⟨ht, hss⟩⟩
  obtain ⟨rfl, hcolons⟩ | ⟨rfl, rfl⟩ := hcolons
  · obtain rfl : piece = colons ++ (t.trees ++ tail) :=
      List.append_cancel_right (hpiece.trans (by simp))
    exact ⟨⟨true, t :: ss⟩, hwf _, .rooted hcolons (hchained t), by simp [PathText.value]⟩
  · obtain rfl : piece = t.trees ++ tail := List.append_cancel_right (hpiece.trans (by simp))
    exact ⟨⟨false, t :: ss⟩, hwf _, .plain (hchained t), by simp [PathText.value]⟩

/-! ## Lists of paths -/

/-- Paths with commas between them, and maybe after the last. -/
inductive ListSpells : List PathText → List Tree → Prop
  | nil : ListSpells [] []
  | last {p ts} (h : p.Spells ts) : ListSpells [p] ts
  | more {p ts ps us} (h : p.Spells ts) (joint : Bool) (s : Span) (hps : ListSpells ps us) :
    ListSpells (p :: ps) (ts ++ .punct ',' joint s :: us)

theorem ListSpells.pathList {ps : List PathText} {ts : List Tree} (h : ListSpells ps ts)
    (hps : ∀ p ∈ ps, p.WellFormed) :
    ∃ pieces, PathList grammar ts pieces ∧ pieces.map (·.1) = ps.map (·.value) := by
  induction h with
  | nil => exact ⟨[], .nil, rfl⟩
  | @last p ts h =>
    have hp := hps p (List.mem_cons_self ..)
    exact ⟨[(p.value, ts)], .last (h.isPath hp endsPath_nil), rfl⟩
  | @more p ts ps us h joint s _ ih =>
    have hp := hps p (List.mem_cons_self ..)
    obtain ⟨pieces, hpieces, hvalues⟩ := ih fun q hq => hps q (List.mem_cons_of_mem p hq)
    refine ⟨(p.value, ts) :: pieces, .more (h.isPath hp (endsPath_comma joint s us)) hpieces, ?_⟩
    rw [List.map_cons, List.map_cons, hvalues]

theorem PathList.listSpells {ts : List Tree} {pieces : List (Path × List Tree)}
    (h : PathList grammar ts pieces) : ∃ ps, (∀ p ∈ ps, p.WellFormed) ∧ ListSpells ps ts := by
  induction h with
  | nil => exact ⟨[], by simp, .nil⟩
  | last hp =>
    obtain ⟨p, hwf, hspells, -⟩ := hp.spells
    exact ⟨[p], by simpa using hwf, .last hspells⟩
  | @more piece q joint span rest _ hp _ ih =>
    obtain ⟨p, hwf, hspells, -⟩ := hp.spells
    obtain ⟨ps, hps, hlist⟩ := ih
    exact ⟨p :: ps, by simpa using ⟨hwf, hps⟩, .more hspells joint span hlist⟩

theorem PathList.eq_nil {pieces : List (Path × List Tree)} (h : PathList grammar [] pieces) :
    pieces = [] := by
  generalize hts : ([] : List Tree) = ts at h
  cases h with
  | nil => rfl
  | last hp =>
    obtain ⟨out, hp⟩ := hp
    exact absurd (by simpa using hts.symm) (path_rest_ne_nil hp)
  | more _ _ => simp at hts

/-- A list of paths is read exactly if it is well formed. -/
theorem parseList_ok_iff {ts : List Tree} :
    (∃ found, Path.parseList ts = .ok found) ↔ ∃ ps, (∀ p ∈ ps, p.WellFormed) ∧ ListSpells ps ts := by
  constructor
  · rintro ⟨found, h⟩
    obtain ⟨pieces, hpieces, -⟩ := parseList_sound h
    exact hpieces.listSpells
  · rintro ⟨ps, hps, h⟩
    obtain ⟨pieces, hpieces, -⟩ := h.pathList hps
    obtain ⟨found, hfound, -⟩ := parseList_complete hpieces
    exact ⟨found, hfound⟩

end FetchKit.Grammar
