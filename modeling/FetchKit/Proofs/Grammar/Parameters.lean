import FetchKit.Proofs.Grammar.Following
import FetchKit.Proofs.Grammar.Setting.Types

/-!
# Parameters and conditions

The generic parameters of a type and the conditions on them are given with what is kept of them. Here
it is said which trees of the source each of them was, and what those trees may become.
-/

namespace FetchKit.Grammar

open FetchKit.Source Rule

/-! ## Bounds that write nothing -/

namespace Rule

variable {α β : Type}

/-- When it succeeds, the rule writes at least one tree. -/
class Sets (r : Rule α) : Prop where
  step : ∀ {c a c'}, r c = .ok (a, c') → c'.leftover = none →
    c.leftover = none ∧ c.written.length < c'.written.length

theorem Resets.grows (place : Place) {r : Rule α} [∀ base, Resets place base r] {c c' : Cursor} {a : α}
    (h : r c = .ok (a, c')) (hl : c'.leftover = none) :
    c.leftover = none ∧ c.written.length ≤ c'.written.length := by
  obtain ⟨hleft, read, out, -, hout, -⟩ := Resets.here place h hl
  rw [hout, List.length_append]
  exact ⟨hleft, Nat.le_add_left ..⟩

instance bind_sets {x : Rule α} {f : α → Rule β} [hx : Sets x]
    [∀ a base, Resets .type base (f a)] : Sets (x >>= f) := by
  refine ⟨fun h hl => ?_⟩
  obtain ⟨a, c₁, h₁, h₂⟩ := bind_eq_ok.1 h
  obtain ⟨hl₁, hle⟩ := Resets.grows .type h₂ hl
  obtain ⟨hl₀, hlt⟩ := hx.step h₁ hl₁
  exact ⟨hl₀, Nat.lt_of_lt_of_le hlt hle⟩

instance bind_sets_last {x : Rule α} {f : α → Rule β} [∀ base, Resets .type base x]
    [hf : ∀ a, Sets (f a)] : Sets (x >>= f) := by
  refine ⟨fun h hl => ?_⟩
  obtain ⟨a, c₁, h₁, h₂⟩ := bind_eq_ok.1 h
  obtain ⟨hl₁, hlt⟩ := (hf a).step h₂ hl
  obtain ⟨hl₀, hle⟩ := Resets.grows .type h₁ hl₁
  exact ⟨hl₀, Nat.lt_of_le_of_lt hle hlt⟩

instance ite_sets {p : Prop} [Decidable p] {x y : Rule α} [hx : Sets x] [hy : Sets y] :
    Sets (if p then x else y) := by
  split
  · exact hx
  · exact hy

instance fail_sets (e : Complaint) : Sets (fail e : Rule α) := by
  refine ⟨fun h => ?_⟩
  cases h

instance eatWord_sets (w : String) : Sets (eatWord w) := by
  refine ⟨fun h hl => ?_⟩
  obtain ⟨i, ts, -, -, rfl⟩ := eatWord_eq_ok.1 h
  exact ⟨hl, Nat.lt_succ_self _⟩

instance eatName_sets : Sets eatName := by
  refine ⟨fun h hl => ?_⟩
  obtain ⟨-, ts, -, rfl⟩ := eatName_eq_ok.1 h
  exact ⟨hl, Nat.lt_succ_self _⟩

instance eatAnyIdent_sets : Sets eatAnyIdent := by
  refine ⟨fun h hl => ?_⟩
  obtain ⟨ts, -, rfl⟩ := eatAnyIdent_eq_ok.1 h
  exact ⟨hl, Nat.lt_succ_self _⟩

instance eatLifetime_sets : Sets eatLifetime := by
  refine ⟨fun {c a c'} h hl => ?_⟩
  obtain ⟨s, i, ts, -, rfl⟩ := eatLifetime_eq_ok h
  exact ⟨hl, Nat.lt_add_of_pos_right Nat.two_pos⟩

instance within_sets (d : Delimiter) (body : Rule α) [∀ base, Resets .type base body] :
    Sets (within d body) := by
  refine ⟨fun h hl => ?_⟩
  obtain ⟨content, s, ts, out, w, rfl, rfl, -, -⟩ := within_anew .type h hl
  exact ⟨rfl, Nat.lt_succ_self _⟩

instance keeping_sets (r : Rule (Kept α)) [hr : Sets r] [he : Eats r]
    [hf : ∀ base, Forward base r] : Sets (keeping r) := by
  refine ⟨fun {c a c'} h hl => ?_⟩
  obtain ⟨kept, inner, hinner, rfl⟩ := keeping_eq_ok h
  obtain ⟨hl₀, hlt⟩ := hr.step hinner hl
  refine ⟨hl₀, ?_⟩
  obtain ⟨read, hread⟩ := ((hf _).step (.refl _) hinner).suffix
  have hsize := he.step hinner
  simp only [Cursor.size] at hsize hread
  cases kept with
  | true =>
    have hne : read ≠ [] := by
      rintro rfl
      rw [← hread, List.nil_append] at hsize
      exact Nat.lt_irrefl _ hsize
    have hpos := List.length_pos_iff.2 hne
    simp only [if_true, ← hread, List.length_append, List.length_reverse, List.length_take]
    omega
  | false =>
    simp only [Bool.false_eq_true, if_false, List.length_append, List.length_nil] at hlt ⊢
    omega

end Rule

section Bounds

variable (g : Rules) [g.Forward] [g.Resets]

set_option synthInstance.maxSize 2000 in
instance segment_sets (inExpr : Bool) : Sets (segment g inExpr) := by
  unfold segment; infer_instance
instance path_sets (inExpr : Bool) : Sets (path g inExpr) := by
  unfold path; infer_instance
set_option synthInstance.maxSize 2000 in
instance preciseCapture_sets : Sets preciseCapture :=
  @bind_sets _ _ _ _ _ fun _ _ => angled_resets captureRound_listing
set_option synthInstance.maxSize 2000 in
instance traitBound_sets (allowConst : Bool) : Sets (traitBound g allowConst) := by
  unfold traitBound; infer_instance
instance path_eats (inExpr : Bool) : Eats (path g inExpr) := by
  unfold path; infer_instance
set_option synthInstance.maxSize 2000 in
instance traitBound_eats (allowConst : Bool) : Eats (traitBound g allowConst) := by
  unfold traitBound; infer_instance
set_option synthInstance.maxSize 2000 in
instance bound_sets (allowCapture allowConst : Bool) : Sets (bound g allowCapture allowConst) := by
  unfold bound; infer_instance

/-- Where these bounds write nothing, there are none and nothing more can be said. -/
class Bounding (r : Rule Unit) : Prop where
  step : ∀ {c u c'}, r c = .ok (u, c') → c'.leftover = none → c'.written = c.written →
    c' = c ∧ endsBounds c.rest = true

omit [g.Forward] [g.Resets] in
theorem loop_bounding {body : Rule Bool} [∀ base, Rule.Resets .type base body]
    (hround : ∀ {c b c'}, body c = .ok (b, c') → c'.leftover = none →
      (b = false ∧ c' = c ∧ endsBounds c.rest = true) ∨ c.written.length < c'.written.length) :
    Bounding (loop body) := by
  refine ⟨fun {c u c'} h hl hnone => ?_⟩
  unfold loop at h
  rw [run_iterate] at h
  obtain ⟨p, c₁, hfirst, hmore⟩ := andThen_eq_ok.1 h
  obtain ⟨again, c₂, hbody, hpure⟩ := bind_eq_ok.1 hfirst
  cases again with
  | false =>
    cases hpure
    cases hmore
    obtain ⟨-, hstay⟩ | hlt := hround hbody hl
    · exact hstay
    · exact absurd (congrArg List.length hnone) (Nat.ne_of_gt hlt)
  | true =>
    cases hpure
    obtain ⟨hl₁, hle⟩ := Resets.grows .type hmore hl
    obtain ⟨hfalse, -⟩ | hlt := hround hbody hl₁
    · cases hfalse
    · exact absurd (congrArg List.length hnone) (Nat.ne_of_gt (Nat.lt_of_lt_of_le hlt hle))

omit [g.Forward] [g.Resets] in
theorem stop_round {stop x : Rule Bool} [hstill : Still stop] [hx : Sets x]
    (hstop : ∀ {c c'}, stop c = .ok (true, c') → endsBounds c.rest = true) {b : Bool} {c c' : Cursor}
    (h : (do if ← stop then return false else x) c = .ok (b, c')) (hl : c'.leftover = none) :
    (b = false ∧ c' = c ∧ endsBounds c.rest = true) ∨ c.written.length < c'.written.length := by
  obtain ⟨stopped, c₁, hrun, hmore⟩ := bind_eq_ok.1 h
  obtain rfl := hstill.step hrun
  cases stopped with
  | true =>
    cases hmore
    exact .inl ⟨rfl, rfl, hstop hrun⟩
  | false => exact .inr (hx.step hmore hl).2

/-- The bounds of a lifetime. -/
def lifetimeBounds : Rule Unit :=
  loop do
    if (← atEnd) || (← peekAny [op ",", op ">"]) then return false
    eatLifetime
    eatOp? "+"

instance lifetimeBounds_forward {base : Cursor} : Rule.Forward base lifetimeBounds := by
  unfold lifetimeBounds; infer_instance
instance lifetimeBounds_resets {place : Place} {base : Cursor} :
    Rule.Resets place base lifetimeBounds := by
  unfold lifetimeBounds; infer_instance

instance lifetimeBounds_matches : Rule.Matches lifetimeBounds := by
  unfold lifetimeBounds; infer_instance

theorem lifetimeRound_eq_ok {b : Bool} {c c' : Cursor} (h : (do
    if (← atEnd) || (← peekAny [op ",", op ">"]) then return false
    eatLifetime
    eatOp? "+" : Rule Bool) c = .ok (b, c')) :
    (b = false ∧ c' = c ∧ endsBounds c.rest = true) ∨
      (eatLifetime >>= fun _ => eatOp? "+") c = .ok (b, c') := by
  rw [run_bind, run_atEnd, andThen_ok, run_bind, run_peekAny, andThen_ok] at h
  obtain ⟨hends, h⟩ | ⟨-, h⟩ := ite_taken h
  · cases h
    refine .inl ⟨rfl, rfl, ?_⟩
    simp only [List.any_cons, List.any_nil, op_test] at hends
    simp only [endsBounds]
    grind
  · exact .inr h

instance lifetimeBounds_bounding : Bounding lifetimeBounds := by
  refine loop_bounding fun h hl => ?_
  obtain hends | h := lifetimeRound_eq_ok h
  · exact .inl hends
  · exact .inr (Sets.step h hl).2

instance lifetimeBounds_opens : Opens lifetimeBounds := by
  refine @loop_opens _ ⟨fun h => ?_⟩
  obtain ⟨-, -, hends⟩ | h := lifetimeRound_eq_ok h
  · exact loneColon_of_endsBounds hends
  · exact Opens.step h

/-- The bounds of a type parameter. -/
def typeBounds (g : Rules) : Rule Unit :=
  boundsUntil (bound g false true) do return (← atEnd) || (← peekAny [op ",", op ">", op "="])

omit [g.Resets] in
instance typeBounds_forward {base : Cursor} : Rule.Forward base (typeBounds g) := by
  unfold typeBounds; infer_instance
instance typeBounds_resets {place : Place} {base : Cursor} :
    Rule.Resets place base (typeBounds g) := by
  unfold typeBounds; infer_instance

instance typeBounds_matches : Rule.Matches (typeBounds g) := by
  unfold typeBounds; infer_instance

omit [g.Forward] [g.Resets] in
theorem typeBounds_ends {c c' : Cursor}
    (h : (do return (← atEnd) || (← peekAny [op ",", op ">", op "="]) : Rule Bool) c =
      .ok (true, c')) : endsBounds c.rest = true := by
  rw [run_bind, run_atEnd, andThen_ok, run_bind, run_peekAny, andThen_ok] at h
  simp only [run_pure, Except.ok.injEq, Prod.mk.injEq, List.any_cons, List.any_nil, op_test] at h
  simp only [endsBounds]
  grind

instance typeBounds_bounding : Bounding (typeBounds g) :=
  loop_bounding (stop_round typeBounds_ends)

instance typeBounds_opens : Opens (typeBounds g) := boundsUntil_opens typeBounds_ends

theorem boundsTo_bounding (allowConst : Bool) {ps : List Probe}
    (hps : ∀ ts, ps.any (·.test ts) = true → endsBounds ts = true) :
    Bounding (boundsTo g allowConst (peekAny ps)) :=
  loop_bounding (stop_round (peekAny_ends hps))

omit [g.Forward] in
theorem boundsTo_opens (allowConst : Bool) {ps : List Probe}
    (hps : ∀ ts, ps.any (·.test ts) = true → endsBounds ts = true) :
    Opens (boundsTo g allowConst (peekAny ps)) :=
  @loop_opens _ (stop_opens (peekAny_ends hps))

/-! ## Bounds after a colon -/

/-- Bounds with the colon before them. A colon without bounds is not kept. -/
inductive BoundsIn (place : Place) (next : List Tree) : List Tree → List Tree → Prop
  | none : BoundsIn place next [] []
  | bare {joint s} (hnext : endsBounds next = true) : BoundsIn place next [.punct ':' joint s] []
  | some {joint s bounds text} (hne : text ≠ [])
    (hcolon : endsOperator place ':' (bounds ++ next) = true) (h : Reset place next bounds text)
    (hmatched : Matched bounds) :
    BoundsIn place next (.punct ':' joint s :: bounds) (.punct ':' false s :: text)

omit [g.Forward] [g.Resets] in
theorem BoundsIn.reset {place : Place} {next piece text : List Tree}
    (h : BoundsIn place next piece text) : Reset place next piece text := by
  cases h with
  | none => exact .same []
  | bare hnext => exact .colon _ _ hnext
  | some _ hcolon h _ => exact .append (.spacing ':' _ _ hcolon) h

omit [g.Forward] [g.Resets] in
theorem BoundsIn.matched {place : Place} {next piece text : List Tree}
    (h : BoundsIn place next piece text) : Matched piece := by
  cases h with
  | none => exact .nil
  | bare _ => exact matched_of_plain rfl
  | some _ _ _ hmatched => exact .plain rfl hmatched

omit [g.Forward] [g.Resets] in
theorem boundsAfterColon_sound (place : Place) {r : Rule Unit} [∀ base, Rule.Forward base r]
    [∀ base, Rule.Resets place base r] [Rule.Matches r] [Opens r] [hr : Bounding r]
    {ts rest w w' text : List Tree}
    (h : boundsAfterColon r ⟨ts, w, none⟩ = .ok (text, ⟨rest, w', none⟩)) :
    w' = w ∧ ∃ piece, ts = piece ++ rest ∧ BoundsIn place rest piece text := by
  unfold boundsAfterColon at h
  obtain ⟨colon, piece, rest₂, rfl, hcolon, hheld⟩ := held_taken h
  obtain ⟨rfl, rfl⟩ | ⟨joint, s, rfl, rfl⟩ := writes_eatOp? (d := ':') (by decide) (by decide) hcolon
  · cases hheld
    exact ⟨rfl, [], rfl, .none⟩
  rw [List.isEmpty_cons, if_neg Bool.false_ne_true] at hheld
  obtain ⟨found, bounds, rest₃, rfl, hfound, hpure⟩ := held_taken hheld
  cases hpure
  refine ⟨rfl, .punct ':' joint s :: bounds, rfl, ?_⟩
  have hreset : Reset place rest bounds found := hfound.reset
  have hmatched := hfound.matched
  obtain ⟨u, hrun⟩ := hfound
  cases found with
  | nil =>
    obtain ⟨hstay, hends⟩ := hr.step hrun rfl rfl
    obtain rfl : bounds = [] := by simpa using hstay.symm
    exact .bare hends
  | cons t found =>
    exact .some (List.cons_ne_nil t found) (endsOperator_colon (Opens.step hrun)) hreset hmatched

end Bounds

/-! ## Generic parameters -/

/-- A default with the `=` before it. -/
inductive DefaultIn (place : Place) (next : List Tree) : List Tree → List Tree → Prop
  | none : DefaultIn place next [] []
  | some {joint s value text} (h : Reset place next value text) (hmatched : Matched value) :
    DefaultIn place next (.punct '=' joint s :: value) (.punct '=' false s :: text)

theorem DefaultIn.reset {place : Place} {next piece text : List Tree}
    (h : DefaultIn place next piece text) : Reset place next piece text := by
  cases h with
  | none => exact .same []
  | some h _ => exact .append (.spacing '=' _ _ (endsOperator_of (by decide))) h

theorem DefaultIn.matched {place : Place} {next piece text : List Tree}
    (h : DefaultIn place next piece text) : Matched piece := by
  cases h with
  | none => exact .nil
  | some _ hmatched => exact .plain rfl hmatched

/-- A generic parameter in front of `next`: what stands in the source, and what is kept of it. -/
inductive IsParam (place : Place) (next : List Tree) : List Tree → Param → Prop
  | lifetime {attributes as s i bounds bs comma} (has : Marks attributes as)
    (hbs : BoundsIn place next bounds bs) :
    IsParam place next (attributes ++ ([.punct '\'' true s, .ident i] ++ bounds))
      { kind := .lifetime, declared := as ++ [.punct '\'' true s, .ident i] ++ bs,
        used := [.punct '\'' true s, .ident i], comma }
  | type {attributes as i bounds bs value fallback comma} (has : Marks attributes as)
    (hi : i.isName = true) (hbs : BoundsIn place (value ++ next) bounds bs)
    (hvalue : DefaultIn place next value fallback) :
    IsParam place next (attributes ++ ([.ident i] ++ (bounds ++ value)))
      { kind := .type, declared := as ++ [.ident i] ++ bs, used := [.ident i], fallback, comma }
  | const {attributes as k i joint s kind text value fallback comma} (has : Marks attributes as)
    (hk : k.isWord "const" = true) (hi : i.isName = true)
    (hcolon : endsOperator place ':' (kind ++ value ++ next) = true)
    (hkind : Reset place (value ++ next) kind text) (hmatched : Matched kind)
    (hvalue : DefaultIn place next value fallback) :
    IsParam place next
      (attributes ++ ([.ident k, .ident i, .punct ':' joint s] ++ (kind ++ value)))
      { kind := .const, declared := as ++ [.ident k, .ident i, .punct ':' false s] ++ text,
        used := [.ident i], fallback, comma }
  | unnamed {attributes as i comma} (has : Marks attributes as) (hi : i.isWord "_" = true) :
    IsParam place next (attributes ++ [.ident i])
      { kind := .type, declared := as ++ [.ident i], used := [.ident i], comma }

section Sound

variable {place : Place} {next piece : List Tree} {p : Param}

theorem IsParam.set_comma (h : IsParam place next piece p) (comma : List Tree) :
    IsParam place next piece { p with comma } := by
  cases h with
  | lifetime has hbs => exact .lifetime has hbs
  | type has hi hbs hvalue => exact .type has hi hbs hvalue
  | const has hk hi hcolon hkind hmatched hvalue =>
    exact .const has hk hi hcolon hkind hmatched hvalue
  | unnamed has hi => exact .unnamed has hi

theorem IsParam.reset (h : IsParam place next piece p) :
    Reset place next piece (p.declared ++ p.fallback) := by
  cases h with
  | lifetime has hbs =>
    simp only [List.append_assoc, List.append_nil]
    exact (has.reset _ _).append ((Reset.same _).append hbs.reset)
  | type has hi hbs hvalue =>
    simp only [List.append_assoc]
    exact (has.reset _ _).append ((Reset.same _).append (hbs.reset.append hvalue.reset))
  | @const attributes as k i joint s kind text value fallback comma has hk hi hcolon hkind _ hvalue =>
    have hname : Reset place (kind ++ value ++ next) [.ident k, .ident i, .punct ':' joint s]
        [.ident k, .ident i, .punct ':' false s] :=
      (Reset.same [.ident k, .ident i]).append (.spacing ':' joint s hcolon)
    simp only [List.append_assoc as]
    exact (has.reset _ _).append (hname.append (hkind.append hvalue.reset))
  | unnamed has hi =>
    simp only [List.append_nil]
    exact (has.reset _ _).append (.same _)

theorem IsParam.matched (h : IsParam place next piece p) : Matched piece := by
  cases h with
  | lifetime has hbs => exact has.matched.append (.append (matched_of_plain rfl) hbs.matched)
  | type has hi hbs hvalue =>
    exact has.matched.append (.plain rfl (hbs.matched.append hvalue.matched))
  | const has hk hi _ hkind hmatched hvalue =>
    exact has.matched.append (.append (matched_of_plain rfl) (hmatched.append hvalue.matched))
  | unnamed has hi => exact has.matched.append (matched_of_plain rfl)

theorem IsParam.first (h : IsParam place next piece p) :
    (p.kind == .lifetime) = declaresLifetime piece := by
  unfold declaresLifetime
  cases h with
  | lifetime has _ | type has _ _ _ | const has _ _ _ _ _ _ | unnamed has _ =>
    rw [has.afterMarks_append]
    rfl

variable {g : Rules} [g.Forward] [g.Resets] {ts rest w w' : List Tree}

/-- Whatever the rule gives is a parameter, and nothing is written for it. -/
def GivesParam (place : Place) (r : Rule Param) : Prop :=
  ∀ {ts rest w w' p}, r ⟨ts, w, none⟩ = .ok (p, ⟨rest, w', none⟩) →
    w' = w ∧ ∃ piece, ts = piece ++ rest ∧ IsParam place rest piece p ∧ p.comma = []

omit [g.Forward] [g.Resets] in
theorem boundsAfterColon_taken {α : Type} (place : Place) {r : Rule Unit} [∀ base, Rule.Forward base r]
    [∀ base, Rule.Resets place base r] [Rule.Matches r] [Opens r] [Bounding r] {f : List Tree → Rule α}
    [∀ a base, Rule.Forward base (f a)] {b : α}
    (h : (boundsAfterColon r >>= f) ⟨ts, w, none⟩ = .ok (b, ⟨rest, w', none⟩)) :
    ∃ text piece rest₁, ts = piece ++ rest₁ ∧ BoundsIn place rest₁ piece text ∧
      f text ⟨rest₁, w, none⟩ = .ok (b, ⟨rest, w', none⟩) := by
  obtain ⟨text, zs, rest₁, w₁, hts, hbounds, hmore⟩ := bind_taken h
  rw [← hts] at hbounds
  obtain ⟨rfl, piece, hpiece, hin⟩ := boundsAfterColon_sound place hbounds
  exact ⟨text, piece, rest₁, hpiece, hin, hmore⟩

theorem default_taken {x : Rule Unit} [∀ base, Rule.Forward base x] [∀ base, Rule.Resets place base x]
    [Rule.Matches x] {piece text : List Tree} (h : Writes (do if ← eatOp? "=" then x) next piece text) :
    DefaultIn place next piece text := by
  obtain ⟨u, h⟩ := h
  obtain ⟨found, front, rest₁, w₁, hpiece, hfound, hmore⟩ := bind_taken h
  rw [run_eatOp?] at hfound
  split at hfound
  · obtain ⟨v, c₁, heat, hpure⟩ := andThen_eq_ok.1 hfound
    cases hpure
    obtain ⟨joint, s, ts, hts, hc⟩ := (eatOp_one (d := '=') (by decide) (by decide)).1 heat
    cases hc
    rw [if_pos rfl] at hmore
    obtain ⟨-, read, out, hread, hout, hreset⟩ := Rule.Resets.here place hmore rfl
    obtain rfl : rest₁ = read ++ next := hread
    obtain rfl : piece = .punct '=' joint s :: read := by
      refine List.append_cancel_right (hpiece.trans (hts.trans ?_))
      rfl
    obtain rfl : text = .punct '=' false s :: out := by simpa using congrArg List.reverse hout
    exact .some hreset (Matches.read hmore)
  · simp only [Except.ok.injEq, Prod.mk.injEq, Cursor.mk.injEq, List.append_left_eq_self] at hfound
    obtain ⟨rfl, rfl, rfl, -⟩ := hfound
    simp only [Bool.false_eq_true, if_false, run_pure, Except.ok.injEq, Prod.mk.injEq,
      Cursor.mk.injEq] at hmore
    obtain ⟨-, rfl, htext, -⟩ := hmore
    obtain rfl : piece = [] := List.append_cancel_right hpiece
    obtain rfl : text = [] := by simpa using htext.symm
    exact .none

omit [g.Forward] [g.Resets] in
theorem lifetimeParameter_sound {attributes as : List Tree} (has : Marks attributes as)
    (h : lifetimeParameter as ⟨ts, w, none⟩ = .ok (p, ⟨rest, w', none⟩)) :
    w' = w ∧ ∃ piece, ts = piece ++ rest ∧ IsParam place rest (attributes ++ piece) p ∧ p.comma = [] := by
  unfold lifetimeParameter at h
  obtain ⟨used, name, rest₁, rfl, hused, hbounds⟩ := held_taken h
  obtain ⟨s, i, rfl, rfl⟩ := writes_eatLifetime hused
  obtain ⟨bs, bounds, rest₂, rfl, hbs, hpure⟩ :=
    boundsAfterColon_taken place (r := lifetimeBounds) hbounds
  cases hpure
  exact ⟨rfl, _, (List.append_assoc ..).symm, .lifetime has hbs, rfl⟩

theorem typeParameter_sound {attributes as : List Tree} (has : Marks attributes as)
    (h : typeParameter g as ⟨ts, w, none⟩ = .ok (p, ⟨rest, w', none⟩)) :
    w' = w ∧ ∃ piece, ts = piece ++ rest ∧ IsParam place rest (attributes ++ piece) p ∧ p.comma = [] := by
  unfold typeParameter at h
  obtain ⟨used, name, rest₁, rfl, hused, hbounds⟩ := held_taken h
  obtain ⟨i, hi, rfl, rfl⟩ := writes_eatName hused
  obtain ⟨bs, bounds, rest₂, rfl, hbs, hmore⟩ :=
    boundsAfterColon_taken place (r := typeBounds g) hbounds
  obtain ⟨fallback, value, rest₃, rfl, hvalue, hpure⟩ := held_taken hmore
  cases hpure
  exact ⟨rfl, _, by simp, .type has hi hbs (default_taken hvalue), rfl⟩

theorem constParameter_sound {attributes as : List Tree} (has : Marks attributes as)
    (h : constParameter g as ⟨ts, w, none⟩ = .ok (p, ⟨rest, w', none⟩)) :
    w' = w ∧ ∃ piece, ts = piece ++ rest ∧ IsParam place rest (attributes ++ piece) p ∧ p.comma = [] := by
  unfold constParameter at h
  obtain ⟨keyword, word, rest₁, rfl, hkeyword, hname⟩ := held_taken h
  obtain ⟨k, hk, rfl, rfl⟩ := writes_eatWord hkeyword
  obtain ⟨used, name, rest₂, rfl, hused, htyped⟩ := held_taken hname
  obtain ⟨i, hi, rfl, rfl⟩ := writes_eatName hused
  obtain ⟨text, kind, rest₃, rfl, ⟨u, hkind⟩, hmore⟩ := held_taken htyped
  obtain ⟨v, c₁, hcolon, hkind⟩ := bind_eq_ok.1 hkind
  obtain ⟨joint, s, us, hus, rfl⟩ := (eatOp_one (d := ':') (by decide) (by decide)).1 hcolon
  obtain ⟨-, read, out, hread, hout, hreset⟩ := Rule.Resets.here place hkind rfl
  obtain rfl : us = read ++ rest₃ := hread
  obtain rfl : kind = .punct ':' joint s :: read := List.append_cancel_right hus
  obtain rfl : text = .punct ':' false s :: out := by simpa using congrArg List.reverse hout
  obtain ⟨fallback, value, rest₄, rfl, hvalue, hpure⟩ := held_taken hmore
  cases hpure
  refine ⟨rfl, [.ident k, .ident i, .punct ':' joint s] ++ (read ++ value), by simp, ?_, rfl⟩
  have hopens : endsOperator place ':' (read ++ value ++ rest) = true :=
    endsOperator_colon (List.append_assoc read value rest ▸ Opens.step hkind)
  simpa using IsParam.const has hk hi hopens hreset (Matches.read hkind) (default_taken hvalue)

theorem attributed_gives {f : List Tree → Rule Param} [∀ as base, Rule.Forward base (f as)]
    (hf : ∀ {attributes as ts rest w w' p}, Marks attributes as →
      f as ⟨ts, w, none⟩ = .ok (p, ⟨rest, w', none⟩) → w' = w ∧ ∃ piece,
        ts = piece ++ rest ∧ IsParam place rest (attributes ++ piece) p ∧ p.comma = []) :
    GivesParam place (held (outerAttributes g) >>= f) := by
  intro ts rest w w' p h
  obtain ⟨as, attributes, rest₁, rfl, has, hparam⟩ := held_taken h
  obtain ⟨rfl, piece, rfl, hp⟩ := hf (outerAttributes_taken g has) hparam
  exact ⟨rfl, attributes ++ piece, (List.append_assoc ..).symm, hp⟩

set_option synthInstance.maxSize 2000 in
theorem parameter_gives : GivesParam place (parameter g) := by
  refine attributed_gives fun has h => ?_
  obtain ⟨-, h⟩ | ⟨-, h⟩ := ite_taken (peek_taken h)
  · exact lifetimeParameter_sound has h
  obtain ⟨-, h⟩ | ⟨-, h⟩ := ite_taken (peek_taken h)
  · exact typeParameter_sound has h
  obtain ⟨-, h⟩ | ⟨-, h⟩ := ite_taken (peek_taken h)
  · exact constParameter_sound has h
  obtain ⟨hword, h⟩ | ⟨-, h⟩ := ite_taken (peek_taken h)
  · obtain ⟨used, name, rest₂, rfl, hused, hpure⟩ := held_taken h
    obtain ⟨i, rfl, rfl⟩ := writes_eatAnyIdent hused
    cases hpure
    exact ⟨rfl, [.ident i], rfl, .unnamed has hword, rfl⟩
  · cases h

theorem boundParameter_gives : GivesParam place (boundParameter g) := by
  refine attributed_gives fun has h => ?_
  obtain ⟨-, h⟩ | ⟨-, h⟩ := ite_taken (peek_taken h)
  · exact typeParameter_sound has h
  obtain ⟨-, h⟩ | ⟨-, h⟩ := ite_taken (peek_taken h)
  · exact lifetimeParameter_sound has h
  obtain ⟨-, h⟩ | ⟨-, h⟩ := ite_taken (peek_taken h)
  · exact constParameter_sound has h
  · cases h

/-! ## Lists of parameters -/

/-- The generics in front of `next`: nothing, or parameters between angle brackets. -/
inductive GenericsIn (place : Place) (next : List Tree) : List Tree → Generics → Prop
  | none : GenericsIn place next [] {}
  | some {joint s ts ps joint' s'}
    (h : Listing Param.comma (IsParam place) (.punct '>' joint' s' :: next) ts ps) :
    GenericsIn place next (.punct '<' joint s :: ts ++ [.punct '>' joint' s'])
      { opening := [.punct '<' false s], params := ps, closing := [.punct '>' false s'] }

/-- One round of `angledParameters`. -/
def parameterRound (parameter : Rule Param) (found : List Param) : Rule (Progress (List Param)) := do
  if ← peek (op ">") then return .done found
  let p ← parameter
  if ← peek (op ">") then return .done (p :: found)
  return .again ({ p with comma := ← held (eatOp ",") } :: found)

instance parameterRound_forward (parameter : Rule Param) (base : Cursor)
    [Rule.Forward base parameter] (found : List Param) :
    Rule.Forward base (parameterRound parameter found) := by
  unfold parameterRound; infer_instance

theorem parameterRound_listing {r : Rule Param} [∀ base, Rule.Forward base r]
    (hr : GivesParam place r) : ListingRound Param.comma (IsParam place) (parameterRound r) := by
  intro found step ts rest w w' h
  obtain ⟨-, h⟩ | ⟨-, h⟩ := ite_taken (peek_taken h)
  · cases h
    exact ⟨rfl, .inl ⟨rfl, rfl⟩⟩
  obtain ⟨p, zs, rest₁, w₁, hts, hparam, hmore⟩ := bind_taken h
  obtain ⟨rfl, piece, hpiece, hp, hnone⟩ := hr hparam
  rw [hpiece] at hts
  obtain ⟨-, hmore⟩ | ⟨-, hmore⟩ := ite_taken (peek_taken hmore)
  · cases hmore
    exact ⟨rfl, .inr (.inl ⟨piece, p, hts, rfl, hp, hnone⟩)⟩
  obtain ⟨comma, cs, rest₂, rfl, hcomma, hpure⟩ := held_taken hmore
  obtain ⟨joint, s, rfl, rfl⟩ := writes_eatOp (d := ',') (by decide) (by decide) hcomma
  cases hpure
  exact ⟨rfl, .inr (.inr ⟨piece, _, joint, s, hts, rfl, hp.set_comma _, rfl⟩)⟩

theorem angledParameters_sound {r : Rule Param} [∀ base, Rule.Forward base r]
    (hr : GivesParam place r) {found : Generics}
    (h : angledParameters r ⟨ts, w, none⟩ = .ok (found, ⟨rest, w', none⟩)) :
    w' = w ∧ ∃ joint s inner ps joint' s',
      ts = .punct '<' joint s :: inner ++ [.punct '>' joint' s'] ++ rest ∧
      found = { opening := [.punct '<' false s], params := ps, closing := [.punct '>' false s'] } ∧
      Listing Param.comma (IsParam place) (.punct '>' joint' s' :: rest) inner ps := by
  unfold angledParameters at h
  obtain ⟨opening, os, rest₁, rfl, hopen, hlist⟩ := held_taken h
  obtain ⟨joint, s, rfl, rfl⟩ := writes_eatOp (d := '<') (by decide) (by decide) hopen
  obtain ⟨out, zs, rest₂, w₂, rfl, hout, hclose⟩ := bind_taken hlist
  obtain ⟨rfl, inner, ps, hinner, rfl, hps⟩ := iterateFor_listing (parameterRound_listing hr) hout
  obtain ⟨closing, cs, rest₃, rfl, hclosing, hpure⟩ := held_taken hclose
  obtain ⟨joint', s', rfl, rfl⟩ := writes_eatOp (d := '>') (by decide) (by decide) hclosing
  cases hpure
  refine ⟨rfl, joint, s, inner, ps, joint', s', ?_, by simp, hps⟩
  rw [hinner]
  simp

theorem generics?_sound (place : Place) {found : Generics}
    (h : generics? g ⟨ts, w, none⟩ = .ok (found, ⟨rest, w', none⟩)) :
    w' = w ∧ ∃ piece, ts = piece ++ rest ∧ GenericsIn place rest piece found := by
  obtain ⟨-, h⟩ | ⟨-, h⟩ := ite_taken (peek_taken h)
  · obtain ⟨rfl, joint, s, inner, ps, joint', s', rfl, rfl, hps⟩ :=
      angledParameters_sound (parameter_gives : GivesParam place (parameter g)) h
    exact ⟨rfl, _, rfl, .some hps⟩
  · cases h
    exact ⟨rfl, [], rfl, .none⟩

/-! ## Conditions -/

/-- A condition in front of `next`: what it is on, and the bounds that it gives. -/
inductive IsPredicate (place : Place) (next : List Tree) : List Tree → Predicate → Prop
  | mk {subject on joint s bounds text comma}
    (hsubject : Reset place (.punct ':' joint s :: bounds ++ next) subject on)
    (hcolon : endsOperator place ':' (bounds ++ next) = true)
    (hbounds : Reset place next bounds text) (hmatched : Matched subject)
    (hmatched' : Matched bounds) :
    IsPredicate place next (subject ++ .punct ':' joint s :: bounds)
      ⟨on ++ .punct ':' false s :: text, comma⟩

omit [g.Forward] [g.Resets] in
theorem colon_taken {α : Type} {x : Rule α} {y : Rule Unit} [∀ base, Rule.Forward base x]
    [∀ base, Rule.Resets place base x] [Rule.Matches x] [∀ base, Rule.Forward base y]
    [∀ base, Rule.Resets place base y] [Rule.Matches y] [Passes y] {text : List Tree}
    (hnext : endsOperator place ':' next = true) (h : Writes (do
      let _ ← x
      eatOp ":"
      y) next piece text) (comma : List Tree) : IsPredicate place next piece ⟨text, comma⟩ := by
  obtain ⟨u, h⟩ := h
  obtain ⟨a, subject, rest₁, w₁, hpiece, hx, hmore⟩ := bind_taken h
  obtain ⟨-, read, on, hread, rfl, hsubject⟩ := Rule.Resets.here place hx rfl
  obtain rfl : subject = read := List.append_cancel_right hread
  obtain ⟨v, c₁, hcolon, hy⟩ := bind_eq_ok.1 hmore
  obtain ⟨joint, s, ts, hts, rfl⟩ := (eatOp_one (d := ':') (by decide) (by decide)).1 hcolon
  obtain ⟨-, bounds, out, hbounds, hout, hreset⟩ := Rule.Resets.here place hy rfl
  obtain rfl : ts = bounds ++ next := hbounds
  obtain rfl : rest₁ = .punct ':' joint s :: (bounds ++ next) := hts
  obtain rfl : piece = subject ++ .punct ':' joint s :: bounds :=
    List.append_cancel_right (hpiece.trans (List.append_assoc subject (_ :: bounds) next).symm)
  obtain rfl : text = on ++ .punct ':' false s :: out := by simpa using congrArg List.reverse hout
  exact .mk hsubject (Passes.ends hy hnext) hreset (Matches.read hx) (Matches.read hy)

theorem predicate_taken {text : List Tree} (hnext : endsOperator place ':' next = true)
    (h : Writes (predicate g) next piece text) (comma : List Tree) :
    IsPredicate place next piece ⟨text, comma⟩ := by
  obtain ⟨u, h⟩ := h
  unfold predicate at h
  replace h := peek_taken h
  rw [run_bind, run_peek2, andThen_ok] at h
  obtain ⟨-, h⟩ | ⟨-, h⟩ := ite_taken h
  · exact colon_taken hnext ⟨u, h⟩ comma
  · have hassoc : (do
        let _ ← (do
          let _ ← binder? g
          g.type true)
        eatOp ":"
        boundsUntil (bound g false true) do
          return (← atEnd) || (← peekAny [brace, op ",", op ";", op "="]) ||
            ((← peek (op ":")) && !(← peek (op "::"))) : Rule Unit) ⟨piece ++ next, [], none⟩ =
        .ok (u, ⟨next, text.reverse, none⟩) := by
      rw [bind_assoc]
      exact h
    exact colon_taken hnext ⟨u, hassoc⟩ comma

/-- The conditions in front of `next`: nothing, or a list of them after `where`. -/
inductive WhereIn (place : Place) (next : List Tree) : List Tree → Option Where → Prop
  | none : WhereIn place next [] none
  | some {k ts ps} (hk : k.isWord "where" = true)
    (h : Listing Predicate.comma (IsPredicate place) next ts ps) :
    WhereIn place next (.ident k :: ts) (some ⟨[.ident k], ps⟩)

/-- One round of `whereClause`. -/
def conditionRound (g : Rules) (found : List Predicate) : Rule (Progress (List Predicate)) := do
  if (← atEnd) || (← peekAny [brace, op ",", op ";", op "="]) ||
      ((← peek (op ":")) && !(← peek (op "::"))) then
    return .done found
  let text ← held (predicate g)
  if ← peek (op ",") then return .again (⟨text, ← held (eatOp ",")⟩ :: found)
  else return .done (⟨text, []⟩ :: found)

instance conditionRound_forward (base : Cursor) (found : List Predicate) :
    Rule.Forward base (conditionRound g found) := by
  unfold conditionRound; infer_instance

theorem conditionRound_listing (place : Place) :
    ListingRound Predicate.comma
      (fun next piece q => endsOperator place ':' next = true → IsPredicate place next piece q)
      (conditionRound g) := by
  intro found step ts rest w w' h
  unfold conditionRound at h
  rw [run_bind, run_atEnd, andThen_ok, run_bind, run_peekAny, andThen_ok] at h
  obtain ⟨-, h⟩ | ⟨-, h⟩ := ite_taken (peek_taken (peek_taken h))
  · cases h
    exact ⟨rfl, .inl ⟨rfl, rfl⟩⟩
  obtain ⟨text, piece, rest₁, rfl, htext, hmore⟩ := held_taken h
  obtain ⟨-, hmore⟩ | ⟨-, hmore⟩ := ite_taken (peek_taken hmore)
  · obtain ⟨comma, cs, rest₂, rfl, hcomma, hpure⟩ := held_taken hmore
    obtain ⟨joint, s, rfl, rfl⟩ := writes_eatOp (d := ',') (by decide) (by decide) hcomma
    cases hpure
    exact ⟨rfl, .inr (.inr ⟨piece, _, joint, s, rfl, rfl, (predicate_taken · htext _), rfl⟩)⟩
  · cases hmore
    exact ⟨rfl, .inr (.inl ⟨piece, _, rfl, rfl, (predicate_taken · htext _), rfl⟩)⟩

omit [g.Forward] [g.Resets] in
theorem listing_predicates {qs : List Predicate} (hnext : endsOperator place ':' next = true)
    (h : Listing Predicate.comma
      (fun next piece q => endsOperator place ':' next = true → IsPredicate place next piece q)
      next ts qs) : Listing Predicate.comma (IsPredicate place) next ts qs := by
  induction h with
  | nil => exact .nil
  | last hq hcomma => exact .last (hq hnext) hcomma
  | more hq hcomma _ ih => exact .more (hq (by cases place <;> rfl)) hcomma ih

set_option synthInstance.maxSize 2000 in
theorem conditions_none
    (h : iterate [] (conditionRound g) ⟨ts, w, none⟩ = .ok ([], ⟨rest, w', none⟩)) :
    endsConditions rest = true := by
  obtain ⟨step, zs, rest₁, w₁, rfl, hstep, hmore⟩ := iterateFor_taken h
  unfold conditionRound at hstep
  rw [run_bind, run_atEnd, andThen_ok, run_bind, run_peekAny, andThen_ok] at hstep
  obtain ⟨hends, hstep⟩ | ⟨-, hstep⟩ := ite_taken (peek_taken (peek_taken hstep))
  · simp only [run_pure, Except.ok.injEq, Prod.mk.injEq, Cursor.mk.injEq] at hstep
    obtain ⟨rfl, hstay, -⟩ := hstep
    obtain ⟨-, rfl, -⟩ | ⟨s', hagain, -⟩ := hmore
    · simp only [hstay, List.any_cons, List.any_nil, op_test, brace_test] at hends
      simp only [endsConditions]
      grind
    · cases hagain
  obtain ⟨text, piece, rest₂, -, -, hstep⟩ := held_taken hstep
  obtain ⟨-, hstep⟩ | ⟨-, hstep⟩ := ite_taken (peek_taken hstep)
  · obtain ⟨comma, cs, rest₃, -, -, hpure⟩ := held_taken hstep
    cases hpure
    obtain ⟨hdone, -, -⟩ | ⟨s', hagain, hmore⟩ := hmore
    · cases hdone
    cases hagain
    obtain ⟨-, front, bs, -, hout, -⟩ :=
      iterateFor_listing (conditionRound_listing .type) hmore
    simp at hout
  · cases hstep
    obtain ⟨hdone, -, -⟩ | ⟨s', hagain, -⟩ := hmore
    · cases hdone
    · cases hagain

set_option synthInstance.maxSize 2000 in
theorem whereClause_sound (place : Place) {clause : Where} (hrest : endsOperator place ':' rest = true)
    (h : whereClause g ⟨ts, w, none⟩ = .ok (clause, ⟨rest, w', none⟩)) :
    w' = clause.text.reverse ++ w ∧ ∃ piece, ts = piece ++ rest ∧ WhereIn place rest piece (some clause) ∧
      (clause.predicates = [] → endsConditions rest = true) := by
  unfold whereClause at h
  obtain ⟨keyword, ks, rest₁, rfl, hkeyword, hlist⟩ := held_taken h
  obtain ⟨k, hk, rfl, rfl⟩ := writes_eatWord hkeyword
  unfold peekGenerics at hlist
  rw [run_bind, run_bind, run_trees, andThen_ok, run_pure, andThen_ok] at hlist
  obtain ⟨-, hlist⟩ | ⟨-, hlist⟩ := ite_taken hlist
  · cases hlist
  obtain ⟨out, zs, rest₂, w₂, rfl, hout, hwrite⟩ := bind_taken hlist
  obtain ⟨rfl, front, ps, hfront, rfl, hps⟩ :=
    iterateFor_listing (conditionRound_listing place) hout
  rw [run_bind, run_write, andThen_ok] at hwrite
  cases hwrite
  refine ⟨by simp, .ident k :: front, ?_, ?_, ?_⟩
  · rw [hfront]
    rfl
  · simpa using WhereIn.some hk (listing_predicates hrest hps)
  · intro hnone
    obtain rfl : ps = [] := by simpa using hnone
    exact conditions_none hout

end Sound

/-! ## Parameters and conditions are set anew -/

section Resets

variable {place : Place} {base : Cursor} {next ts : List Tree}

theorem IsPredicate.reset {piece : List Tree} {q : Predicate} (h : IsPredicate place next piece q) :
    Reset place next piece q.text := by
  cases h with
  | mk hsubject hcolon hbounds _ _ => exact hsubject.append (.append (.spacing ':' _ _ hcolon) hbounds)

instance bounds_resets {r : Rule Unit} [∀ base, Rule.Forward base r]
    [∀ base, Rule.Resets place base r] [Rule.Matches r] [Opens r] [Bounding r] :
    Rule.Resets place base (boundsAfterColon r >>= write) := by
  refine .of_taken fun h => ?_
  obtain ⟨text, zs, rest₁, w₁, rfl, hbounds, hwrite⟩ := bind_taken h
  obtain ⟨rfl, piece, hpiece, hin⟩ := boundsAfterColon_sound place hbounds
  cases hwrite
  exact ⟨piece, text, hpiece, rfl, hin.reset⟩

variable (g : Rules) [g.Forward] [g.Resets]

instance binderRule_resets : Rule.Resets place base (binderRule g) := by
  have hangled : Rule.Resets place base (do
      let found ← angledParameters (boundParameter g)
      let params := found.params.flatMap fun p => p.declared ++ p.fallback ++ p.comma
      write (found.opening ++ params ++ found.closing)) := by
    refine .of_taken fun {ts rest w w' a} h => ?_
    obtain ⟨found, zs, rest₁, w₁, rfl, hfound, hwrite⟩ := bind_taken h
    obtain ⟨rfl, joint, s, inner, ps, joint', s', hts, rfl, hps⟩ :=
      angledParameters_sound (boundParameter_gives : GivesParam place (boundParameter g)) hfound
    rw [run_write] at hwrite
    cases hwrite
    refine ⟨_, _, hts, rfl, ?_⟩
    exact .append (.append (.spacing '<' joint s (endsOperator_of (by decide))) (hps.reset IsParam.reset))
      (.spacing '>' joint' s' (endsOperator_of (by decide)))
  unfold binderRule
  exact bind_resets

instance generics_resets : Rule.Resets .code base (generics g) := by
  refine .of_taken fun h => ?_
  obtain ⟨found, zs, rest₁, w₁, rfl, hfound, hwrite⟩ := bind_taken h
  obtain ⟨rfl, piece, hpiece, hin⟩ := generics?_sound .code hfound
  rw [run_bind, run_write, andThen_ok] at hwrite
  cases hwrite
  refine ⟨piece, _, hpiece, rfl, ?_⟩
  cases hin with
  | none => exact .same []
  | @some joint s ts ps joint' s' hps =>
    unfold Generics.text Generics.angled
    dsimp only
    split
    · next hnone =>
      obtain rfl := List.isEmpty_iff.1 hnone
      cases hps
      exact .noParameters joint joint' s s'
    · obtain ⟨pieces, hreset, hmatched, hpieces, hout⟩ :=
        hps.arranged (f := fun p => ⟨p.kind == .lifetime, p.declared ++ p.fallback, p.comma⟩)
          (fun _ => rfl) fun hp => ⟨hp.reset, hp.matched, hp.first⟩
      exact .parameters hreset hmatched hpieces hout

instance whereClause_resets : Rule.Resets .code base (whereClause g) := by
  refine .of_taken fun h => ?_
  obtain ⟨rfl, piece, rfl, hin, hends⟩ := whereClause_sound .code rfl h
  refine ⟨piece, _, rfl, rfl, ?_⟩
  cases hin with
  | @some k ts qs hk hqs =>
    unfold Where.text
    dsimp only at hends ⊢
    split
    · next hnone =>
      obtain rfl := List.isEmpty_iff.1 hnone
      cases hqs
      exact .noConditions hk (hends rfl)
    · exact .append (.same [.ident k]) (hqs.reset IsPredicate.reset)

instance whereClause?_resets : Rule.Resets .code base (whereClause? g) := by
  unfold whereClause?; infer_instance

end Resets

end FetchKit.Grammar
