import FetchKit.Proofs.Grammar.Setting
import FetchKit.Proofs.Grammar.Taking

/-!
# Rules that set trees anew

A rule writes the trees it read, set anew. This is shown for each rule from the rules it is made of.
-/

namespace FetchKit.Grammar

open FetchKit.Source Rule

namespace Rule

variable {α β σ : Type} {place : Place} {base : Cursor}

/-- Coming from `base` to `c`, the trees in between were written again, set anew. -/
def Anew (place : Place) (base c : Cursor) : Prop :=
  c.leftover = none → base.leftover = none ∧ ∃ read out,
    base.rest = read ++ c.rest ∧ c.written = out.reverse ++ base.written ∧ Reset place c.rest read out

theorem Anew.refl (c : Cursor) : Anew place c c :=
  fun hl => ⟨hl, [], [], rfl, rfl, .same []⟩

theorem Anew.trans {c c' : Cursor} (h : Anew place base c) (h' : Anew place c c') :
    Anew place base c' := by
  intro hl
  obtain ⟨hl₁, read', out', hread', hout', hreset'⟩ := h' hl
  obtain ⟨hl₂, read, out, hread, hout, hreset⟩ := h hl₁
  refine ⟨hl₂, read ++ read', out ++ out', ?_, ?_, .append (hread' ▸ hreset) hreset'⟩
  · rw [hread, hread', List.append_assoc]
  · rw [hout', hout, List.reverse_append, List.append_assoc]

theorem Anew.of_same {c : Cursor} (read : List Tree) {rest : List Tree} (hread : c.rest = read ++ rest) :
    Anew place c { c with rest, written := read.reverse ++ c.written } :=
  fun hl => ⟨hl, read, read, hread, rfl, .same read⟩

/-- What the rule writes are the trees it read, set anew. As with `Forward`, `base` is a cursor that
the rule may go back to. -/
class Resets {α : Type} (place : Place) (base : Cursor) (r : Rule α) : Prop where
  step : ∀ {c a c'}, Anew place base c → r c = .ok (a, c') → Anew place base c'

theorem Resets.of_here {r : Rule α} (h : ∀ {c a c'}, r c = .ok (a, c') → Anew place c c') :
    Resets place base r := ⟨fun hb hr => hb.trans (h hr)⟩

theorem Resets.here (place : Place) {r : Rule α} [h : ∀ base, Resets place base r] {c c' : Cursor}
    {a : α} (hr : r c = .ok (a, c')) : Anew place c c' := (h c).step (.refl c) hr

theorem Resets.of_taken {r : Rule α} [hr : ∀ base, Forward base r]
    (h : ∀ {ts rest w w' a}, r ⟨ts, w, none⟩ = .ok (a, ⟨rest, w', none⟩) → ∃ read out,
      ts = read ++ rest ∧ w' = out.reverse ++ w ∧ Reset place rest read out) :
    Resets place base r := by
  refine .of_here fun {c a c'} h' hl => ?_
  obtain ⟨ts, w, l⟩ := c
  obtain ⟨rest, w', l'⟩ := c'
  obtain rfl : l' = none := hl
  obtain rfl : l = none := ((hr _).step (.refl _) h').noted rfl
  exact ⟨rfl, h h'⟩

theorem Writes.reset {r : Rule α} [∀ base, Resets place base r] {next piece text : List Tree}
    (h : Writes r next piece text) : Reset place next piece text := by
  obtain ⟨a, h⟩ := h
  obtain ⟨-, read, out, hread, hout, hreset⟩ := Resets.here place h rfl
  obtain rfl : piece = read := List.append_cancel_right hread
  obtain rfl : text = out := by simpa using hout
  exact hreset

/-! ### Sequences of steps -/

instance bind_resets {x : Rule α} {f : α → Rule β} [hx : Resets place base x]
    [hf : ∀ a, Resets place base (f a)] : Resets place base (x >>= f) := by
  refine ⟨fun hb h => ?_⟩
  obtain ⟨a, c₁, h₁, h₂⟩ := bind_eq_ok.1 h
  exact (hf a).step (hx.step hb h₁) h₂

instance (priority := high) bind_pair_resets {γ : Type} {x : Rule (α × γ)} {f : α × γ → Rule β}
    [Resets place base x] [hf : ∀ a b, Resets place base (f (a, b))] :
    Resets place base (x >>= f) := by
  have : ∀ p, Resets place base (f p) := fun p => hf p.1 p.2
  exact bind_resets

instance (priority := high) bind_option_resets {x : Rule (Option α)} {f : Option α → Rule β}
    [Resets place base x] [hn : Resets place base (f none)]
    [hs : ∀ a, Resets place base (f (some a))] : Resets place base (x >>= f) := by
  have : ∀ o, Resets place base (f o) := by
    intro o
    cases o with
    | none => exact hn
    | some a => exact hs a
  exact bind_resets

instance ite_resets {p : Prop} [Decidable p] {x y : Rule α} [hx : Resets place base x]
    [hy : Resets place base y] : Resets place base (if p then x else y) := by
  split
  · exact hx
  · exact hy

/-- A cursor that a rule may go back to. -/
class Since (place : Place) (base c : Cursor) : Prop where
  anew : Anew place base c

instance set_resets (c : Cursor) [hc : Since place base c] :
    Resets place base (set c : Rule PUnit) := by
  refine ⟨fun _ h => ?_⟩
  cases h
  exact hc.anew

instance (priority := high) get_bind_resets {f : Cursor → Rule β}
    [hf : ∀ c [Since place base c], Resets place base (f c)] :
    Resets place base ((get : Rule Cursor) >>= f) := by
  refine ⟨fun {c _ _} hb h => ?_⟩
  rw [run_bind, run_get, andThen_ok] at h
  have := Since.mk hb
  exact (hf c).step hb h

/-! ### Looking ahead -/

/-- The rule only looks. -/
class Still (r : Rule α) : Prop where
  step : ∀ {c a c'}, r c = .ok (a, c') → c' = c

theorem Still.resets {r : Rule α} (hr : Still r) : Resets place base r := by
  refine ⟨fun hb h => ?_⟩
  obtain rfl := hr.step h
  exact hb

theorem Still.of_look {r : Rule α} (f : List Tree → α) (h : ∀ c, r c = .ok (f c.rest, c)) :
    Still r := by
  refine ⟨fun {c a c'} hr => ?_⟩
  rw [h] at hr
  cases hr
  rfl

instance pure_still (a : α) : Still (pure a : Rule α) := .of_look (fun _ => a) fun _ => rfl
instance trees_still : Still trees := .of_look id run_trees
instance atEnd_still : Still atEnd := .of_look List.isEmpty run_atEnd
instance peek_still (p : Probe) : Still (peek p) := .of_look p.test (run_peek p)
instance peek2_still (p : Probe) : Still (peek2 p) := .of_look (fun ts => p.test (skip 1 ts)) (run_peek2 p)
instance peek3_still (p : Probe) : Still (peek3 p) := .of_look (fun ts => p.test (skip 2 ts)) (run_peek3 p)
instance peekAny_still (ps : List Probe) : Still (peekAny ps) :=
  .of_look (fun ts => ps.any (·.test ts)) (run_peekAny ps)

instance fail_still (e : Complaint) : Still (fail e : Rule α) := by
  refine ⟨fun h => ?_⟩
  cases h

instance wouldRead_still (r : Rule α) : Still (wouldRead r) := by
  refine ⟨fun h => ?_⟩
  unfold wouldRead at h
  split at h
  · cases h
    rfl
  · cases h
    rfl

instance bind_still {x : Rule α} {f : α → Rule β} [hx : Still x] [hf : ∀ a, Still (f a)] :
    Still (x >>= f) := by
  refine ⟨fun h => ?_⟩
  obtain ⟨a, c₁, h₁, h₂⟩ := bind_eq_ok.1 h
  exact ((hf a).step h₂).trans (hx.step h₁)

instance ite_still {p : Prop} [Decidable p] {x y : Rule α} [hx : Still x] [hy : Still y] :
    Still (if p then x else y) := by
  split
  · exact hx
  · exact hy

instance unmet_still (ps : List Probe) : Still (unmet ps : Rule α) := by
  unfold unmet; infer_instance
instance complain_still (text : String) : Still (complain text : Rule α) := by
  unfold complain; infer_instance

instance pure_resets (a : α) : Resets place base (pure a : Rule α) := (pure_still a).resets
instance trees_resets : Resets place base trees := trees_still.resets
instance atEnd_resets : Resets place base atEnd := atEnd_still.resets
instance peek_resets (p : Probe) : Resets place base (peek p) := (peek_still p).resets
instance peek2_resets (p : Probe) : Resets place base (peek2 p) := (peek2_still p).resets
instance peek3_resets (p : Probe) : Resets place base (peek3 p) := (peek3_still p).resets
instance peekAny_resets (ps : List Probe) : Resets place base (peekAny ps) := (peekAny_still ps).resets
instance fail_resets (e : Complaint) : Resets place base (fail e : Rule α) := (fail_still e).resets
instance wouldRead_resets (r : Rule α) : Resets place base (wouldRead r) := (wouldRead_still r).resets
instance unmet_resets (ps : List Probe) : Resets place base (unmet ps : Rule α) :=
  (unmet_still ps).resets
instance complain_resets (text : String) : Resets place base (complain text : Rule α) :=
  (complain_still text).resets

/-! ### Taking trees -/

theorem setOperator_eq {cs : List Char} {ts : List Tree} (h : startsOperator cs ts = true)
    (hcs : cs ≠ []) : ∃ front c joint s, ts.take cs.length = front ++ [.punct c joint s] ∧
      setOperator (front ++ [.punct c joint s]) = front ++ [.punct c false s] ∧
      startsOperator cs (front ++ [.punct c joint s]) = true ∧ cs.length = front.length + 1 ∧
      cs.getLast? = some c ∧ c ≠ '\'' := by
  fun_induction startsOperator cs ts with
  | case1 => exact absurd rfl hcs
  | case2 c d joint s ts =>
    obtain ⟨hd, hquote⟩ := Bool.and_eq_true_iff.1 h
    obtain rfl : c = d := eq_of_beq hd
    exact ⟨[], c, joint, s, rfl, rfl, by simpa [startsOperator] using h, rfl, rfl, bne_iff_ne.1 hquote⟩
  | case3 c cs d joint s ts hne ih =>
    simp only [Bool.and_eq_true] at h
    obtain ⟨⟨hd, rfl⟩, hmore⟩ := h
    obtain rfl : c = d := eq_of_beq hd
    obtain ⟨front, e, joint', s', htake, hset, hstarts, hlength, hlast, hquote⟩ := ih hmore hne
    obtain ⟨d, cs, rfl⟩ := List.exists_cons_of_ne_nil hne
    refine ⟨.punct c true s :: front, e, joint', s', by simpa using htake, ?_, ?_, by simpa using hlength,
      by simpa using hlast, hquote⟩
    · rw [List.cons_append, List.cons_append, ← hset]
      cases front <;> rfl
    · simpa [startsOperator] using hstarts
  | case4 => cases h

/-- In this place the operator is set anew wherever it is read. -/
class Settable (place : Place) (s : String) : Prop where
  step : ∀ {ts}, startsOperator s.toList ts = true → ∀ next,
    Reset place next (ts.take s.toList.length) (setOperator (ts.take s.toList.length))

instance settable_code (s : String) : Settable .code s := by
  refine ⟨fun {ts} hstarts next => ?_⟩
  by_cases hs : s.toList = []
  · rw [hs]
    exact .same []
  obtain ⟨front, c, joint, span, htake, hset, -, -, -, hquote⟩ := setOperator_eq hstarts hs
  rw [htake, hset]
  exact .append (.same front) (.spacing c joint span (by simp [endsOperator, hquote]))

theorem settable_char {s : String} {c : Char} (hs : s.toList = [c])
    (hc : c ≠ ':' ∧ c ≠ '-' ∧ c ≠ '.' ∧ c ≠ '\'') : Settable place s := by
  refine ⟨fun {ts} hstarts next => ?_⟩
  rw [hs] at hstarts ⊢
  obtain ⟨joint, span, us, rfl⟩ := startsOperator_one hstarts
  exact .spacing c joint span (endsOperator_of hc)

theorem settable_operator {s : String} (hs : s ∈ ["::", "->", "..."]) : Settable place s := by
  refine ⟨fun {ts} hstarts next => ?_⟩
  have hne : s.toList ≠ [] := by
    rintro hempty
    obtain rfl := String.toList_eq_nil_iff.1 hempty
    exact absurd hs (by decide)
  obtain ⟨front, c, joint, span, htake, hset, hstarts', hlength, -, -⟩ := setOperator_eq hstarts hne
  rw [htake, hset]
  exact .operator s hs hlength hstarts'

instance : Settable place "#" := settable_char rfl (by decide)
instance : Settable place "," := settable_char rfl (by decide)
instance : Settable place ";" := settable_char rfl (by decide)
instance : Settable place "+" := settable_char rfl (by decide)
instance : Settable place "*" := settable_char rfl (by decide)
instance : Settable place "&" := settable_char rfl (by decide)
instance : Settable place "!" := settable_char rfl (by decide)
instance : Settable place "?" := settable_char rfl (by decide)
instance : Settable place "=" := settable_char rfl (by decide)
instance : Settable place "<" := settable_char rfl (by decide)
instance : Settable place ">" := settable_char rfl (by decide)
instance : Settable place "::" := settable_operator (by decide)
instance : Settable place "->" := settable_operator (by decide)
instance : Settable place "..." := settable_operator (by decide)

instance eatOp_resets (s : String) [hs : Settable place s] : Resets place base (eatOp s) := by
  refine .of_here fun {c a c'} h hl => ?_
  rw [run_eatOp] at h
  split at h
  · next hstarts =>
    cases h
    exact ⟨hl, c.rest.take s.toList.length, _, (List.take_append_drop ..).symm, rfl,
      hs.step hstarts _⟩
  · cases h

instance eatWord_resets (w : String) : Resets place base (eatWord w) := by
  refine .of_here fun h => ?_
  obtain ⟨i, ts, -, hc, rfl⟩ := eatWord_eq_ok.1 h
  exact .of_same [.ident i] hc

instance eatName_resets : Resets place base eatName := by
  refine .of_here fun h => ?_
  obtain ⟨-, ts, hc, rfl⟩ := eatName_eq_ok.1 h
  exact .of_same [.ident _] hc

instance eatAnyIdent_resets : Resets place base eatAnyIdent := by
  refine .of_here fun h => ?_
  obtain ⟨ts, hc, rfl⟩ := eatAnyIdent_eq_ok.1 h
  exact .of_same [.ident _] hc

instance eatLifetime_resets : Resets place base eatLifetime := by
  refine .of_here fun h => ?_
  obtain ⟨s, i, ts, hc, rfl⟩ := eatLifetime_eq_ok h
  exact .of_same [.punct '\'' true s, .ident i] hc

instance eatLiteral_resets : Resets place base eatLiteral := by
  refine .of_here fun {c a c'} h => ?_
  obtain ⟨ts, w, l⟩ := c
  rw [eatLiteral, run_bind, run_trees, andThen_ok] at h
  dsimp only at h
  split at h
  · next text s ts =>
    cases h
    exact .of_same [.literal text s] rfl
  · next i ts =>
    rw [run_ite] at h
    split at h
    · cases h
      exact .of_same [.ident i] rfl
    · cases h
  · next joint s text t ts =>
    rw [run_ite] at h
    split at h
    · cases h
      exact fun hl => ⟨hl, [.punct '-' joint s] ++ [.literal text t], [.punct '-' false s] ++
        [.literal text t], rfl, rfl, .append (.spacing '-' joint s (by cases place <;> rfl)) (.same _)⟩
    · cases h
  · cases h

instance eatGroup_resets : Resets place base eatGroup := by
  refine .of_here fun {c a c'} h => ?_
  obtain ⟨ts, w, l⟩ := c
  rw [eatGroup, run_bind, run_trees, andThen_ok] at h
  dsimp only at h
  split at h
  · next d content s ts =>
    cases h
    exact .of_same [.group a content s] rfl
  · cases h

instance eatRest_resets : Resets place base eatRest := by
  refine .of_here fun {c a c'} h => ?_
  rw [eatRest, run_bind, run_trees, andThen_ok, run_advance] at h
  cases h
  exact .of_same c.rest (List.append_nil _).symm

instance eatOp?_resets (s : String) [Settable place s] : Resets place base (eatOp? s) := by
  unfold eatOp?; infer_instance
instance eatWord?_resets (w : String) : Resets place base (eatWord? w) := by
  unfold eatWord?; infer_instance
instance eatLifetime?_resets : Resets place base eatLifetime? := by
  unfold eatLifetime?; infer_instance

/-! ### Groups -/

theorem enter_anew (inner : Place) {d : Delimiter} {body : Rule α} [∀ base, Resets inner base body]
    {c c' : Cursor} {a : α} (h : enter d body c = .ok ((a, none), c')) (hl : c'.leftover = none) :
    ∃ content s ts out w, c = ⟨.group d content s :: ts, w, none⟩ ∧
      c' = ⟨ts, .group d out s :: w, none⟩ ∧
      body ⟨content, [], none⟩ = .ok (a, ⟨[], out.reverse, none⟩) ∧ Reset inner [] content out := by
  obtain ⟨content, s, ts, ⟨rest, written, l⟩, hc, hinner, hmissed, rfl⟩ := enter_eq_ok.1 h
  obtain rfl : l = none := hl
  obtain ⟨hleft, read, out, hread, hout, hreset⟩ := Resets.here inner hinner rfl
  obtain rfl : rest = [] := by
    cases hr : rest with
    | nil => rfl
    | cons t ts => simp [hr] at hmissed
  obtain ⟨ts', w, l'⟩ := c
  obtain rfl : ts' = _ := hc
  obtain rfl : l' = none := hleft
  obtain rfl : content = read := by simpa using hread
  obtain rfl : written = out.reverse := by simpa using hout
  exact ⟨content, s, ts, out, w, rfl, by simp, hinner, hreset⟩

theorem within_anew (inner : Place) {d : Delimiter} {body : Rule α} [∀ base, Resets inner base body]
    {c c' : Cursor} {a : α} (h : within d body c = .ok (a, c')) (hl : c'.leftover = none) :
    ∃ content s ts out w, c = ⟨.group d content s :: ts, w, none⟩ ∧
      c' = ⟨ts, .group d out s :: w, none⟩ ∧
      body ⟨content, [], none⟩ = .ok (a, ⟨[], out.reverse, none⟩) ∧ Reset inner [] content out := by
  obtain ⟨⟨b, missed⟩, c₁, henter, h⟩ := bind_eq_ok.1 h
  simp only [run_bind, run_leave, andThen_ok, run_pure, Except.ok.injEq, Prod.mk.injEq] at h
  obtain ⟨rfl, rfl⟩ := h
  obtain ⟨hl₁, rfl⟩ := Option.or_eq_none_iff.1 hl
  obtain ⟨content, s, ts, out, w, rfl, rfl, hbody, hreset⟩ := enter_anew inner henter hl₁
  exact ⟨content, s, ts, out, w, rfl, rfl, hbody, hreset⟩

instance within_resets (d : Delimiter) (body : Rule α) [∀ base, Resets place base body] :
    Resets place base (within d body) := by
  refine .of_here fun h hl => ?_
  obtain ⟨content, s, ts, out, w, rfl, rfl, -, hreset⟩ := within_anew place h hl
  exact ⟨rfl, [_], [_], rfl, rfl, .group d s hreset⟩

/-- The rule notes this in the end. -/
class Leaves (missed : Option Delimiter) (r : Rule β) : Prop where
  step : ∀ {c b c'}, r c = .ok (b, c') → c'.leftover = none → missed = none

instance leave_leaves (missed : Option Delimiter) : Leaves missed (leave missed) := by
  refine ⟨fun h hl => ?_⟩
  cases h
  exact (Option.or_eq_none_iff.1 hl).2

instance bind_leaves {missed : Option Delimiter} {x : Rule α} {f : α → Rule β}
    [hf : ∀ a, Leaves missed (f a)] : Leaves missed (x >>= f) := by
  refine ⟨fun h hl => ?_⟩
  obtain ⟨a, c₁, -, h⟩ := bind_eq_ok.1 h
  exact (hf a).step h hl

instance leaves_bind {missed : Option Delimiter} {x : Rule α} {f : α → Rule β}
    [hx : Leaves missed x] [hf : ∀ a, Still (f a)] : Leaves missed (x >>= f) := by
  refine ⟨fun h hl => ?_⟩
  obtain ⟨a, c₁, h₁, h₂⟩ := bind_eq_ok.1 h
  obtain rfl := (hf a).step h₂
  exact hx.step h₁ hl

instance ite_leaves {missed : Option Delimiter} {p : Prop} [Decidable p] {x y : Rule β}
    [hx : Leaves missed x] [hy : Leaves missed y] : Leaves missed (if p then x else y) := by
  split
  · exact hx
  · exact hy

instance leave_resets : Resets place base (leave none) := by
  refine .of_here fun {c a c'} h => ?_
  cases h
  intro hl
  simp only [Option.or_none] at hl
  exact Anew.refl c hl

theorem enter_resets_of {d : Delimiter} {body : Rule α} [∀ base, Resets place base body]
    {f : α × Option Delimiter → Rule β} [hforward : ∀ p base, Forward base (f p)]
    (hleaves : ∀ a missed, Leaves missed (f (a, missed)))
    (hf : ∀ {content s ts out w a b c'}, Reset place [] content out →
      body ⟨content, [], none⟩ = .ok (a, ⟨[], out.reverse, none⟩) →
      f (a, none) ⟨ts, .group d out s :: w, none⟩ = .ok (b, c') →
      Anew place ⟨.group d content s :: ts, w, none⟩ c') :
    Resets place base (enter d body >>= f) := by
  refine .of_here fun {c y c'} h hl => ?_
  obtain ⟨⟨a, missed⟩, c₁, henter, h₁⟩ := bind_eq_ok.1 h
  obtain rfl := (hleaves a missed).step h₁ hl
  have hl₁ := ((hforward _ c₁).step (.refl c₁) h₁).noted hl
  obtain ⟨content, s, ts, out, w, rfl, rfl, hbody, hreset⟩ := enter_anew place henter hl₁
  exact hf hreset hbody h₁ hl

theorem Anew.of_group {d : Delimiter} {content out ts w : List Tree} (s : Span)
    (h : Reset place [] content out) :
    Anew place ⟨.group d content s :: ts, w, none⟩ ⟨ts, .group d out s :: w, none⟩ :=
  fun _ => ⟨rfl, [_], [_], rfl, rfl, .group d s h⟩

theorem enter_resets {d : Delimiter} {body : Rule α} [∀ base, Resets place base body]
    {f : α × Option Delimiter → Rule β} [∀ p base, Forward base (f p)]
    (hf : ∀ a base, Resets place base (f (a, none)))
    (hleaves : ∀ a missed, Leaves missed (f (a, missed))) :
    Resets place base (enter d body >>= f) :=
  enter_resets_of hleaves fun hreset _ h => (hf _ _).step (.of_group _ hreset) h

/-! ### Loops and what is kept -/

theorem run_capture (r : Rule α) {c c' : Cursor} {a : α} {text : List Tree}
    (h : capture r c = .ok ((a, text), c')) : ∃ inner,
      r { c with written := [] } = .ok (a, inner) ∧ text = inner.written.reverse ∧
        c' = { inner with written := inner.written ++ c.written } := by
  unfold capture at h
  split at h
  · cases h
  · next hinner =>
    cases h
    exact ⟨_, hinner, rfl, rfl⟩

instance capture_resets (r : Rule α) [∀ base, Resets place base r] :
    Resets place base (capture r) := by
  refine .of_here fun {c a c'} h hl => ?_
  obtain ⟨inner, hinner, -, rfl⟩ := run_capture r h
  obtain ⟨hleft, read, out, hread, hout, hreset⟩ := Resets.here place hinner hl
  exact ⟨hleft, read, out, hread, by simp [hout], hreset⟩

instance attempt_resets (r : Rule α) [hr : Resets place base r] :
    Resets place base (attempt r) := by
  refine ⟨fun hb h => ?_⟩
  unfold attempt at h
  split at h
  · next hi =>
    cases h
    exact hr.step hb hi
  · cases h
    exact hb

theorem keeping_eq_ok {r : Rule (Kept α)} {c c' : Cursor} {a : α} (h : keeping r c = .ok (a, c')) :
    ∃ kept inner, r { c with written := [] } = .ok (⟨a, kept⟩, inner) ∧
      c' = { inner with written := (if kept then
        (c.rest.take (c.rest.length - inner.rest.length)).reverse else inner.written) ++ c.written } := by
  unfold keeping at h
  split at h
  · cases h
  · next hinner =>
    cases h
    exact ⟨_, _, hinner, rfl⟩

instance keeping_resets (r : Rule (Kept α)) [∀ base, Resets place base r] :
    Resets place base (keeping r) := by
  refine .of_here fun {c a c'} h hl => ?_
  obtain ⟨kept, inner, hinner, rfl⟩ := keeping_eq_ok h
  obtain ⟨hleft, read, out, hread, hout, hreset⟩ := Resets.here place hinner hl
  dsimp only at hread hout ⊢
  rw [hread]
  cases kept with
  | true => exact ⟨hleft, read, read, rfl, by simp, .same read⟩
  | false => exact ⟨hleft, read, out, rfl, by simp [hout], hreset⟩

instance asWritten_resets (r : Rule α) [∀ base, Resets place base r] :
    Resets place base (asWritten r) := by
  unfold asWritten; infer_instance

instance iterateFor_resets (n : Nat) (s : σ) (body : σ → Rule (Progress σ))
    [hb : ∀ s, Resets place base (body s)] : Resets place base (iterateFor n s body) := by
  induction n generalizing s with
  | zero => exact pure_resets s
  | succ n ih =>
    have hnext : ∀ p : Progress σ,
        Resets place base (match p with | .done s => pure s | .again s => iterateFor n s body) := by
      intro p
      cases p with
      | done s => exact pure_resets s
      | again s => exact ih s
    have := hb s
    exact bind_resets

instance iterate_resets (s : σ) (body : σ → Rule (Progress σ)) [∀ s, Resets place base (body s)] :
    Resets place base (iterate s body) := by
  unfold iterate; infer_instance
instance loop_resets (body : Rule Bool) [Resets place base body] :
    Resets place base (loop body) := by
  unfold loop; infer_instance
instance terminated_resets (item : Rule α) [Resets place base item] :
    Resets place base (terminated item) := by
  unfold terminated; infer_instance
instance untilEnd_resets (item : Rule α) [Resets place base item] :
    Resets place base (untilEnd item) := by
  unfold untilEnd; infer_instance

end Rule

end FetchKit.Grammar
