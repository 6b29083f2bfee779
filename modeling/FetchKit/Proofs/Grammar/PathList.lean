import FetchKit.Proofs.Grammar.Forward

/-!
# Lists of paths

A list with commas is read item by item to the end of its group, and no round of the loop is wasted:
each takes a comma. For paths the places of what is written are those of what was read.
-/

namespace FetchKit.Grammar

open FetchKit.Source

namespace Rule

variable {α β σ : Type}

/-! ## Operators of one character -/

theorem eatOp_one {s : String} {d : Char} (hs : s.toList = [d]) (hd : d ≠ '\'') {c c' : Cursor}
    {u : Unit} : eatOp s c = .ok (u, c') ↔
      ∃ joint span ts, c.rest = .punct d joint span :: ts ∧
        c' = { c with rest := ts, written := .punct d false span :: c.written } := by
  have hl : s.length = 1 := by simp [← String.length_toList, hs]
  unfold eatOp
  simp only [run_bind, run_trees, andThen_ok, run_ite, run_fail, run_advance, hs, hl]
  constructor
  · intro h
    split at h
    · next ht =>
      match hc : c.rest with
      | .punct e joint span :: ts =>
        rw [hc] at ht h
        simp only [startsOperator, Bool.and_eq_true, beq_iff_eq] at ht
        obtain ⟨rfl, -⟩ := ht
        cases h
        exact ⟨joint, span, ts, rfl, rfl⟩
      | [] | .ident _ :: _ | .literal _ _ :: _ | .group _ _ _ :: _ =>
        simp [hc, startsOperator] at ht
    · cases h
  · rintro ⟨joint, span, ts, hc, rfl⟩
    simp [hc, startsOperator, hd, setOperator]

theorem eatComma {c c' : Cursor} {u : Unit} : eatOp "," c = .ok (u, c') ↔
    ∃ joint span ts, c.rest = .punct ',' joint span :: ts ∧
      c' = { c with rest := ts, written := .punct ',' false span :: c.written } :=
  eatOp_one (by decide) (by decide)

/-! ## Lists with commas -/

/-- Items with commas between them, and maybe after the last, up to the end of the group. -/
inductive Separated (item : Rule α) : Cursor → List α → Cursor → Prop
  | nil {c} (hc : c.rest = []) : Separated item c [] c
  | last {c a c'} (hc : c.rest ≠ []) (ha : item c = .ok (a, c')) (hend : c'.rest = []) :
    Separated item c [a] c'
  | more {c a c₁ c₂ as c'} (hc : c.rest ≠ []) (ha : item c = .ok (a, c₁)) (hmore : c₁.rest ≠ [])
    (hcomma : eatOp "," c₁ = .ok ((), c₂)) (has : Separated item c₂ as c') :
    Separated item c (a :: as) c'

/-- One round of `terminated`. -/
def itemRound (item : Rule α) (found : List α) : Rule (Progress (List α)) := do
  if ← atEnd then return .done found
  let a ← item
  if ← atEnd then return .done (a :: found)
  eatOp ","
  return .again (a :: found)

theorem terminated_eq (item : Rule α) :
    terminated item = do return (← iterate [] (itemRound item)).reverse := rfl

theorem rest_length_lt_of_comma {c c' : Cursor} (h : eatOp "," c = .ok ((), c')) :
    c'.rest.length < c.rest.length := by
  obtain ⟨joint, span, ts, hc, rfl⟩ := eatComma.1 h
  simp [hc]

theorem rest_length_le {item : Rule α} (hf : ∀ base, Forward base item) {c c' : Cursor} {a : α}
    (h : item c = .ok (a, c')) : c'.rest.length ≤ c.rest.length :=
  ((hf c).step (Cursor.Leads.refl c) h).suffix.length_le

theorem isEmpty_eq_false {ts : List Tree} (h : ts ≠ []) : ts.isEmpty = false := by
  cases ts with
  | nil => exact absurd rfl h
  | cons => rfl

theorem iterateFor_itemRound_sound {item : Rule α} (hf : ∀ base, Forward base item) {n : Nat}
    {found out : List α} {c c' : Cursor} (hn : c.rest.length < n)
    (h : iterateFor n found (itemRound item) c = .ok (out, c')) :
    ∃ as, Separated item c as c' ∧ out = as.reverse ++ found := by
  induction n generalizing found c with
  | zero => omega
  | succ n ih =>
    unfold iterateFor itemRound at h
    by_cases hc : c.rest = []
    · simp [hc] at h
      obtain ⟨rfl, rfl⟩ := h
      exact ⟨[], .nil hc, rfl⟩
    · simp only [run_bind, run_atEnd, andThen_ok, isEmpty_eq_false hc, run_ite] at h
      cases ha : item c with
      | error e => simp [ha] at h
      | ok r =>
        obtain ⟨a, c₁⟩ := r
        by_cases hc₁ : c₁.rest = []
        · simp [ha, hc₁] at h
          obtain ⟨rfl, rfl⟩ := h
          exact ⟨[a], .last hc ha hc₁, rfl⟩
        · simp only [ha, andThen_ok, run_bind, run_atEnd, isEmpty_eq_false hc₁, run_ite] at h
          cases hcomma : eatOp "," c₁ with
          | error e => simp [hcomma] at h
          | ok r =>
            obtain ⟨u, c₂⟩ := r
            simp [hcomma] at h
            have h₁ := rest_length_le hf ha
            have h₂ := rest_length_lt_of_comma hcomma
            obtain ⟨as, has, rfl⟩ := ih (by omega) h
            exact ⟨a :: as, .more hc ha hc₁ hcomma has, by simp⟩

theorem iterateFor_itemRound_complete {item : Rule α} (hf : ∀ base, Forward base item)
    {as : List α} {c c' : Cursor} (h : Separated item c as c') {n : Nat} (hn : c.rest.length < n)
    (found : List α) : iterateFor n found (itemRound item) c = .ok (as.reverse ++ found, c') := by
  induction h generalizing n found with
  | nil hc =>
    obtain ⟨n, rfl⟩ := Nat.exists_eq_add_of_lt hn
    simp [iterateFor, itemRound, hc]
  | last hc ha hend =>
    obtain ⟨n, rfl⟩ := Nat.exists_eq_add_of_lt hn
    simp [iterateFor, itemRound, isEmpty_eq_false hc, ha, hend]
  | more hc ha hmore hcomma has ih =>
    have h₁ := rest_length_le hf ha
    have h₂ := rest_length_lt_of_comma hcomma
    obtain ⟨n, rfl⟩ := Nat.exists_eq_add_of_lt hn
    simp only [iterateFor, itemRound, run_bind, run_atEnd, andThen_ok, isEmpty_eq_false hc, run_ite,
      ha, isEmpty_eq_false hmore, hcomma, run_pure]
    simpa using ih (by omega) (_ :: found)

theorem terminated_eq_ok {item : Rule α} (hf : ∀ base, Forward base item) {as : List α}
    {c c' : Cursor} : terminated item c = .ok (as, c') ↔ Separated item c as c' := by
  rw [terminated_eq, bind_eq_ok]
  unfold iterate
  simp only [run_bind, run_trees, andThen_ok]
  constructor
  · rintro ⟨out, c₁, h, hr⟩
    cases hr
    obtain ⟨as, has, rfl⟩ := iterateFor_itemRound_sound hf (Nat.lt_succ_self _) h
    simpa using has
  · intro h
    refine ⟨as.reverse, c', ?_, by simp⟩
    simpa using iterateFor_itemRound_complete hf h (Nat.lt_succ_self _) []

/-- What a round leaves, whether there is another or not. -/
def Progress.state : Progress σ → σ
  | .again s => s
  | .done s => s

/-- What holds before a loop and after each round holds after the loop. -/
theorem iterateFor_preserves {P : σ → Cursor → Prop} {body : σ → Rule (Progress σ)}
    (hround : ∀ {s c p c'}, P s c → body s c = .ok (p, c') → P p.state c') {n : Nat} {s s' : σ}
    {c c' : Cursor} (hs : P s c) (h : iterateFor n s body c = .ok (s', c')) : P s' c' := by
  induction n generalizing s c with
  | zero =>
    cases h
    exact hs
  | succ n ih =>
    obtain ⟨p, c₁, hp, h⟩ := bind_eq_ok.1 h
    have hp := hround hs hp
    cases p with
    | done s₁ =>
      cases h
      exact hp
    | again s₁ => exact ih hp h

/-! ## The ends of what is written -/

/-- The first trees stand at one place, and so do the last. -/
def SameEnds (read out : List Tree) : Prop :=
  read.head?.map Tree.span = out.head?.map Tree.span ∧
    read.getLast?.map Tree.span = out.getLast?.map Tree.span

theorem SameEnds.append {r₁ o₁ r₂ o₂ : List Tree} (h₁ : SameEnds r₁ o₁) (h₂ : SameEnds r₂ o₂) :
    SameEnds (r₁ ++ r₂) (o₁ ++ o₂) := by
  obtain ⟨hf₁, hl₁⟩ := h₁
  obtain ⟨hf₂, hl₂⟩ := h₂
  constructor
  · simp only [List.head?_append, Option.map_or, hf₁, hf₂]
  · simp only [List.getLast?_append, Option.map_or, hl₁, hl₂]

theorem SameEnds.between {t t' u u' : Tree} {ms ns : List Tree} (ht : t.span = t'.span)
    (hu : u.span = u'.span) : SameEnds (t :: ms ++ [u]) (t' :: ns ++ [u']) := by
  constructor
  · simp [ht]
  · rw [List.getLast?_concat, List.getLast?_concat, Option.map_some, Option.map_some, hu]

theorem SameEnds.spanOf_eq {read out : List Tree} (h : SameEnds read out) :
    spanOf read = spanOf out := by
  obtain ⟨hf, hl⟩ := h
  cases read with
  | nil =>
    cases out with
    | nil => rfl
    | cons => simp at hf
  | cons t ts =>
    cases out with
    | nil => simp at hf
    | cons u us =>
      simp only [List.head?_cons, Option.map_some, Option.some.injEq] at hf
      simp only [List.getLast?_eq_some_getLast (List.cons_ne_nil _ _), Option.map_some,
        Option.some.injEq] at hl
      simp only [spanOf, hf, hl]

/-- What a rule reads and what it writes start and end at the same places. -/
class Edged (r : Rule α) : Prop where
  step : ∀ {c a c'}, r c = .ok (a, c') → ∃ read out, c.rest = read ++ c'.rest ∧
    c'.written = out.reverse ++ c.written ∧ SameEnds read out

theorem Edged.of_still {r : Rule α} (h : ∀ {c a c'}, r c = .ok (a, c') → c' = c) : Edged r := by
  refine ⟨fun hr => ?_⟩
  obtain rfl := h hr
  exact ⟨[], [], rfl, rfl, rfl, rfl⟩

instance bind_edged {x : Rule α} {f : α → Rule β} [hx : Edged x] [hf : ∀ a, Edged (f a)] :
    Edged (x >>= f) := by
  refine ⟨fun h => ?_⟩
  obtain ⟨a, c₁, h₁, h₂⟩ := bind_eq_ok.1 h
  obtain ⟨r₁, o₁, hr₁, ho₁, he₁⟩ := hx.step h₁
  obtain ⟨r₂, o₂, hr₂, ho₂, he₂⟩ := (hf a).step h₂
  refine ⟨r₁ ++ r₂, o₁ ++ o₂, ?_, ?_, he₁.append he₂⟩
  · rw [hr₁, hr₂, List.append_assoc]
  · rw [ho₂, ho₁, List.reverse_append, List.append_assoc]

instance pure_edged (a : α) : Edged (pure a : Rule α) := by
  refine .of_still fun h => ?_
  cases h
  rfl

instance ite_edged {p : Prop} [Decidable p] {x y : Rule α} [hx : Edged x] [hy : Edged y] :
    Edged (if p then x else y) := by
  split
  · exact hx
  · exact hy

instance peek_edged (p : Probe) : Edged (peek p) := by
  refine .of_still fun h => ?_
  cases h
  rfl

instance peek3_edged (p : Probe) : Edged (peek3 p) := by
  refine .of_still fun h => ?_
  cases h
  rfl

instance peekAny_edged (ps : List Probe) : Edged (peekAny ps) := by
  refine .of_still fun h => ?_
  cases h
  rfl

theorem SameEnds.of_map_span {read out : List Tree} (h : out.map Tree.span = read.map Tree.span) :
    SameEnds read out := by
  constructor
  · rw [← List.head?_map, ← List.head?_map, h]
  · rw [← List.getLast?_map, ← List.getLast?_map, h]

theorem setOperator_map_span (ts : List Tree) :
    (setOperator ts).map Tree.span = ts.map Tree.span := by
  fun_induction setOperator ts <;> simp_all [Tree.span]

instance eatOp_edged (s : String) : Edged (eatOp s) := by
  refine ⟨fun {c _ c'} h => ?_⟩
  unfold eatOp at h
  simp only [run_bind, run_trees, andThen_ok, run_ite, run_advance, run_fail] at h
  split at h
  · cases h
    exact ⟨c.rest.take s.length, setOperator (c.rest.take s.length), by simp, rfl,
      .of_map_span (setOperator_map_span _)⟩
  · cases h

theorem eatAnyIdent_eq_ok {c c' : Cursor} {i : Ident} : eatAnyIdent c = .ok (i, c') ↔
    ∃ ts, c.rest = .ident i :: ts ∧
      c' = { c with rest := ts, written := .ident i :: c.written } := by
  rw [eatAnyIdent, run_bind, run_trees, andThen_ok]
  constructor
  · intro h
    match hc : c.rest with
    | .ident j :: ts =>
      rw [hc] at h
      cases h
      exact ⟨ts, rfl, rfl⟩
    | [] | .punct _ _ _ :: _ | .literal _ _ :: _ | .group _ _ _ :: _ =>
      rw [hc] at h
      cases h
  · rintro ⟨ts, hc, rfl⟩
    rw [hc]
    rfl

theorem eatName_eq_ok {c c' : Cursor} {i : Ident} : eatName c = .ok (i, c') ↔
    i.isName = true ∧ ∃ ts, c.rest = .ident i :: ts ∧
      c' = { c with rest := ts, written := .ident i :: c.written } := by
  rw [eatName, run_bind, run_trees, andThen_ok]
  constructor
  · intro h
    match hc : c.rest with
    | .ident j :: ts =>
      simp only [hc, run_ite, run_fail] at h
      split at h
      · cases h
        exact ⟨‹_›, ts, rfl, rfl⟩
      · cases h
    | [] | .punct _ _ _ :: _ | .literal _ _ :: _ | .group _ _ _ :: _ =>
      rw [hc] at h
      cases h
  · rintro ⟨hi, ts, hc, rfl⟩
    rw [hc]
    simp only [hi, run_ite]
    rfl

instance eatAnyIdent_edged : Edged eatAnyIdent := by
  refine ⟨fun h => ?_⟩
  obtain ⟨ts, hc, rfl⟩ := eatAnyIdent_eq_ok.1 h
  exact ⟨[.ident _], [.ident _], hc, rfl, rfl, rfl⟩

instance eatName_edged : Edged eatName := by
  refine ⟨fun h => ?_⟩
  obtain ⟨-, ts, hc, rfl⟩ := eatName_eq_ok.1 h
  exact ⟨[.ident _], [.ident _], hc, rfl, rfl, rfl⟩

instance eatOp?_edged (s : String) : Edged (eatOp? s) := by
  unfold eatOp?; infer_instance

instance iterateFor_edged (n : Nat) (s : σ) (body : σ → Rule (Progress σ))
    [hb : ∀ s, Edged (body s)] :
    Edged (iterateFor n s body) := by
  induction n generalizing s with
  | zero => exact pure_edged s
  | succ n ih =>
    have hnext : ∀ p : Progress σ,
        Edged (match p with | .done s => pure s | .again s => iterateFor n s body) := by
      intro p
      cases p with
      | done s => exact pure_edged s
      | again s => exact ih s
    have := hb s
    exact bind_edged

instance iterate_edged (s : σ) (body : σ → Rule (Progress σ)) [∀ s, Edged (body s)] :
    Edged (iterate s body) := by
  refine ⟨fun {c _ _} h => ?_⟩
  exact (iterateFor_edged (c.rest.length + 1) s body).step h

end Rule

open Rule

variable {g : Rules}

/-! ## Paths -/

theorem withhold_written {α : Type} {r : Rule α} {c c' : Cursor} {p : α × List Tree}
    (h : withhold r c = .ok (p, c')) : c'.written = c.written := by
  unfold withhold at h
  split at h
  · cases h
  · cases h
    rfl

/-- The arguments between angle brackets: what is read of them is held back. -/
def angleArguments (g : Rules) (found : List Listed) : Rule (Progress (List Listed)) := do
  if ← peek (op ">") then return .done found
  let (first, text) ← withhold (genericArgument g)
  if ← peek (op ">") then return .done (⟨first, text, []⟩ :: found)
  let (_, comma) ← withhold (eatOp ",")
  return .again (⟨first, text, comma⟩ :: found)

theorem angleRule_eq (g : Rules) : angleRule g = (do
    eatOp "<"
    let found ← iterate [] (angleArguments g)
    write (arrange found.reverse)
    eatOp ">") := rfl

instance angleArguments_forward [g.Forward] (base : Cursor) (found : List Listed) :
    Forward base (angleArguments g found) := by
  unfold angleArguments; infer_instance

theorem angleArguments_written {found : List Listed} {c c' : Cursor} {p : Progress (List Listed)}
    (h : angleArguments g found c = .ok (p, c')) : c'.written = c.written := by
  unfold angleArguments at h
  obtain ⟨closed, c₁, hp, h⟩ := bind_eq_ok.1 h
  cases hp
  rw [run_ite] at h
  split at h
  · cases h
    rfl
  obtain ⟨⟨first, text⟩, c₂, hfirst, h⟩ := bind_eq_ok.1 h
  obtain ⟨closed, c₃, hp, h⟩ := bind_eq_ok.1 h
  cases hp
  rw [run_ite] at h
  split at h
  · cases h
    exact withhold_written hfirst
  obtain ⟨⟨_, comma⟩, c₄, hcomma, h⟩ := bind_eq_ok.1 h
  cases h
  exact (withhold_written hcomma).trans (withhold_written hfirst)

/-- Between the brackets arguments are arranged anew; the brackets stand at the ends. -/
instance angleRule_edged [g.Forward] : Edged (angleRule g) := by
  refine ⟨fun {c _ c'} h => ?_⟩
  rw [angleRule_eq] at h
  obtain ⟨u₁, c₁, hopen, h⟩ := bind_eq_ok.1 h
  obtain ⟨found, c₂, hfound, h⟩ := bind_eq_ok.1 h
  obtain ⟨u₂, c₃, hwrite, hclose⟩ := bind_eq_ok.1 h
  have hw : c₂.written = c₁.written :=
    iterateFor_preserves (P := fun _ c => c.written = c₁.written)
      (fun hs hround => (angleArguments_written hround).trans hs) rfl hfound
  have hforward : Rule.Forward c₁ (iterate [] (angleArguments g)) := iterate_forward [] _
  obtain ⟨read, hread⟩ := (hforward.step (Cursor.Leads.refl c₁) hfound).suffix
  obtain ⟨j, s, ts, hc, rfl⟩ := (eatOp_one (d := '<') (by decide) (by decide)).1 hopen
  obtain ⟨j', s', ts', hc₃, rfl⟩ := (eatOp_one (d := '>') (by decide) (by decide)).1 hclose
  cases hwrite
  refine ⟨.punct '<' j s :: read ++ [.punct '>' j' s'],
    .punct '<' false s :: arrange found.reverse ++ [.punct '>' false s'], ?_, ?_, ?_⟩
  · simp only at hread hc₃
    simp [hc, ← hread, hc₃]
  · simp [hw]
  · exact .between rfl rfl

set_option synthInstance.maxSize 2000 in
instance segment_edged [Edged g.angle] (inExpr : Bool) : Edged (segment g inExpr) := by
  unfold segment; infer_instance

instance moreSegments_edged [Edged g.angle] (inExpr : Bool) (segments : List Segment) :
    Edged (moreSegments g inExpr segments) := by
  unfold moreSegments; infer_instance

instance path_edged [Edged g.angle] (inExpr : Bool) : Edged (path g inExpr) := by
  unfold path; infer_instance

instance rules_angle_edged (n : Nat) : Edged (rules n).angle := by
  cases n with
  | zero => exact ⟨fun h => by cases h⟩
  | succ n => exact angleRule_edged (g := rules n)

instance grammar_angle_edged : Edged grammar.angle :=
  ⟨fun {c _ _} h => (rules_angle_edged (depthFor c.rest)).step h⟩

theorem segment_starts {inExpr : Bool} {c c' : Cursor} {s : Segment}
    (h : segment g inExpr c = .ok (s, c')) : startsAnyIdent c.rest = true := by
  unfold segment at h
  simp only [run_bind, run_peekAny, run_peek, andThen_ok, run_ite] at h
  split at h
  · obtain ⟨i, c₁, hi, -⟩ := andThen_eq_ok.1 h
    obtain ⟨ts, hts, -⟩ := eatAnyIdent_eq_ok.1 hi
    rw [hts]
    rfl
  split at h
  · obtain ⟨i, c₁, hi, -⟩ := andThen_eq_ok.1 h
    obtain ⟨ts, hts, -⟩ := eatAnyIdent_eq_ok.1 hi
    rw [hts]
    rfl
  · obtain ⟨i, c₁, hi, -⟩ := andThen_eq_ok.1 h
    obtain ⟨-, ts, hts, -⟩ := eatName_eq_ok.1 hi
    rw [hts]
    rfl

theorem path_starts {inExpr : Bool} {c c' : Cursor} {p : Path}
    (h : path g inExpr c = .ok (p, c')) :
    startsAnyIdent c.rest = true ∨ startsOperator [':', ':'] c.rest = true := by
  unfold path at h
  obtain ⟨leading, c₁, hl, h⟩ := bind_eq_ok.1 h
  obtain ⟨first, c₂, hf, -⟩ := bind_eq_ok.1 h
  unfold eatOp? at hl
  simp only [run_bind, run_peek, andThen_ok, run_ite] at hl
  split at hl
  · exact .inr ‹_›
  · cases hl
    exact .inl (segment_starts hf)

theorem path_rest_ne_nil {inExpr : Bool} {c c' : Cursor} {p : Path}
    (h : path g inExpr c = .ok (p, c')) : c.rest ≠ [] := by
  intro hc
  have hstarts := path_starts h
  simp [hc, startsAnyIdent, startsOperator] at hstarts

theorem path_segments_ne_nil {inExpr : Bool} {c c' : Cursor} {p : Path}
    (h : path g inExpr c = .ok (p, c')) : p.segments ≠ [] := by
  unfold path at h
  obtain ⟨leading, c₁, hl, h⟩ := bind_eq_ok.1 h
  obtain ⟨first, c₂, hf, h⟩ := bind_eq_ok.1 h
  obtain ⟨segments, c₃, hs, h⟩ := bind_eq_ok.1 h
  cases h
  unfold moreSegments at hs
  obtain ⟨found, c₄, hfound, hs⟩ := bind_eq_ok.1 hs
  cases hs
  have hne : found ≠ [] := by
    refine iterateFor_preserves (P := fun found _ => found ≠ []) ?_ (by simp) hfound
    intro s c p c' hne h
    obtain ⟨b₁, c₁, hb, h⟩ := bind_eq_ok.1 h
    obtain ⟨b₂, c₂, hb, h⟩ := bind_eq_ok.1 h
    rw [run_ite] at h
    split at h
    · obtain ⟨u, c₃, -, h⟩ := bind_eq_ok.1 h
      obtain ⟨next, c₄, -, h⟩ := bind_eq_ok.1 h
      cases h
      exact List.cons_ne_nil _ _
    · cases h
      exact hne
  simpa using hne

/-! ## Lists of paths -/

/-- Put at the front of `rest`, these trees are read as the path `p`, and no more than these. -/
def IsPath (g : Rules) (piece rest : List Tree) (p : Path) : Prop :=
  ∃ out, path g false { rest := piece ++ rest } = .ok (p, { rest, written := out })

/-- Paths with commas between them, and maybe after the last, each with its trees. -/
inductive PathList (g : Rules) : List Tree → List (Path × List Tree) → Prop
  | nil : PathList g [] []
  | last {piece p} (hp : IsPath g piece [] p) : PathList g piece [(p, piece)]
  | more {piece p joint span rest ps} (hp : IsPath g piece (.punct ',' joint span :: rest) p)
    (hps : PathList g rest ps) :
    PathList g (piece ++ .punct ',' joint span :: rest) ((p, piece) :: ps)

/-- A path and its place. -/
def placed (a : Path × List Tree) : Path × Span := (a.1, spanOf a.2)

theorem IsPath.canonicalName {g : Rules} {piece rest : List Tree} {p : Path}
    (h : IsPath g piece rest p) : ∃ name, p.canonicalName = some name := by
  obtain ⟨out, h⟩ := h
  refine ⟨(p.segments.getLast (path_segments_ne_nil h)).ident.name, ?_⟩
  rw [Path.canonicalName, List.getLast?_eq_some_getLast (path_segments_ne_nil h)]
  rfl

theorem PathList.head_isPath {g : Rules} {ts : List Tree} {p : Path} {piece : List Tree}
    {more : List (Path × List Tree)} (h : PathList g ts ((p, piece) :: more)) :
    ∃ rest, IsPath g piece rest p := by
  cases h with
  | last hp => exact ⟨_, hp⟩
  | more hp _ => exact ⟨_, hp⟩

theorem capture_path_sound [Edged g.angle] {c c' : Cursor} {a : Path × List Tree}
    (h : capture (path g false) c = .ok (a, c')) (hl : c.leftover = none) (hl' : c'.leftover = none) :
    ∃ piece, c.rest = piece ++ c'.rest ∧ IsPath g piece c'.rest a.1 ∧
      placed a = placed (a.1, piece) := by
  unfold capture at h
  split at h
  · cases h
  · next p inner hp =>
    cases h
    obtain ⟨read, out, hread, hout, hends⟩ := (path_edged (g := g) false).step hp
    simp only [List.append_nil] at hread hout hl'
    refine ⟨read, hread, ⟨inner.written, ?_⟩, ?_⟩
    · rw [hl, hread, run_self] at hp
      rw [hp, ← hl']
    · simp only [placed, hout, List.reverse_reverse, hends.spanOf_eq]

theorem capture_path_complete [Edged g.angle] {piece rest : List Tree} {p : Path}
    (h : IsPath g piece rest p) (w : List Tree) : ∃ out,
      capture (path g false) ⟨piece ++ rest, w, none⟩ =
        .ok ((p, out), ⟨rest, out.reverse ++ w, none⟩) ∧
      placed (p, out) = placed (p, piece) := by
  obtain ⟨written, h⟩ := h
  obtain ⟨read, out, hread, hout, hends⟩ := (path_edged (g := g) false).step h
  simp only [List.append_nil, List.append_cancel_right_eq] at hread hout
  subst hread hout
  refine ⟨out, ?_, by simp only [placed, hends.spanOf_eq]⟩
  unfold capture
  rw [run_self, h]
  simp

/-! ### Both directions -/

theorem Separated.leads {α : Type} {item : Rule α} (hf : ∀ base, Forward base item) {as : List α}
    {c c' : Cursor} (h : Separated item c as c') : c.Leads c' :=
  (terminated_forward item).step (Cursor.Leads.refl c) ((terminated_eq_ok hf).2 h)

theorem pathList_sound [g.Forward] [Edged g.angle] {c c' : Cursor} {ps : List (Path × List Tree)}
    (h : Separated (capture (path g false)) c ps c') (hl : c'.leftover = none) :
    ∃ pieces, PathList g c.rest pieces ∧ ps.map placed = pieces.map placed := by
  have hf : ∀ base, Forward base (capture (path g false)) := inferInstance
  induction h with
  | nil hc => exact ⟨[], hc ▸ .nil, rfl⟩
  | @last c a c' hc ha hend =>
    have hlc := ((hf c).step (.refl c) ha).noted hl
    obtain ⟨piece, hrest, hp, hsame⟩ := capture_path_sound ha hlc hl
    rw [hend] at hp hrest
    rw [hrest, List.append_nil]
    exact ⟨[(a.1, piece)], .last hp, by simp [hsame]⟩
  | @more c a c₁ c₂ as c' hc ha hmore hcomma has ih =>
    obtain ⟨pieces, hps, hsames⟩ := ih hl
    have hl₂ := (Separated.leads hf has).noted hl
    obtain ⟨joint, span, ts, hc₁, rfl⟩ := eatComma.1 hcomma
    have hlc := ((hf c).step (.refl c) ha).noted hl₂
    obtain ⟨piece, hrest, hp, hsame⟩ := capture_path_sound ha hlc hl₂
    rw [hc₁] at hp hrest
    rw [hrest]
    exact ⟨(a.1, piece) :: pieces, .more hp hps, by simp [hsame, hsames]⟩

theorem pathList_complete [g.Forward] [Edged g.angle] {ts : List Tree}
    {pieces : List (Path × List Tree)} (h : PathList g ts pieces) (w : List Tree) :
    ∃ ps w', Separated (capture (path g false)) ⟨ts, w, none⟩ ps ⟨[], w', none⟩ ∧
      ps.map placed = pieces.map placed := by
  induction h generalizing w with
  | nil => exact ⟨[], w, .nil rfl, rfl⟩
  | @last piece p hp =>
    obtain ⟨out, hout, hsame⟩ := capture_path_complete hp w
    have hne : piece ≠ [] := by
      obtain ⟨_, hp⟩ := hp
      simpa using path_rest_ne_nil hp
    rw [List.append_nil] at hout
    exact ⟨[(p, out)], _, .last hne hout rfl, by simp [hsame]⟩
  | @more piece p joint span rest ps hp hps ih =>
    obtain ⟨out, hout, hsame⟩ := capture_path_complete hp w
    obtain ⟨as, w', has, hsames⟩ := ih (.punct ',' false span :: (out.reverse ++ w))
    refine ⟨(p, out) :: as, w', .more (by simp) hout (by simp) ?_ has, by simp [hsame, hsames]⟩
    exact eatComma.2 ⟨joint, span, rest, rfl, rfl⟩

theorem parseList_sound {ts : List Tree} {ps : List (Path × List Tree)}
    (h : Path.parseList ts = .ok ps) :
    ∃ pieces, PathList grammar ts pieces ∧ ps.map placed = pieces.map placed := by
  obtain ⟨out, h⟩ := run_eq_ok.1 h
  exact pathList_sound ((terminated_eq_ok inferInstance).1 h) rfl

theorem parseList_complete {ts : List Tree} {pieces : List (Path × List Tree)}
    (h : PathList grammar ts pieces) :
    ∃ ps, Path.parseList ts = .ok ps ∧ ps.map placed = pieces.map placed := by
  obtain ⟨ps, w', hsep, hsame⟩ := pathList_complete h []
  exact ⟨ps, run_eq_ok.2 ⟨w', (terminated_eq_ok inferInstance).2 hsep⟩, hsame⟩

end FetchKit.Grammar
