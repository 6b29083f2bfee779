import FetchKit.Proofs.Grammar.Attributes

/-!
# Parts that are held back

Some rules give what they read and write it later, or not at all. Here it is said which trees such a
rule took, and the same for a list of parts with commas between them.
-/

namespace FetchKit.Grammar

open FetchKit.Source

namespace Rule

variable {α β : Type}

/-! ## Parts that are held back -/

/-- The rule takes the trees `piece` in front of `next` and writes `text` for them. -/
def Writes (r : Rule α) (next piece text : List Tree) : Prop :=
  ∃ a, r ⟨piece ++ next, [], none⟩ = .ok (a, ⟨next, text.reverse, none⟩)

theorem bind_taken {x : Rule α} {f : α → Rule β} [hx : ∀ base, Forward base x]
    [hf : ∀ a base, Forward base (f a)] {ts rest w w' : List Tree} {b : β}
    (h : (x >>= f) ⟨ts, w, none⟩ = .ok (b, ⟨rest, w', none⟩)) :
    ∃ a piece rest₁ w₁, ts = piece ++ rest₁ ∧
      x ⟨piece ++ rest₁, w, none⟩ = .ok (a, ⟨rest₁, w₁, none⟩) ∧
      f a ⟨rest₁, w₁, none⟩ = .ok (b, ⟨rest, w', none⟩) := by
  obtain ⟨a, ⟨rest₁, w₁, l₁⟩, h₁, h₂⟩ := bind_eq_ok.1 h
  obtain rfl : l₁ = none := ((hf a _).step (.refl _) h₂).noted rfl
  obtain ⟨piece, rfl⟩ := ((hx _).step (.refl _) h₁).suffix
  exact ⟨a, piece, rest₁, w₁, rfl, h₁, h₂⟩

theorem withhold_eq_ok {r : Rule α} {ts rest w out text : List Tree} {l l' : Option Delimiter} {a : α} :
    withhold r ⟨ts, w, l⟩ = .ok ((a, text), ⟨rest, out, l'⟩) ↔
      out = w ∧ r ⟨ts, [], l⟩ = .ok (a, ⟨rest, text.reverse, l'⟩) := by
  unfold withhold
  rw [run_self]
  constructor
  · intro h
    split at h
    · cases h
    · next b inner hinner =>
      obtain ⟨rest₁, w₁, l₁⟩ := inner
      cases h
      exact ⟨rfl, by rw [hinner, List.reverse_reverse]⟩
  · rintro ⟨rfl, h⟩
    rw [h]
    simp

theorem held_eq_ok {r : Rule α} {ts rest w out text : List Tree} {l l' : Option Delimiter} :
    held r ⟨ts, w, l⟩ = .ok (text, ⟨rest, out, l'⟩) ↔
      out = w ∧ ∃ a, r ⟨ts, [], l⟩ = .ok (a, ⟨rest, text.reverse, l'⟩) := by
  unfold held
  rw [bind_eq_ok]
  constructor
  · rintro ⟨⟨a, text'⟩, c₁, h, hpure⟩
    cases hpure
    obtain ⟨rfl, hrun⟩ := withhold_eq_ok.1 h
    exact ⟨rfl, a, hrun⟩
  · rintro ⟨rfl, a, h⟩
    exact ⟨(a, text), ⟨rest, out, l'⟩, withhold_eq_ok.2 ⟨rfl, h⟩, rfl⟩

theorem held_taken {r : Rule α} [hr : ∀ base, Forward base r] {f : List Tree → Rule β}
    [hf : ∀ a base, Forward base (f a)] {ts rest w w' : List Tree} {b : β}
    (h : (held r >>= f) ⟨ts, w, none⟩ = .ok (b, ⟨rest, w', none⟩)) :
    ∃ text piece rest₁, ts = piece ++ rest₁ ∧ Writes r rest₁ piece text ∧
      f text ⟨rest₁, w, none⟩ = .ok (b, ⟨rest, w', none⟩) := by
  obtain ⟨text, piece, rest₁, w₁, rfl, hheld, hmore⟩ := bind_taken h
  obtain ⟨rfl, a, hr⟩ := held_eq_ok.1 hheld
  exact ⟨text, piece, rest₁, rfl, ⟨a, hr⟩, hmore⟩

theorem iterateFor_taken {σ : Type} {body : σ → Rule (Progress σ)}
    [hb : ∀ s base, Forward base (body s)] {n : Nat} {s out : σ} {ts rest w w' : List Tree}
    (h : iterateFor (n + 1) s body ⟨ts, w, none⟩ = .ok (out, ⟨rest, w', none⟩)) :
    ∃ step piece rest₁ w₁, ts = piece ++ rest₁ ∧
      body s ⟨piece ++ rest₁, w, none⟩ = .ok (step, ⟨rest₁, w₁, none⟩) ∧
      ((step = .done out ∧ rest₁ = rest ∧ w₁ = w') ∨ ∃ s', step = .again s' ∧
        iterateFor n s' body ⟨rest₁, w₁, none⟩ = .ok (out, ⟨rest, w', none⟩)) := by
  obtain ⟨step, ⟨rest₁, w₁, l₁⟩, hstep, hmore⟩ := bind_eq_ok.1 h
  have hstart : l₁ = none := by
    cases step with
    | done s =>
      cases hmore
      rfl
    | again s => exact ((iterateFor_forward n s body).step (.refl _) hmore).noted rfl
  subst hstart
  obtain ⟨piece, rfl⟩ := ((hb s _).step (.refl _) hstep).suffix
  refine ⟨step, piece, rest₁, w₁, rfl, hstep, ?_⟩
  cases step with
  | done s =>
    cases hmore
    exact .inl ⟨rfl, rfl, rfl⟩
  | again s => exact .inr ⟨s, rfl, hmore⟩

theorem peek_taken {p : Probe} {f : Bool → Rule β} {c : Cursor} {b : β} {c' : Cursor}
    (h : (peek p >>= f) c = .ok (b, c')) : f (p.test c.rest) c = .ok (b, c') := by
  rwa [run_bind, run_peek, andThen_ok] at h

theorem ite_taken {p : Prop} [Decidable p] {x y : Rule α} {c : Cursor}
    {r : Except Complaint (α × Cursor)} (h : (if p then x else y) c = r) :
    (p ∧ x c = r) ∨ (¬ p ∧ y c = r) := by
  split at h
  · next hp => exact .inl ⟨hp, h⟩
  · next hp => exact .inr ⟨hp, h⟩

theorem writes_eatOp {s : String} {d : Char} (hs : s.toList = [d]) (hd : d ≠ '\'')
    {next piece text : List Tree} (h : Writes (eatOp s) next piece text) :
    ∃ joint span, piece = [.punct d joint span] ∧ text = [.punct d false span] := by
  obtain ⟨u, h⟩ := h
  obtain ⟨joint, span, ts, hrest, hc⟩ := (eatOp_one hs hd).1 h
  simp only [Cursor.mk.injEq, List.reverse_eq_cons_iff, List.reverse_nil, List.nil_append, and_true] at hc
  obtain ⟨rfl, rfl⟩ := hc
  exact ⟨joint, span, List.append_cancel_right hrest, rfl⟩

theorem writes_eatOp? {s : String} {d : Char} (hs : s.toList = [d]) (hd : d ≠ '\'')
    {next piece text : List Tree} (h : Writes (eatOp? s) next piece text) :
    (piece = [] ∧ text = []) ∨
      ∃ joint span, piece = [.punct d joint span] ∧ text = [.punct d false span] := by
  obtain ⟨b, h⟩ := h
  rw [run_eatOp?] at h
  split at h
  · obtain ⟨u, c₁, heat, h⟩ := andThen_eq_ok.1 h
    cases h
    exact .inr (writes_eatOp hs hd ⟨u, heat⟩)
  · simp only [Except.ok.injEq, Prod.mk.injEq, Cursor.mk.injEq, List.append_left_eq_self,
      List.nil_eq, List.reverse_eq_nil_iff, and_true] at h
    exact .inl h.2

theorem eatLifetime_eq_ok {c c' : Cursor} {u : Unit} (h : eatLifetime c = .ok (u, c')) :
    ∃ s i ts, c.rest = .punct '\'' true s :: .ident i :: ts ∧
      c' = { c with rest := ts, written := .ident i :: .punct '\'' true s :: c.written } := by
  obtain ⟨rest, w, l⟩ := c
  rw [eatLifetime, run_bind, run_trees, andThen_ok] at h
  dsimp only at h
  split at h
  · next s i ts =>
    cases h
    exact ⟨s, i, ts, rfl, rfl⟩
  · cases h

theorem writes_eatLifetime {next piece text : List Tree} (h : Writes eatLifetime next piece text) :
    ∃ s i, piece = [.punct '\'' true s, .ident i] ∧ text = [.punct '\'' true s, .ident i] := by
  obtain ⟨u, h⟩ := h
  obtain ⟨s, i, ts, hrest, hc⟩ := eatLifetime_eq_ok h
  simp only [Cursor.mk.injEq, List.reverse_eq_cons_iff, and_true] at hc
  obtain ⟨rfl, rfl⟩ := hc
  exact ⟨s, i, List.append_cancel_right hrest, rfl⟩

theorem writes_eatName {next piece text : List Tree} (h : Writes eatName next piece text) :
    ∃ i, i.isName = true ∧ piece = [.ident i] ∧ text = [.ident i] := by
  obtain ⟨i, h⟩ := h
  obtain ⟨hi, ts, hrest, hc⟩ := eatName_eq_ok.1 h
  simp only [Cursor.mk.injEq, List.reverse_eq_cons_iff, List.reverse_nil, List.nil_append, and_true] at hc
  obtain ⟨rfl, rfl⟩ := hc
  exact ⟨i, hi, List.append_cancel_right hrest, rfl⟩

theorem writes_eatAnyIdent {next piece text : List Tree} (h : Writes eatAnyIdent next piece text) :
    ∃ i, piece = [.ident i] ∧ text = [.ident i] := by
  obtain ⟨i, h⟩ := h
  obtain ⟨ts, hrest, hc⟩ := eatAnyIdent_eq_ok.1 h
  simp only [Cursor.mk.injEq, List.reverse_eq_cons_iff, List.reverse_nil, List.nil_append, and_true] at hc
  obtain ⟨rfl, rfl⟩ := hc
  exact ⟨i, List.append_cancel_right hrest, rfl⟩

theorem eatWord_eq_ok {s : String} {c c' : Cursor} {u : Unit} : eatWord s c = .ok (u, c') ↔
    ∃ i ts, i.isWord s = true ∧ c.rest = .ident i :: ts ∧
      c' = { c with rest := ts, written := .ident i :: c.written } := by
  rw [eatWord, run_bind, run_trees, andThen_ok]
  constructor
  · intro h
    cases hc : c.rest with
    | nil =>
      rw [hc] at h
      cases h
    | cons t ts =>
      cases t with
      | ident i =>
        simp only [hc, run_ite] at h
        split at h
        · cases h
          exact ⟨i, ts, ‹_›, rfl, rfl⟩
        · cases h
      | punct _ _ _ | literal _ _ | group _ _ _ =>
        rw [hc] at h
        cases h
  · rintro ⟨i, ts, hi, hc, rfl⟩
    rw [hc]
    simp only [hi, run_ite]
    rfl

theorem writes_eatWord {s : String} {next piece text : List Tree}
    (h : Writes (eatWord s) next piece text) :
    ∃ i, i.isWord s = true ∧ piece = [.ident i] ∧ text = [.ident i] := by
  obtain ⟨u, h⟩ := h
  obtain ⟨i, ts, hi, hrest, hc⟩ := eatWord_eq_ok.1 h
  simp only [Cursor.mk.injEq, List.reverse_eq_cons_iff, List.reverse_nil, List.nil_append, and_true] at hc
  obtain ⟨rfl, rfl⟩ := hc
  exact ⟨i, hi, List.append_cancel_right hrest, rfl⟩

/-! ## Lists with commas -/

/-- Parts with commas between them, and maybe after the last. Each is one in front of what follows it,
and is given with its comma. -/
inductive Listing {β : Type} (comma : β → List Tree) (P : List Tree → List Tree → β → Prop)
    (next : List Tree) : List Tree → List β → Prop
  | nil : Listing comma P next [] []
  | last {piece b} (hb : P next piece b) (hcomma : comma b = []) : Listing comma P next piece [b]
  | more {piece b joint s ts bs} (hb : P (.punct ',' joint s :: ts ++ next) piece b)
    (hcomma : comma b = [.punct ',' false s]) (hbs : Listing comma P next ts bs) :
    Listing comma P next (piece ++ .punct ',' joint s :: ts) (b :: bs)

/-- One round of a loop that lists such parts, the last one first: it finds the end, the last part,
or a part and the comma after it. -/
def ListingRound {β : Type} (comma : β → List Tree) (P : List Tree → List Tree → β → Prop)
    (body : List β → Rule (Progress (List β))) : Prop :=
  ∀ {found step ts rest w w'}, body found ⟨ts, w, none⟩ = .ok (step, ⟨rest, w', none⟩) → w' = w ∧
    ((ts = rest ∧ step = .done found) ∨
      (∃ piece b, ts = piece ++ rest ∧ step = .done (b :: found) ∧ P rest piece b ∧ comma b = []) ∨
      ∃ piece b joint s, ts = piece ++ .punct ',' joint s :: rest ∧ step = .again (b :: found) ∧
        P (.punct ',' joint s :: rest) piece b ∧ comma b = [.punct ',' false s])

theorem iterateFor_listing {β : Type} {comma : β → List Tree}
    {P : List Tree → List Tree → β → Prop} {body : List β → Rule (Progress (List β))}
    [∀ s base, Forward base (body s)] (hbody : ListingRound comma P body) {n : Nat}
    {found out : List β} {ts rest w w' : List Tree}
    (h : iterateFor n found body ⟨ts, w, none⟩ = .ok (out, ⟨rest, w', none⟩)) :
    w' = w ∧
      ∃ front bs, ts = front ++ rest ∧ out = bs.reverse ++ found ∧ Listing comma P rest front bs := by
  induction n generalizing found ts w with
  | zero =>
    cases h
    exact ⟨rfl, [], [], rfl, rfl, .nil⟩
  | succ n ih =>
    obtain ⟨step, zs, rest₁, w₁, rfl, hstep, hmore⟩ := iterateFor_taken h
    obtain ⟨rfl, ⟨hts, rfl⟩ | ⟨piece, b, hts, rfl, hb, hcomma⟩ |
      ⟨piece, b, joint, s, hts, rfl, hb, hcomma⟩⟩ := hbody hstep
    · obtain ⟨hdone, rfl, rfl⟩ | ⟨s', hagain, -⟩ := hmore
      · cases hdone
        exact ⟨rfl, [], [], hts, rfl, .nil⟩
      · cases hagain
    · obtain ⟨hdone, rfl, rfl⟩ | ⟨s', hagain, -⟩ := hmore
      · cases hdone
        exact ⟨rfl, piece, [b], hts, rfl, .last hb hcomma⟩
      · cases hagain
    · obtain ⟨hdone, -, -⟩ | ⟨s', hagain, hmore⟩ := hmore
      · cases hdone
      cases hagain
      obtain ⟨rfl, front, bs, rfl, rfl, hbs⟩ := ih hmore
      refine ⟨rfl, piece ++ .punct ',' joint s :: front, b :: bs, ?_, by simp, .more hb hcomma hbs⟩
      rw [hts]
      simp

end Rule

end FetchKit.Grammar
