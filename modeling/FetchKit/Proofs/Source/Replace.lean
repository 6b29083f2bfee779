import FetchKit.Proofs.Source.Placed

/-!
# Replacing what a span covers

The trees that a span covers are replaced by one tree, in whatever group they stand. In a scanned
text, a span from one tree to another of the same group covers these two and what stands between
them, and nothing else.
-/

namespace FetchKit.Source

def Span.covers (s : Span) (t : Tree) : Bool :=
  decide (s.start ≤ t.span.start) && decide (t.span.stop ≤ s.stop)

theorem Span.covers_iff {s : Span} {t : Tree} :
    s.covers t = true ↔ s.start ≤ t.span.start ∧ t.span.stop ≤ s.stop := by
  simp [Span.covers]

mutual

def replaceTree (s : Span) (new : Tree) : Tree → Tree
  | .ident i => .ident i
  | .punct c joint span => .punct c joint span
  | .literal text span => .literal text span
  | .group d content span => .group d (replaceTrees s new content) span

/-- The trees with one tree in place of those that the span covers. -/
def replaceTrees (s : Span) (new : Tree) : List Tree → List Tree
  | [] => []
  | t :: ts =>
    if s.covers t then new :: ts.dropWhile s.covers else replaceTree s new t :: replaceTrees s new ts

end

/-! ## What a span does not reach -/

theorem Tree.LeafPlaced.replace_eq {t : Tree} (h : t.LeafPlaced) (s : Span) (new : Tree) :
    replaceTree s new t = t := by
  cases t with
  | ident i => rfl
  | punct c joint span => rfl
  | literal text span => rfl
  | group d content span => exact h.elim

theorem covers_eq_false {s : Span} {t : Tree} {lo hi : Position} (hlo : lo ≤ t.span.start)
    (hspan : t.span.start ≤ t.span.stop) (hhi : t.span.stop ≤ hi)
    (h : hi < s.start ∨ s.stop < lo) : s.covers t = false := by
  rw [← Bool.not_eq_true, Span.covers_iff]
  rintro ⟨hstart, hstop⟩
  rcases h with h | h
  · exact absurd (le_trans hstart (le_trans hspan hhi)) (not_le_of_gt h)
  · exact absurd (le_trans hlo (le_trans hspan hstop)) (not_le_of_gt h)

theorem covers_of_lt {s : Span} {t : Tree} (h : t.span.start < s.start) : s.covers t = false := by
  rw [← Bool.not_eq_true, Span.covers_iff]
  exact fun hcovers => absurd hcovers.1 (not_le_of_gt h)

theorem replaceTrees_cons {s : Span} {new t : Tree} {ts : List Tree} (h : s.covers t = false) :
    replaceTrees s new (t :: ts) = replaceTree s new t :: replaceTrees s new ts := by
  rw [replaceTrees, h]
  rfl

theorem replaceTrees_docTrees {s span : Span} {new : Tree} (inner : Bool) (text : List Char)
    (h : ∀ t : Tree, t.span = span → s.covers t = false) (ts : List Tree) :
    replaceTrees s new (docTrees inner text span ++ ts) =
      docTrees inner text span ++ replaceTrees s new ts := by
  have hcontent : ∀ name text, replaceTrees s new
      [.ident ⟨name, false, span⟩, .punct '=' false span, .literal text span] =
        [.ident ⟨name, false, span⟩, .punct '=' false span, .literal text span] := by
    intro name text
    rw [replaceTrees_cons (h _ rfl), replaceTrees_cons (h _ rfl), replaceTrees_cons (h _ rfl)]
    simp [replaceTree, replaceTrees]
  cases inner with
  | false =>
    simp only [docTrees, Bool.false_eq_true, if_false, List.cons_append, List.nil_append]
    rw [replaceTrees_cons (h _ rfl), replaceTrees_cons (h _ rfl), replaceTree, replaceTree,
      hcontent]
  | true =>
    simp only [docTrees, if_true, List.cons_append, List.nil_append]
    rw [replaceTrees_cons (h _ rfl), replaceTrees_cons (h _ rfl), replaceTrees_cons (h _ rfl),
      replaceTree, replaceTree, replaceTree, hcontent]

/-- Trees that stand before or after a span are left as they are. -/
theorem Placed.replace_append {lo hi : Position} {ts : List Tree} (h : Placed lo ts hi) {s : Span}
    (hs : hi < s.start ∨ s.stop < lo) (new : Tree) (us : List Tree) :
    replaceTrees s new (ts ++ us) = ts ++ replaceTrees s new us := by
  induction h generalizing us with
  | nil hle => rfl
  | leaf hlo ht hts ih =>
    have hcovers := covers_eq_false hlo ht.le hts.le hs
    have hmore := ih (hs.imp_right fun h => lt_of_lt_of_le h (le_trans hlo ht.le)) us
    rw [List.cons_append, replaceTrees_cons hcovers, ht.replace_eq, hmore, List.cons_append]
  | @group lo hi d content span first last ts hlo hfirst hcontent hlast hts ihcontent ih =>
    have hspan : span.start ≤ span.stop := le_trans (lt_of_lt_of_le hfirst hcontent.le).le hlast.le
    have hcovers := covers_eq_false (t := .group d content span) hlo hspan hts.le hs
    have hinside : replaceTrees s new content = content := by
      have hapart : last < s.start ∨ s.stop < first := by
        refine hs.imp (fun h => ?_) fun h => ?_
        · exact lt_of_lt_of_le hlast (le_trans hts.le h.le)
        · exact lt_of_lt_of_le h (le_trans hlo hfirst.le)
      simpa [replaceTrees] using ihcontent hapart []
    have hmore := ih (hs.imp_right fun h => lt_of_lt_of_le h (le_trans hlo hspan)) us
    rw [List.cons_append, replaceTrees_cons hcovers, replaceTree, hinside, hmore, List.cons_append]
  | @doc lo hi inner text span ts hlo hspan hts ih =>
    have hcovers : ∀ t : Tree, t.span = span → s.covers t = false := by
      rintro t rfl
      exact covers_eq_false hlo hspan hts.le hs
    have hmore := ih (hs.imp_right fun h => lt_of_lt_of_le h (le_trans hlo hspan)) us
    rw [List.append_assoc, replaceTrees_docTrees inner text hcovers, hmore, List.append_assoc]

theorem Placed.replace_group {lo hi : Position} {d : Delimiter} {content ts : List Tree}
    {span s : Span} (h : Placed lo (.group d content span :: ts) hi)
    (hstart : span.start < s.start) (hstop : s.stop < span.stop) (new : Tree) :
    replaceTrees s new (.group d content span :: ts) =
      .group d (replaceTrees s new content) span :: ts := by
  obtain ⟨-, hts, -⟩ := h.group_cons
  have hafter := hts.replace_append (.inr hstop) new []
  rw [List.append_nil, replaceTrees, List.append_nil] at hafter
  rw [replaceTrees_cons (covers_of_lt (t := .group d content span) hstart), replaceTree, hafter]

/-! ## What a span covers -/

def Tree.isComma : Tree → Bool
  | .punct c _ _ => c == ','
  | _ => false

/-- One tree after the other. Two may share a place, but a comma has its own. -/
def InOrder (t u : Tree) : Prop :=
  t.span.stop ≤ u.span.start ∨ t.span = u.span ∧ u.isComma = false

/-- What is known of each tree by itself. -/
def Upright (t : Tree) : Prop :=
  t.span.start ≤ t.span.stop ∧ (t.isComma = true → t.span.start < t.span.stop)

theorem mem_docTrees {inner : Bool} {text : List Char} {span : Span} {t : Tree}
    (h : t ∈ docTrees inner text span) : t.span = span ∧ t.isComma = false := by
  cases inner with
  | false =>
    simp only [docTrees, Bool.false_eq_true, if_false, List.cons_append, List.nil_append,
      List.mem_cons, List.not_mem_nil, or_false] at h
    rcases h with rfl | rfl <;> exact ⟨rfl, rfl⟩
  | true =>
    simp only [docTrees, if_true, List.cons_append, List.nil_append, List.mem_cons,
      List.not_mem_nil, or_false] at h
    rcases h with rfl | rfl | rfl <;> exact ⟨rfl, rfl⟩

theorem Placed.bounds {lo hi : Position} {ts : List Tree} (h : Placed lo ts hi) :
    ∀ t ∈ ts, lo ≤ t.span.start ∧ t.span.stop ≤ hi ∧ Upright t := by
  induction h with
  | nil hle => simp
  | @leaf lo hi t ts hlo ht hts ih =>
    intro u hu
    rcases List.mem_cons.1 hu with rfl | hu
    · refine ⟨hlo, hts.le, ht.le, fun hcomma => ?_⟩
      cases u <;> simp_all [Tree.isComma, Tree.LeafPlaced, Tree.span]
    · obtain ⟨hle, hmore⟩ := ih u hu
      exact ⟨le_trans hlo (le_trans ht.le hle), hmore⟩
  | @group lo hi d content span first last ts hlo hfirst hcontent hlast hts ihcontent ih =>
    have hspan : span.start ≤ span.stop := le_trans (lt_of_lt_of_le hfirst hcontent.le).le hlast.le
    intro u hu
    rcases List.mem_cons.1 hu with rfl | hu
    · exact ⟨hlo, hts.le, hspan, by simp [Tree.isComma]⟩
    · obtain ⟨hle, hmore⟩ := ih u hu
      exact ⟨le_trans hlo (le_trans hspan hle), hmore⟩
  | @doc lo hi inner text span ts hlo hspan hts ih =>
    intro u hu
    rcases List.mem_append.1 hu with hu | hu
    · obtain ⟨rfl, hcomma⟩ := mem_docTrees hu
      exact ⟨hlo, hts.le, hspan, by simp [hcomma]⟩
    · obtain ⟨hle, hmore⟩ := ih u hu
      exact ⟨le_trans hlo (le_trans hspan hle), hmore⟩

theorem Placed.pairwise_inOrder {lo hi : Position} {ts : List Tree} (h : Placed lo ts hi) :
    ts.Pairwise InOrder := by
  induction h with
  | nil hle => exact .nil
  | leaf hlo ht hts ih => exact .cons (fun u hu => .inl (hts.bounds u hu).1) ih
  | group hlo hfirst hcontent hlast hts ihcontent ih =>
    exact .cons (fun u hu => .inl (hts.bounds u hu).1) ih
  | doc hlo hspan hts ih =>
    refine List.pairwise_append.2 ⟨List.pairwise_iff_forall_sublist.2 fun {t u} htu => ?_, ih, ?_⟩
    · obtain ⟨ht, -⟩ := mem_docTrees (htu.subset (by simp : t ∈ [t, u]))
      obtain ⟨hu, hcomma⟩ := mem_docTrees (htu.subset (by simp : u ∈ [t, u]))
      exact .inr ⟨ht.trans hu.symm, hcomma⟩
    · intro t ht u hu
      obtain ⟨ht, -⟩ := mem_docTrees ht
      exact .inl (ht ▸ (hts.bounds u hu).1)

theorem InOrder.le_start {t u : Tree} (h : InOrder t u) (ht : Upright t) :
    t.span.start ≤ u.span.start := by
  rcases h with h | ⟨h, -⟩
  · exact le_trans ht.1 h
  · rw [h]

theorem InOrder.le_stop {t u : Tree} (h : InOrder t u) (hu : Upright u) :
    t.span.stop ≤ u.span.stop := by
  rcases h with h | ⟨h, -⟩
  · exact le_trans h hu.1
  · rw [h]

theorem spanOf_stop {ts : List Tree} (hne : ts ≠ []) :
    (spanOf ts).stop = (ts.getLast hne).span.stop := by
  cases ts with
  | nil => exact absurd rfl hne
  | cons t ts => rfl

theorem Placed.spanOf_bounds {lo hi : Position} {ts us : List Tree} (h : Placed lo (ts ++ us) hi)
    (hne : ts ≠ []) : lo ≤ (spanOf ts).start ∧ (spanOf ts).stop ≤ hi := by
  constructor
  · cases ts with
    | nil => exact absurd rfl hne
    | cons t ts => exact (h.bounds t (by simp)).1
  · rw [spanOf_stop hne]
    exact (h.bounds _ (List.mem_append_left us (List.getLast_mem hne))).2.1

theorem covers_of_mem {ts : List Tree} (horder : ts.Pairwise InOrder) (hall : ∀ t ∈ ts, Upright t) :
    ∀ t ∈ ts, (spanOf ts).covers t = true := by
  intro t ht
  rw [Span.covers_iff]
  constructor
  · cases ts with
    | nil => simp at ht
    | cons u us =>
      rcases List.mem_cons.1 ht with rfl | ht
      · exact le_refl _
      · exact (List.rel_of_pairwise_cons horder ht).le_start (hall u List.mem_cons_self)
  · have hne : ts ≠ [] := List.ne_nil_of_mem ht
    rw [spanOf_stop hne]
    rw [← List.dropLast_concat_getLast hne] at ht horder
    rcases List.mem_append.1 ht with ht | ht
    · have hlast := (List.pairwise_append.1 horder).2.2 t ht _ (List.mem_singleton.2 rfl)
      exact hlast.le_stop (hall _ (List.getLast_mem hne))
    · rw [List.mem_singleton.1 ht]

theorem Placed.replace_front {lo hi : Position} {piece rest : List Tree} (hne : piece ≠ [])
    (h : Placed lo (piece ++ rest) hi) (hrest : ∀ t ∈ rest.head?, t.isComma = true) (new : Tree) :
    replaceTrees (spanOf piece) new (piece ++ rest) = new :: rest := by
  have hall := fun t ht => (h.bounds t ht).2.2
  have horder := h.pairwise_inOrder
  have hpiece : ∀ t ∈ piece, (spanOf piece).covers t = true :=
    covers_of_mem (List.pairwise_append.1 horder).1 fun t ht => hall t (List.mem_append_left _ ht)
  have hnext : rest.dropWhile (spanOf piece).covers = rest := by
    cases rest with
    | nil => rfl
    | cons u us =>
      have hcomma := hrest u rfl
      -- The comma has a place of its own after the last tree of the piece.
      have hafter := (List.pairwise_append.1 horder).2.2 _ (List.getLast_mem hne) u List.mem_cons_self
      have hlt := (hall u (List.mem_append_right _ List.mem_cons_self)).2 hcomma
      have hcovers : (spanOf piece).covers u = false := by
        rw [← Bool.not_eq_true, Span.covers_iff]
        rintro ⟨-, hstop⟩
        rcases hafter with hafter | ⟨-, hnone⟩
        · rw [spanOf_stop hne] at hstop
          exact absurd (le_trans hstop hafter) (not_le_of_gt hlt)
        · simp [hcomma] at hnone
      rw [List.dropWhile_cons_of_neg (by simp [hcovers])]
  cases piece with
  | nil => exact absurd rfl hne
  | cons t ts =>
    rw [List.cons_append, replaceTrees, hpiece t List.mem_cons_self, if_pos rfl,
      List.dropWhile_append_of_pos fun u hu => hpiece u (List.mem_cons_of_mem t hu), hnext]

end FetchKit.Source
