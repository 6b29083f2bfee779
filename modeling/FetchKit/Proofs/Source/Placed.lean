import FetchKit.Source.Scan
import Mathlib.Order.Basic

/-!
# Where scanned trees stand

The trees of a text stand one after the other, and what a group holds stands strictly between its
delimiters. Only the trees of a documenting comment share one place.
-/

namespace FetchKit.Source

/-! ## The order of places -/

namespace Position

/-- The order in which a text is read. -/
instance : Preorder Position where
  le p q := p.line < q.line ∨ p.line = q.line ∧ p.column ≤ q.column
  lt p q := p.line < q.line ∨ p.line = q.line ∧ p.column < q.column
  le_refl p := .inr ⟨rfl, Nat.le_refl _⟩
  le_trans p q r hpq hqr := by omega
  lt_iff_le_not_ge p q := by omega

theorem le_def {p q : Position} :
    p ≤ q ↔ p.line < q.line ∨ p.line = q.line ∧ p.column ≤ q.column := Iff.rfl

theorem lt_def {p q : Position} :
    p < q ↔ p.line < q.line ∨ p.line = q.line ∧ p.column < q.column := Iff.rfl

instance : DecidableLE Position := fun _ _ => decidable_of_iff _ le_def.symm

theorem lt_next (p : Position) (c : Char) : p < p.next c := by
  rw [lt_def, next]
  split
  · exact .inl (Nat.lt_succ_self _)
  · exact .inr ⟨rfl, Nat.lt_succ_self _⟩

theorem le_advance (p : Position) (text : List Char) : p ≤ p.advance text := by
  induction text generalizing p with
  | nil => exact le_refl p
  | cons c cs ih => exact le_trans (lt_next p c).le (ih (p.next c))

end Position

/-! ## Trees in their places -/

/-- No group, and its end is not before its start. A punctuation character takes a place. -/
def Tree.LeafPlaced : Tree → Prop
  | .ident i => i.span.start ≤ i.span.stop
  | .punct _ _ span => span.start < span.stop
  | .literal _ span => span.start ≤ span.stop
  | .group _ _ _ => False

theorem Tree.LeafPlaced.le {t : Tree} (h : t.LeafPlaced) : t.span.start ≤ t.span.stop := by
  cases t with
  | ident i => exact h
  | punct c joint span => exact le_of_lt h
  | literal text span => exact h
  | group d content span => exact h.elim

/-- These trees stand between two places, one after the other. -/
inductive Placed : Position → List Tree → Position → Prop
  | nil {lo hi} (hle : lo ≤ hi) : Placed lo [] hi
  | leaf {lo hi t ts} (hlo : lo ≤ t.span.start) (ht : t.LeafPlaced)
    (hts : Placed t.span.stop ts hi) : Placed lo (t :: ts) hi
  | group {lo hi d content span first last ts} (hlo : lo ≤ span.start) (hfirst : span.start < first)
    (hcontent : Placed first content last) (hlast : last < span.stop)
    (hts : Placed span.stop ts hi) : Placed lo (.group d content span :: ts) hi
  /-- The trees of a documenting comment share its place. -/
  | doc {lo hi inner text span ts} (hlo : lo ≤ span.start) (hspan : span.start ≤ span.stop)
    (hts : Placed span.stop ts hi) : Placed lo (docTrees inner text span ++ ts) hi

namespace Placed

theorem le {lo hi : Position} {ts : List Tree} (h : Placed lo ts hi) : lo ≤ hi := by
  induction h with
  | nil hle => exact hle
  | leaf hlo ht hts ih => exact le_trans hlo (le_trans ht.le ih)
  | group hlo hfirst hcontent hlast hts ihcontent ih =>
    exact le_trans hlo (le_trans (lt_of_lt_of_le hfirst ihcontent).le (le_trans hlast.le ih))
  | doc hlo hspan hts ih => exact le_trans hlo (le_trans hspan ih)

theorem of_le {lo mid hi : Position} {ts : List Tree} (hle : lo ≤ mid) (h : Placed mid ts hi) :
    Placed lo ts hi := by
  cases h with
  | nil hmid => exact .nil (le_trans hle hmid)
  | leaf hlo ht hts => exact .leaf (le_trans hle hlo) ht hts
  | group hlo hfirst hcontent hlast hts => exact .group (le_trans hle hlo) hfirst hcontent hlast hts
  | doc hlo hspan hts => exact .doc (le_trans hle hlo) hspan hts

theorem append {lo mid hi : Position} {ts us : List Tree} (hts : Placed lo ts mid)
    (hus : Placed mid us hi) : Placed lo (ts ++ us) hi := by
  induction hts with
  | nil hle => exact hus.of_le hle
  | leaf hlo ht hts ih => exact .leaf hlo ht (ih hus)
  | group hlo hfirst hcontent hlast hts _ ih => exact .group hlo hfirst hcontent hlast (ih hus)
  | doc hlo hspan hts ih =>
    rw [List.append_assoc]
    exact .doc hlo hspan (ih hus)

theorem ident_cons {lo hi : Position} {i : Ident} {ts : List Tree}
    (h : Placed lo (.ident i :: ts) hi) :
    lo ≤ i.span.start ∧ i.span.start ≤ i.span.stop ∧ Placed i.span.stop ts hi := by
  generalize hus : Tree.ident i :: ts = us at h
  cases h with
  | nil => cases hus
  | leaf hlo ht hts =>
    cases hus
    exact ⟨hlo, ht, hts⟩
  | group => cases hus
  | @doc _ _ inner => cases inner <;> simp [docTrees] at hus

theorem group_cons {lo hi : Position} {d : Delimiter} {content ts : List Tree} {span : Span}
    (h : Placed lo (.group d content span :: ts) hi) :
    lo ≤ span.start ∧ Placed span.stop ts hi ∧
      ∃ first last, span.start < first ∧ Placed first content last ∧ last < span.stop := by
  generalize hus : Tree.group d content span :: ts = us at h
  cases h with
  | nil => cases hus
  | leaf hlo ht hts =>
    cases hus
    exact ht.elim
  | group hlo hfirst hcontent hlast hts =>
    cases hus
    exact ⟨hlo, hts, _, _, hfirst, hcontent, hlast⟩
  | @doc _ _ inner => cases inner <;> simp [docTrees] at hus

theorem hash_cons {lo hi : Position} {joint : Bool} {s span : Span} {d : Delimiter}
    {content ts : List Tree}
    (h : Placed lo (.punct '#' joint s :: .group d content span :: ts) hi) :
    lo ≤ s.start ∧ s.start < s.stop ∧ Placed s.stop (.group d content span :: ts) hi ∨
      ∃ text, [.punct '#' joint s, .group d content span] = docTrees false text s ∧
        lo ≤ s.start ∧ s.start ≤ s.stop ∧ Placed s.stop ts hi := by
  generalize hus : Tree.punct '#' joint s :: .group d content span :: ts = us at h
  cases h with
  | nil => cases hus
  | leaf hlo ht hts =>
    cases hus
    exact .inl ⟨hlo, ht, hts⟩
  | group => cases hus
  | @doc _ _ inner text span' ts' hlo hspan hts =>
    cases inner with
    | false =>
      simp only [docTrees, Bool.false_eq_true, if_false, List.cons_append, List.nil_append,
        List.cons.injEq, Tree.punct.injEq, true_and] at hus
      obtain ⟨⟨rfl, rfl⟩, hgroup, rfl⟩ := hus
      exact .inr ⟨text, by rw [hgroup]; rfl, hlo, hspan, hts⟩
    | true => simp [docTrees] at hus

end Placed

/-! ## Lexemes in their places -/

/-- These lexemes stand between two places, one after the other. -/
inductive Lexed : Position → List Lexeme → Position → Prop
  | nil {lo hi} (hle : lo ≤ hi) : Lexed lo [] hi
  | leaf {lo hi t ls} (hlo : lo ≤ t.span.start) (ht : t.LeafPlaced)
    (hls : Lexed t.span.stop ls hi) : Lexed lo (.leaf t :: ls) hi
  | doc {lo hi inner text span ls} (hlo : lo ≤ span.start) (hspan : span.start ≤ span.stop)
    (hls : Lexed span.stop ls hi) : Lexed lo ((docTrees inner text span).map .leaf ++ ls) hi
  | opens {lo hi d span ls} (hlo : lo ≤ span.start) (hspan : span.start < span.stop)
    (hls : Lexed span.stop ls hi) : Lexed lo (.opens d span :: ls) hi
  | closes {lo hi d span ls} (hlo : lo ≤ span.start) (hspan : span.start < span.stop)
    (hls : Lexed span.stop ls hi) : Lexed lo (.closes d span :: ls) hi

theorem Lexed.of_le {lo mid hi : Position} {ls : List Lexeme} (hle : lo ≤ mid)
    (h : Lexed mid ls hi) : Lexed lo ls hi := by
  cases h with
  | nil hmid => exact .nil (le_trans hle hmid)
  | leaf hlo ht hls => exact .leaf (le_trans hle hlo) ht hls
  | doc hlo hspan hls => exact .doc (le_trans hle hlo) hspan hls
  | opens hlo hspan hls => exact .opens (le_trans hle hlo) hspan hls
  | closes hlo hspan hls => exact .closes (le_trans hle hlo) hspan hls

theorem scanLeaf_placed {p : Position} {cs : List Char} {t : Tree} {s : Split}
    (h : scanLeaf p cs = some (t, s)) : t.LeafPlaced ∧ t.span = ⟨p, p.advance s.1⟩ := by
  unfold scanLeaf at h
  split at h
  · cases h
    exact ⟨Position.le_advance p _, rfl⟩
  split at h
  · next c joint rest _ =>
    cases h
    exact ⟨Position.lt_next p c, rfl⟩
  split at h
  · cases h
    exact ⟨Position.le_advance p _, rfl⟩
  split at h
  · cases h
    exact ⟨Position.le_advance p _, rfl⟩
  · cases h

theorem scanLexeme_lexed {p q : Position} {cs taken rest : List Char} {found ls : List Lexeme}
    (h : scanLexeme p cs = some (found, taken, rest)) (hls : Lexed (p.advance taken) ls q) :
    Lexed p (found ++ ls) q := by
  have hleaf : ((scanLeaf p cs).map fun r => ([Lexeme.leaf r.1], r.2)) = some (found, taken, rest) →
      Lexed p (found ++ ls) q := by
    intro h
    rw [Option.map_eq_some_iff] at h
    obtain ⟨⟨t, s⟩, hleaf, h⟩ := h
    cases h
    obtain ⟨ht, hspan⟩ := scanLeaf_placed hleaf
    refine .leaf ?_ ht ?_
    · rw [hspan]
    · rw [hspan]
      exact hls
  unfold scanLexeme at h
  split at h
  · cases h
    exact hls.of_le (Position.le_advance p _)
  split at h
  · split at h
    · cases h
      exact .doc (le_refl p) (Position.le_advance p _) hls
    · cases h
  split at h
  · cases h
  · next c rest' _ _ =>
    simp only at h
    split at h
    · split at h
      · exact hleaf h
      · cases h
        exact .opens (le_refl p) (Position.lt_next p c) hls
    · cases h
      exact .closes (le_refl p) (Position.lt_next p c) hls
    · exact hleaf h

theorem scanAll_lexed {n : Nat} {p : Position} {cs : List Char} {ls : List Lexeme}
    (h : scanAll n p cs = some ls) : ∃ q, Lexed p ls q := by
  induction n generalizing p cs ls with
  | zero =>
    cases cs with
    | nil =>
      cases h
      exact ⟨p, .nil (le_refl p)⟩
    | cons c cs => cases h
  | succ n ih =>
    cases cs with
    | nil =>
      cases h
      exact ⟨p, .nil (le_refl p)⟩
    | cons c cs =>
      simp only [scanAll] at h
      split at h
      · next found taken rest hlexeme =>
        rw [Option.map_eq_some_iff] at h
        obtain ⟨more, hmore, rfl⟩ := h
        obtain ⟨q, hq⟩ := ih hmore
        exact ⟨q, scanLexeme_lexed hlexeme hq⟩
      · cases h

/-! ## Nesting keeps the places -/

/-- The trees under the open frames, the last first, all stand before `p`. -/
def Stacked (lo : Position) : List Frame → List Tree → Position → Prop
  | [], trees, p => Placed lo trees.reverse p
  | f :: frames, trees, p =>
    (∃ first, f.start < first ∧ Placed first trees.reverse p) ∧ Stacked lo frames f.before f.start

theorem Stacked.push {lo p q : Position} {frames : List Frame} {trees us : List Tree}
    (h : Stacked lo frames trees p) (hus : Placed p us q) :
    Stacked lo frames (us.reverse ++ trees) q := by
  cases frames with
  | nil =>
    have htrees : Placed lo (trees.reverse ++ us) q := Placed.append h hus
    simpa [Stacked] using htrees
  | cons f frames =>
    obtain ⟨⟨first, hfirst, htrees⟩, hframes⟩ := h
    refine ⟨⟨first, hfirst, ?_⟩, hframes⟩
    simpa using htrees.append hus

theorem nest_leaves (ts : List Tree) (frames : List Frame) (trees : List Tree) (ls : List Lexeme) :
    nest frames trees (ts.map .leaf ++ ls) = nest frames (ts.reverse ++ trees) ls := by
  induction ts generalizing trees with
  | nil => rfl
  | cons t ts ih => simp [nest, ih]

theorem nest_placed {lo p q : Position} {frames : List Frame} {trees out : List Tree}
    {ls : List Lexeme} (hls : Lexed p ls q) (hframes : Stacked lo frames trees p)
    (h : nest frames trees ls = some out) : ∃ hi, Placed lo out hi := by
  induction hls generalizing frames trees with
  | @nil p q hle =>
    cases frames with
    | nil =>
      simp only [nest, Option.some.injEq] at h
      exact ⟨p, h ▸ hframes⟩
    | cons f frames => simp [nest] at h
  | @leaf p q t ls hlo ht hls ih =>
    have hone : Placed p [t] t.span.stop := .leaf hlo ht (.nil (le_refl _))
    exact ih (hframes.push hone) (by simpa [nest] using h)
  | @doc p q inner text span ls hlo hspan hls ih =>
    have hdoc : Placed p (docTrees inner text span ++ []) span.stop :=
      .doc hlo hspan (.nil (le_refl _))
    rw [List.append_nil] at hdoc
    rw [nest_leaves] at h
    exact ih (hframes.push hdoc) h
  | @opens p q d span ls hlo hspan hls ih =>
    have hbefore : Stacked lo frames trees span.start := hframes.push (.nil hlo)
    have hopen : Stacked lo (⟨d, span.start, trees⟩ :: frames) [] span.stop :=
      ⟨⟨span.stop, hspan, .nil (le_refl _)⟩, hbefore⟩
    exact ih hopen (by simpa [nest] using h)
  | @closes p q d span ls hlo hspan hls ih =>
    cases frames with
    | nil => simp [nest] at h
    | cons f frames =>
      obtain ⟨⟨first, hfirst, htrees⟩, hbefore⟩ := hframes
      simp only [nest] at h
      split at h
      · have hgroup : Placed f.start [.group d trees.reverse ⟨f.start, span.stop⟩] span.stop :=
          .group (le_refl _) hfirst htrees (lt_of_le_of_lt hlo hspan) (.nil (le_refl _))
        exact ih (hbefore.push hgroup) h
      · cases h

/-- The trees of a source text stand one after the other. -/
theorem scan_placed {source : String} {ts : List Tree} (h : scan source = some ts) :
    ∃ lo hi, Placed lo ts hi := by
  unfold scan at h
  match hm : splitMark source.toList with
  | (mark, cs) =>
    rw [hm] at h
    simp only [Option.bind_eq_some_iff] at h
    obtain ⟨ls, hall, hnest⟩ := h
    obtain ⟨q, hls⟩ := scanAll_lexed hall
    have hstart : Stacked (Position.start.advance mark) [] [] (Position.start.advance mark) :=
      Placed.nil (le_refl _)
    exact ⟨_, nest_placed hls hstart hnest⟩

end FetchKit.Source
