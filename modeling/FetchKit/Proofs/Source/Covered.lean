import FetchKit.Proofs.Source.Replace
import FetchKit.Proofs.Source.Splits
import FetchKit.Proofs.Source.Word

/-!
# The text that a span covers

In the place of a scanned identifier, punctuation character or literal stands its own text, and a
span that reaches over it covers this text. The trees of a documenting comment are the exception:
what stands in their place is the comment.
-/

namespace FetchKit.Source

instance : DecidableLT Position := fun _ _ => decidable_of_iff _ Position.lt_def.symm

/-! ## Characters in their places -/

/-- Of a text that starts at a place, the characters in the span. -/
def Span.charsIn (s : Span) : Position → List Char → List Char
  | _, [] => []
  | p, c :: cs =>
    if s.start ≤ p ∧ p < s.stop then c :: s.charsIn (p.next c) cs else s.charsIn (p.next c) cs

/-- The text that a span covers. -/
def Span.textIn (s : Span) (source : String) : String :=
  String.ofList (s.charsIn .start source.toList)

section

variable {s : Span} {p : Position} {cs : List Char}

theorem charsIn_append (s : Span) (p : Position) (cs ds : List Char) :
    s.charsIn p (cs ++ ds) = s.charsIn p cs ++ s.charsIn (p.advance cs) ds := by
  induction cs generalizing p with
  | nil => rfl
  | cons c cs ih =>
    rw [List.cons_append, Span.charsIn, Span.charsIn, ih, Position.advance_cons]
    split <;> rfl

theorem charsIn_of_before (h : p.advance cs ≤ s.start) : s.charsIn p cs = [] := by
  induction cs generalizing p with
  | nil => rfl
  | cons c cs ih =>
    have hlt : p < s.start :=
      lt_of_lt_of_le (p.lt_next c) (le_trans (Position.le_advance (p.next c) cs) h)
    rw [Span.charsIn, if_neg fun hin => not_le_of_gt hlt hin.1, ih h]

theorem charsIn_of_after (h : s.stop ≤ p) : s.charsIn p cs = [] := by
  induction cs generalizing p with
  | nil => rfl
  | cons c cs ih =>
    rw [Span.charsIn, if_neg fun hin => not_le_of_gt hin.2 h, ih (le_trans h (p.lt_next c).le)]

theorem charsIn_of_within (hstart : s.start ≤ p) (hstop : p.advance cs ≤ s.stop) :
    s.charsIn p cs = cs := by
  induction cs generalizing p with
  | nil => rfl
  | cons c cs ih =>
    have hlt : p < s.stop :=
      lt_of_lt_of_le (p.lt_next c) (le_trans (Position.le_advance (p.next c) cs) hstop)
    rw [Span.charsIn, if_pos ⟨hstart, hlt⟩, ih (le_trans hstart (p.lt_next c).le) hstop]

end

/-- The source has this text in this place. -/
def StandsAt (source text : List Char) (span : Span) : Prop :=
  ∃ before after, source = before ++ text ++ after ∧
    span = ⟨Position.start.advance before, (Position.start.advance before).advance text⟩

theorem StandsAt.charsIn_eq {source text : List Char} {span : Span} (h : StandsAt source text span) :
    span.charsIn .start source = text := by
  obtain ⟨before, after, rfl, rfl⟩ := h
  rw [charsIn_append, charsIn_append, charsIn_of_before (le_refl _),
    charsIn_of_within (le_refl _) (le_refl _), Position.advance_append, charsIn_of_after (le_refl _)]
  simp

theorem StandsAt.covered {source text : List Char} {span wide : Span} (h : StandsAt source text span)
    (hstart : wide.start ≤ span.start) (hstop : span.stop ≤ wide.stop) :
    text <:+: wide.charsIn .start source := by
  obtain ⟨before, after, rfl, rfl⟩ := h
  refine ⟨wide.charsIn .start before,
    wide.charsIn ((Position.start.advance before).advance text) after, ?_⟩
  rw [charsIn_append, charsIn_append, charsIn_of_within hstart hstop, Position.advance_append]

/-! ## One lexeme -/

/-- The text of the tree stands in its place. -/
def Tree.Stands (source : List Char) : Tree → Prop
  | .ident i => StandsAt source i.text.toList i.span ∧ IsSpelled i
  | .punct c _ span => StandsAt source [c] span
  | .literal text span => StandsAt source text.toList span
  | .group _ _ _ => False

theorem scanAnyWord_of {cs : List Char} {name : String} {raw : Bool} {s : Split}
    (h : scanAnyWord cs = some (name, raw, s)) :
    s.Of cs ∧ ∀ span, (Ident.text ⟨name, raw, span⟩).toList = s.1 := by
  unfold scanAnyWord at h
  split at h
  · split at h
    · next t ht =>
      simp only at h
      split at h
      · cases h
      · cases h
        exact ⟨(scanWord_of ht).after _, fun span => by simp [Ident.text, Split.after]⟩
    · cases h
  · obtain ⟨t, ht, h⟩ := Option.map_eq_some_iff.1 h
    cases h
    exact ⟨scanWord_of ht, fun span => by simp [Ident.text]⟩

theorem punctChar?_of {cs rest : List Char} {c : Char} (h : punctChar? cs = some (c, rest)) :
    cs = c :: rest := by
  unfold punctChar? at h
  split at h
  · split at h
    · cases h
    · split at h
      · cases h
        rfl
      · cases h
  · cases h

theorem scanPunct_of {cs rest : List Char} {c : Char} {joint : Bool}
    (h : scanPunct cs = some (c, joint, rest)) : cs = c :: rest := by
  unfold scanPunct at h
  split at h
  · next d more hd =>
    rw [punctChar?_of hd]
    split at h
    · split at h
      · split at h
        · cases h
        · cases h
          rfl
      · cases h
    · cases h
      rfl
  · cases h

theorem scanLeaf_stands {before cs : List Char} {t : Tree} {s : Split}
    (h : scanLeaf (Position.start.advance before) cs = some (t, s)) :
    s.Of cs ∧ t.Stands (before ++ cs) := by
  -- Each case gives the split, and the split gives the place.
  have hstands {text : List Char} (htext : s.1 = text) (hs : s.Of cs) :
      StandsAt (before ++ cs) text
        ⟨Position.start.advance before, (Position.start.advance before).advance s.1⟩ := by
    refine ⟨before, s.2, ?_, by rw [htext]⟩
    rw [← hs, htext, List.append_assoc]
  unfold scanLeaf at h
  split at h
  · next t ht =>
    cases h
    exact ⟨scanLiteral_of ht, hstands (by simp) (scanLiteral_of ht)⟩
  split at h
  · next c joint rest hpunct =>
    cases h
    have hs : Split.Of ([c], rest) cs := (scanPunct_of hpunct).symm
    exact ⟨hs, hstands rfl hs⟩
  split at h
  · next name raw t hword =>
    cases h
    have hspelled := scanIdent_isSpelled hword
    unfold scanIdent at hword
    split at hword
    · cases hword
    · obtain ⟨hs, htext⟩ := scanAnyWord_of hword
      exact ⟨hs, hstands (htext _).symm hs, hspelled _⟩
  split at h
  · next rest hrest =>
    cases h
    have hs : Split.Of (errorLiteral, rest) cs := (stripLead_eq_some hrest).symm
    exact ⟨hs, hstands (by simp) hs⟩
  · cases h

/-! ## A whole text -/

/-- The tree and all that it holds stand in their places, but for the trees of documenting
comments. -/
inductive Tree.Drawn (source : List Char) : Tree → Prop
  | leaf {t} (ht : t.Stands source) : Drawn source t
  | group {d content span} (hcontent : ∀ t ∈ content, Drawn source t) :
    Drawn source (.group d content span)
  | doc {inner text span t} (ht : t ∈ docTrees inner text span) : Drawn source t

def Lexeme.Drawn (source : List Char) : Lexeme → Prop
  | .leaf t => t.Drawn source
  | .opens _ _ => True
  | .closes _ _ => True

theorem scanLexeme_drawn {before cs taken rest : List Char} {found : List Lexeme}
    (h : scanLexeme (Position.start.advance before) cs = some (found, taken, rest)) :
    taken ++ rest = cs ∧ ∀ l ∈ found, l.Drawn (before ++ cs) := by
  have hleaf : ((scanLeaf (Position.start.advance before) cs).map fun r => ([Lexeme.leaf r.1], r.2)) =
      some (found, taken, rest) → taken ++ rest = cs ∧ ∀ l ∈ found, l.Drawn (before ++ cs) := by
    intro h
    obtain ⟨⟨t, s⟩, hleaf, h⟩ := Option.map_eq_some_iff.1 h
    cases h
    obtain ⟨hs, ht⟩ := scanLeaf_stands hleaf
    exact ⟨hs, by simpa [Lexeme.Drawn] using Tree.Drawn.leaf ht⟩
  unfold scanLexeme at h
  split at h
  · next s hblank =>
    cases h
    exact ⟨scanBlank_of hblank, by simp⟩
  split at h
  · next inner text s hdoc =>
    split at h
    · cases h
      refine ⟨scanDoc_of hdoc, fun l hl => ?_⟩
      obtain ⟨t, ht, rfl⟩ := List.mem_map.1 hl
      exact Tree.Drawn.doc ht
    · cases h
  split at h
  · cases h
  · simp only at h
    split at h
    · split at h
      · exact hleaf h
      · cases h
        exact ⟨rfl, by simp [Lexeme.Drawn]⟩
    · cases h
      exact ⟨rfl, by simp [Lexeme.Drawn]⟩
    · exact hleaf h

theorem scanAll_drawn {n : Nat} {before cs : List Char} {ls : List Lexeme}
    (h : scanAll n (Position.start.advance before) cs = some ls) :
    ∀ l ∈ ls, l.Drawn (before ++ cs) := by
  -- What was read goes over to `before`, and the whole text stays.
  induction n generalizing before cs ls with
  | zero =>
    cases cs with
    | nil =>
      cases h
      simp
    | cons c cs => cases h
  | succ n ih =>
    cases cs with
    | nil =>
      cases h
      simp
    | cons c cs =>
      simp only [scanAll] at h
      split at h
      · next found taken rest hlexeme =>
        obtain ⟨more, hmore, rfl⟩ := Option.map_eq_some_iff.1 h
        obtain ⟨hsplit, hfound⟩ := scanLexeme_drawn hlexeme
        rw [← Position.advance_append] at hmore
        have hrest := ih hmore
        rw [List.append_assoc, hsplit] at hrest
        exact List.forall_mem_append.2 ⟨hfound, hrest⟩
      · cases h

theorem nest_drawn {source : List Char} {frames : List Frame} {trees out : List Tree}
    {ls : List Lexeme} (h : nest frames trees ls = some out)
    (hframes : ∀ f ∈ frames, ∀ t ∈ f.before, t.Drawn source) (htrees : ∀ t ∈ trees, t.Drawn source)
    (hls : ∀ l ∈ ls, l.Drawn source) : ∀ t ∈ out, t.Drawn source := by
  induction ls generalizing frames trees with
  | nil =>
    cases frames with
    | nil =>
      cases h
      simpa using htrees
    | cons f frames => simp [nest] at h
  | cons l ls ih =>
    rw [List.forall_mem_cons] at hls
    obtain ⟨hl, hls⟩ := hls
    cases l with
    | leaf t =>
      exact ih (by simpa [nest] using h) hframes (List.forall_mem_cons.2 ⟨hl, htrees⟩) hls
    | opens d span =>
      exact ih (by simpa [nest] using h) (List.forall_mem_cons.2 ⟨htrees, hframes⟩) (by simp) hls
    | closes d span =>
      cases frames with
      | nil => simp [nest] at h
      | cons f frames =>
        obtain ⟨hbefore, hframes⟩ := List.forall_mem_cons.1 hframes
        simp only [nest] at h
        split at h
        · have hgroup : Tree.Drawn source (.group d trees.reverse ⟨f.start, span.stop⟩) :=
            .group (by simpa using htrees)
          exact ih h hframes (List.forall_mem_cons.2 ⟨hgroup, hbefore⟩) hls
        · cases h

theorem splitMark_of (cs : List Char) : (splitMark cs).Of cs := by
  unfold splitMark
  split
  · split <;> rfl
  · rfl

theorem scan_drawn {source : String} {ts : List Tree} (h : scan source = some ts) :
    ∀ t ∈ ts, t.Drawn source.toList := by
  have hmark := splitMark_of source.toList
  unfold scan at h
  match hm : splitMark source.toList with
  | (mark, cs) =>
    rw [hm] at h hmark
    simp only [Option.bind_eq_some_iff] at h
    obtain ⟨ls, hall, hnest⟩ := h
    have hls := scanAll_drawn hall
    rw [show mark ++ cs = source.toList from hmark] at hls
    exact nest_drawn hnest (by simp) (by simp) hls

/-! ## What is drawn -/

namespace Tree.Drawn

variable {source : List Char}

theorem ident {i : Ident} (h : Tree.Drawn source (.ident i)) :
    StandsAt source i.text.toList i.span ∧ IsSpelled i := by
  generalize ht : Tree.ident i = t at h
  cases h with
  | leaf h =>
    subst ht
    exact h
  | group => cases ht
  | doc h =>
    subst ht
    exact absurd h docTrees_ident

theorem punct {c : Char} {joint : Bool} {span : Span} (h : Tree.Drawn source (.punct c joint span))
    (hc : c ≠ '#' ∧ c ≠ '!') : StandsAt source [c] span := by
  generalize ht : Tree.punct c joint span = t at h
  cases h with
  | leaf h =>
    subst ht
    exact h
  | group => cases ht
  | @doc inner _ _ _ h =>
    subst ht
    cases inner <;> simp [docTrees, hc] at h

theorem content {d : Delimiter} {content : List Tree} {span : Span} {first last : Position}
    (h : Tree.Drawn source (.group d content span)) (hfirst : span.start < first)
    (hcontent : Placed first content last) : ∀ t ∈ content, t.Drawn source := by
  generalize ht : Tree.group d content span = t at h
  cases h with
  | leaf h =>
    subst ht
    exact h.elim
  | group h =>
    cases ht
    exact h
  | @doc inner text span' _ h =>
    subst ht
    obtain ⟨-, rfl, rfl⟩ : d = .bracket ∧ content = [.ident ⟨"doc", false, span'⟩,
        .punct '=' false span', .literal (Text.quote (String.ofList text)) span'] ∧ span = span' := by
      cases inner <;> simpa [docTrees] using h
    exact absurd hcontent.ident_cons.1 (not_le_of_gt hfirst)

end Tree.Drawn

/-! ## Stretches of trees -/

/-- Trees one after the other, each drawn from the source. -/
structure Stretch (source : String) (ts : List Tree) : Prop where
  inOrder : ts.Pairwise InOrder
  upright : ∀ t ∈ ts, Upright t
  drawn : ∀ t ∈ ts, t.Drawn source.toList

namespace Stretch

variable {source : String} {ts : List Tree}

theorem of_placed {lo hi : Position} (h : Placed lo ts hi)
    (hdrawn : ∀ t ∈ ts, t.Drawn source.toList) : Stretch source ts :=
  ⟨h.pairwise_inOrder, fun t ht => (h.bounds t ht).2.2, hdrawn⟩

theorem front {us : List Tree} (h : Stretch source (ts ++ us)) : Stretch source ts :=
  ⟨(List.pairwise_append.1 h.inOrder).1, fun t ht => h.upright t (List.mem_append_left us ht),
    fun t ht => h.drawn t (List.mem_append_left us ht)⟩

theorem text_covered (h : Stretch source ts) {t : Tree} (ht : t ∈ ts) {text : List Char}
    (hstands : StandsAt source.toList text t.span) :
    text <:+: ((spanOf ts).textIn source).toList := by
  obtain ⟨hstart, hstop⟩ := Span.covers_iff.1 (covers_of_mem h.inOrder h.upright t ht)
  rw [Span.textIn, String.toList_ofList]
  exact hstands.covered hstart hstop

end Stretch

end FetchKit.Source
