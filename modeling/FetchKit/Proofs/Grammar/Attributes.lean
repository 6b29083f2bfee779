import FetchKit.Proofs.Grammar.Blocks

/-!
# Attributes

Attributes are read one after the other, and each of them stands in brackets of its own. One that is
a word with a list after it consists of just these two trees.
-/

namespace FetchKit.Grammar

open FetchKit.Source Rule

variable {g : Rules}

/-! ## Attributes in brackets -/

/-- These trees are the attributes `as`, each in brackets after a `#`. -/
inductive Attributed (g : Rules) : List Tree → List Attribute → Prop
  | nil : Attributed g [] []
  | cons {joint s content span a out ts as}
    (ha : attributeContent g { rest := content } = .ok (a, { rest := [], written := out }))
    (hts : Attributed g ts as) :
    Attributed g (.punct '#' joint s :: .group .bracket content span :: ts) (a :: as)

theorem Attributed.split {front : List Tree} {before after : List Attribute} {a : Attribute}
    (h : Attributed g front (before ++ a :: after)) :
    ∃ ts joint s content span out us,
      front = ts ++ .punct '#' joint s :: .group .bracket content span :: us ∧
      Attributed g ts before ∧ Attributed g us after ∧
      attributeContent g { rest := content } = .ok (a, { rest := [], written := out }) := by
  induction before generalizing front with
  | nil =>
    cases h with
    | cons ha hus => exact ⟨[], _, _, _, _, _, _, rfl, .nil, hus, ha⟩
  | cons b before ih =>
    cases h with
    | cons hb hts =>
      obtain ⟨ts, joint, s, content, span, out, us, rfl, hbefore, hafter, ha⟩ := ih hts
      exact ⟨_, joint, s, content, span, out, us, rfl, .cons hb hbefore, hafter, ha⟩

theorem Attributed.append {ts us : List Tree} {as bs : List Attribute} (hts : Attributed g ts as)
    (hus : Attributed g us bs) : Attributed g (ts ++ us) (as ++ bs) := by
  induction hts with
  | nil => exact hus
  | cons ha _ ih => exact .cons ha ih

theorem within_eq_ok {α : Type} {body : Rule α} (hf : ∀ base, Rule.Forward base body)
    {d : Delimiter} {ts rest w out : List Tree} {l : Option Delimiter} {a : α} :
    within d body ⟨ts, w, l⟩ = .ok (a, ⟨rest, out, none⟩) ↔
      ∃ content s written, ts = .group d content s :: rest ∧ l = none ∧
        body { rest := content } = .ok (a, { rest := [], written }) ∧
        out = .group d written.reverse s :: w := by
  unfold within
  rw [bind_eq_ok]
  constructor
  · rintro ⟨⟨b, missed⟩, c₁, henter, h⟩
    obtain ⟨content, s, us, inner, hts, hinner, hmissed, rfl⟩ := enter_eq_ok.1 henter
    simp only [run_bind, run_leave, andThen_ok, run_pure, Except.ok.injEq, Prod.mk.injEq,
      Cursor.mk.injEq, Option.or_eq_none_iff] at h
    obtain ⟨rfl, rfl, rfl, hleft, rfl⟩ := h
    obtain rfl := ((hf _).step (.refl _) hinner).noted hleft
    have hrest : inner.rest = [] := by
      cases hr : inner.rest with
      | nil => rfl
      | cons t ts => simp [hr] at hmissed
    refine ⟨content, s, inner.written, hts, rfl, ?_, rfl⟩
    rw [hinner, ← hrest, ← hleft]
  · rintro ⟨content, s, written, rfl, rfl, hbody, rfl⟩
    refine ⟨(a, none), _, enter_eq_ok.2 ⟨content, s, rest, _, rfl, hbody, rfl, rfl⟩, ?_⟩
    simp

/-- One round of `outerAttributes`. -/
def attributeRound (g : Rules) (found : List Attribute) : Rule (Progress (List Attribute)) := do
  if ← peek (op "#") then return .again ((← outerAttribute g) :: found) else return .done found

theorem outerAttributes_eq (g : Rules) :
    outerAttributes g = do return (← iterate [] (attributeRound g)).reverse := rfl

instance attributeRound_forward [g.Forward] (base : Cursor) (found : List Attribute) :
    Rule.Forward base (attributeRound g found) := by
  unfold attributeRound; infer_instance

theorem iterateFor_attributeRound_sound [g.Forward] {n : Nat} {found out : List Attribute}
    {c c' : Cursor} (h : iterateFor n found (attributeRound g) c = .ok (out, c'))
    (hl : c'.leftover = none) :
    ∃ front as, c.rest = front ++ c'.rest ∧ out = as.reverse ++ found ∧ Attributed g front as := by
  induction n generalizing found c with
  | zero =>
    cases h
    exact ⟨[], [], rfl, rfl, .nil⟩
  | succ n ih =>
    unfold iterateFor attributeRound at h
    simp only [run_bind, run_peek, andThen_ok, run_ite] at h
    split at h
    · obtain ⟨p, c₁, hround, h⟩ := andThen_eq_ok.1 h
      obtain ⟨a, c₂, ha, hround⟩ := andThen_eq_ok.1 hround
      cases hround
      obtain ⟨front, as, hrest, rfl, has⟩ := ih h
      have hforward : Rule.Forward c₁ (iterateFor n (a :: found) (attributeRound g)) :=
        iterateFor_forward n _ _
      have hl₁ := (hforward.step (.refl _) h).noted hl
      obtain ⟨u, c₂, hhash, hcontent⟩ := bind_eq_ok.1 ha
      obtain ⟨joint, s, ts, hc, rfl⟩ := (eatOp_one (d := '#') (by decide) (by decide)).1 hhash
      obtain ⟨rest₁, w₁, l₁⟩ := c₁
      obtain rfl := hl₁
      obtain ⟨content, span, out, hts, -, hbody, -⟩ := (within_eq_ok inferInstance).1 hcontent
      refine ⟨.punct '#' joint s :: .group .bracket content span :: front, a :: as, ?_, by simp,
        .cons hbody has⟩
      rw [hc, hts]
      simpa using hrest
    · cases h
      exact ⟨[], [], rfl, rfl, .nil⟩

theorem iterateFor_attributeRound_complete [g.Forward] {front rest : List Tree}
    {as : List Attribute} (h : Attributed g front as) (hrest : startsOperator ['#'] rest = false) {n : Nat}
    (hn : front.length < n) (found : List Attribute) (w : List Tree) :
    ∃ out, iterateFor n found (attributeRound g) ⟨front ++ rest, w, none⟩ =
      .ok (as.reverse ++ found, ⟨rest, out, none⟩) := by
  induction h generalizing n found w with
  | nil =>
    obtain ⟨n, rfl⟩ := Nat.exists_eq_add_of_lt hn
    refine ⟨w, ?_⟩
    simp [iterateFor, ↓attributeRound, hrest]
  | @cons joint s content span a out ts as ha hts ih =>
    obtain ⟨n, rfl⟩ := Nat.exists_eq_succ_of_ne_zero (Nat.ne_zero_of_lt hn)
    have hts' : ts.length < n := by
      simp only [List.length_cons] at hn
      omega
    have hcontent : within .bracket (attributeContent g)
        ⟨.group .bracket content span :: (ts ++ rest), .punct '#' false s :: w, none⟩ =
          .ok (a, ⟨ts ++ rest, .group .bracket out.reverse span :: .punct '#' false s :: w, none⟩) :=
      (within_eq_ok inferInstance).2 ⟨content, span, out, rfl, rfl, ha, rfl⟩
    obtain ⟨out', ih⟩ := ih hts' (a :: found)
      (.group .bracket out.reverse span :: .punct '#' false s :: w)
    refine ⟨out', ?_⟩
    simp [iterateFor, ↓attributeRound, ↓outerAttribute, startsOperator, setOperator, hcontent]
    simpa using ih

theorem outerAttributes_sound [g.Forward] {c c' : Cursor} {as : List Attribute}
    (h : outerAttributes g c = .ok (as, c')) (hl : c'.leftover = none) :
    ∃ front, c.rest = front ++ c'.rest ∧ Attributed g front as := by
  rw [outerAttributes_eq, bind_eq_ok] at h
  obtain ⟨found, c₁, hfound, h⟩ := h
  cases h
  obtain ⟨front, as, hrest, rfl, has⟩ := iterateFor_attributeRound_sound hfound hl
  exact ⟨front, hrest, by simpa using has⟩

theorem outerAttributes_complete [g.Forward] {front rest : List Tree} {as : List Attribute}
    (h : Attributed g front as) (hrest : startsOperator ['#'] rest = false) (w : List Tree) :
    ∃ out, outerAttributes g ⟨front ++ rest, w, none⟩ = .ok (as, ⟨rest, out, none⟩) := by
  have hlength : front.length < (front ++ rest).length + 1 := by
    rw [List.length_append]
    omega
  obtain ⟨out, hout⟩ := iterateFor_attributeRound_complete h hrest hlength [] w
  refine ⟨out, ?_⟩
  rw [outerAttributes_eq, bind_eq_ok]
  exact ⟨as.reverse ++ [], ⟨rest, out, none⟩, hout, by simp⟩

/-! ## Lists in attributes -/

theorem isWord_path {p : Path} {word : String} (h : p.isWord word = true) :
    ∃ i, p = ⟨false, [{ ident := i }]⟩ ∧ i.isWord word = true := by
  unfold Path.isWord at h
  split at h
  · next i hi =>
    refine ⟨i, ?_, h⟩
    unfold Path.ident? at hi
    split at hi
    · next leading segments hleading hsegments =>
      cases hi
      obtain ⟨leading, segments⟩ := p
      simp_all
    · cases hi
  · cases h

theorem nextName_cases {segments : List Segment} {trailing : Bool} {c c' : Cursor}
    {p : Progress (List Segment × Bool)} (h : nextName (segments, trailing) c = .ok (p, c')) :
    (∃ i, p = .again ({ ident := i } :: segments, true)) ∨
      (∃ i, p = .done ({ ident := i } :: segments, false) ∧ c.rest = .ident i :: c'.rest) ∨
      p = .done (segments, trailing) ∧ c' = c := by
  unfold nextName at h
  simp only [run_bind, run_peekAny, andThen_ok, run_ite] at h
  split at h
  · obtain ⟨i, c₁, hi, h⟩ := andThen_eq_ok.1 h
    obtain ⟨ts, hrest, rfl⟩ := eatAnyIdent_eq_ok.1 hi
    simp only [run_bind, run_peek, andThen_ok, run_ite] at h
    split at h
    · obtain ⟨u, c₂, -, h⟩ := andThen_eq_ok.1 h
      cases h
      exact .inl ⟨i, rfl⟩
    · cases h
      exact .inr (.inl ⟨i, rfl, hrest⟩)
  · cases h
    exact .inr (.inr ⟨rfl, rfl⟩)

theorem iterateFor_nextName {n : Nat} {found segments : List Segment} {trailing : Bool}
    {c c' : Cursor} (hfound : found ≠ [])
    (h : iterateFor n (found, true) nextName c = .ok ((segments, trailing), c')) :
    segments ≠ [] ∧ (trailing = true ∨ 2 ≤ segments.length) := by
  let P : List Segment × Bool → Cursor → Prop := fun s _ => s.1 ≠ [] ∧ (s.2 = true ∨ 2 ≤ s.1.length)
  have hround : ∀ {s c p c'}, P s c → nextName s c = .ok (p, c') → P p.state c' := by
    rintro ⟨found, trailing⟩ c p c' ⟨hne, hmore⟩ hround
    have hlength : 1 ≤ found.length := List.length_pos_iff.2 hne
    rcases nextName_cases hround with ⟨i, rfl⟩ | ⟨i, rfl, -⟩ | ⟨rfl, -⟩
    · exact ⟨List.cons_ne_nil _ _, .inl rfl⟩
    · exact ⟨List.cons_ne_nil _ _, .inr (Nat.succ_le_succ hlength)⟩
    · exact ⟨hne, hmore⟩
  have hlast := iterateFor_preserves (P := P) hround ⟨hfound, .inl rfl⟩ h
  exact hlast

theorem plainPath_isWord {c c' : Cursor} {p : Path} {word : String} (h : plainPath c = .ok (p, c'))
    (hword : p.isWord word = true) :
    ∃ i, c.rest = .ident i :: c'.rest ∧ i.isWord word = true := by
  obtain ⟨i, rfl, hi⟩ := isWord_path hword
  refine ⟨i, ?_, hi⟩
  rw [plainPath_eq] at h
  obtain ⟨leading, c₁, hleading, hnames⟩ := bind_eq_ok.1 h
  obtain ⟨⟨segments, trailing⟩, c₂, hsegments, hend⟩ := bind_eq_ok.1 hnames
  have hstart : leading = false → c₁ = c := by
    rintro rfl
    rw [run_eatOp?] at hleading
    split at hleading
    · obtain ⟨u, c₂, -, h⟩ := andThen_eq_ok.1 hleading
      cases h
    · cases hleading
      rfl
  rw [run_iterate] at hsegments
  obtain ⟨round, c₃, hround, hmore⟩ := andThen_eq_ok.1 hsegments
  dsimp only at hend
  rw [run_ite] at hend
  rcases nextName_cases hround with ⟨j, rfl⟩ | ⟨j, rfl, hrest⟩ | ⟨rfl, rfl⟩
  · obtain ⟨hne, htwo⟩ := iterateFor_nextName (List.cons_ne_nil _ _) hmore
    rw [List.isEmpty_eq_false_iff.2 hne, if_neg Bool.false_ne_true, run_ite] at hend
    split at hend
    · cases hend
    · next htrailing =>
      simp only [run_pure, Except.ok.injEq, Prod.mk.injEq, Path.mk.injEq] at hend
      have hlength := congrArg List.length hend.1.2
      rw [List.length_reverse] at hlength
      rcases htwo with htwo | htwo
      · exact absurd htwo htrailing
      · simp [hlength] at htwo
  · cases hmore
    cases hend
    rw [← hstart rfl, hrest]
  · cases hmore
    rw [if_pos List.isEmpty_nil] at hend
    obtain ⟨j, c₄, hj, hpath⟩ := bind_eq_ok.1 hend
    cases hpath
    obtain ⟨-, ts, hrest, rfl⟩ := eatName_eq_ok.1 hj
    rw [← hstart rfl, hrest]

theorem valueAfter_gives (g : Rules) (path : Path) (c : Cursor) :
    Gives (fun a => a.path = path ∧ ∀ d tokens, a.content ≠ .list d tokens) (valueAfter g path)
      c := by
  unfold valueAfter
  with_reducible repeat' first
    | exact gives_pure (by simp)
    | exact gives_complain _
    | refine gives_ite (fun _ => ?_) fun _ => ?_
    | refine gives_bind fun _ _ _ => ?_

theorem afterPath_list {path : Path} {c c' : Cursor} {a : Attribute}
    (h : afterPath g path c = .ok (a, c')) :
    a.path = path ∧ ∀ d tokens, a.content = .list d tokens →
      ∃ s, c.rest = .group d tokens s :: c'.rest := by
  rw [afterPath, run_bind, run_trees, andThen_ok] at h
  match hc : c.rest with
  | .group d tokens s :: ts =>
    simp only [hc, eatGroup, run_bind, run_trees, andThen_ok] at h
    cases h
    refine ⟨rfl, ?_⟩
    rintro d' tokens' hlist
    cases hlist
    exact ⟨s, rfl⟩
  | [] | .ident _ :: _ | .punct _ _ _ :: _ | .literal _ _ :: _ =>
    simp only [hc] at h
    obtain ⟨hpath, hnone⟩ := valueAfter_gives g path c _ _ h
    exact ⟨hpath, fun d tokens hlist => absurd hlist (hnone d tokens)⟩

theorem attributeContent_list {content tokens out : List Tree} {a : Attribute} {word : String}
    {d : Delimiter} (h : attributeContent g { rest := content } =
      .ok (a, { rest := [], written := out }))
    (hword : a.path.isWord word = true) (hne : word ≠ "unsafe")
    (hlist : a.content = .list d tokens) :
    ∃ i s, content = [.ident i, .group d tokens s] ∧ i.isWord word = true := by
  unfold attributeContent at h
  obtain ⟨starts, c₁, hstarts, h⟩ := bind_eq_ok.1 h
  cases hstarts
  rw [run_ite] at h
  split at h
  · next hstarts =>
    obtain ⟨i, c₁, hi, hcontent⟩ := bind_eq_ok.1 h
    obtain ⟨hpath, -⟩ := afterPath_list hcontent
    obtain ⟨ts, hrest, -⟩ := eatAnyIdent_eq_ok.1 hi
    -- The word would have to be `unsafe` itself.
    obtain ⟨j, hj, hjword⟩ := isWord_path hword
    rw [hpath] at hj
    cases hj
    have hrest : content = .ident i :: ts := hrest
    simp only [hrest, kw_test, startsWord, Ident.isWord, Bool.and_eq_true, beq_iff_eq] at hstarts hjword
    exact absurd (hjword.2.symm.trans hstarts.2) hne
  · obtain ⟨p, c₁, hp, hcontent⟩ := bind_eq_ok.1 h
    obtain ⟨rfl, htokens⟩ := afterPath_list hcontent
    obtain ⟨i, hi, hiword⟩ := plainPath_isWord hp hword
    obtain ⟨s, hs⟩ := htokens d tokens hlist
    rw [hs] at hi
    exact ⟨i, s, hi, hiword⟩

theorem attributeContent_reads_list (g : Rules) {i : Ident} (hi : i.isName = true) (d : Delimiter)
    (tokens : List Tree) (s : Span) :
    Reads (attributeContent g) [.ident i, .group d tokens s] []
      ⟨⟨false, [{ ident := i }]⟩, .list d tokens⟩ := by
  intro w l
  have hr := isWord_eq_false hi
  simp only [reservedWords, List.mem_cons, forall_eq_or_imp, List.not_mem_nil, or_false,
    forall_eq] at hr
  have hpath : Reads plainPath (lead false ++ .ident i :: pathTail []) [.group d tokens s] _ :=
    plainPath_reads false hi (by simp) rfl
  have hp := hpath w l
  simp [lead, pathTail] at hp ⊢
  simp [↓attributeContent, ↓afterPath, startsWord, hr, hp, ↓eatGroup]

end FetchKit.Grammar
