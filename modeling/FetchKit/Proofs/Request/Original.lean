import FetchKit.Proofs.Request.Spelling
import FetchKit.Proofs.Source.Covered

/-!
# What a proposal says of the source

A proposal for a wrong conformance points at the whole first path that the struct derives, and names
the last name of this path. What it names is what stands there only where the path is this name
alone.
-/

namespace FetchKit.Grammar

open FetchKit.Source Rule

/-! ## Marks in a path -/

/-- Characters that no word has and that come with every other part of a path. -/
def pathMarks : List Char := [':', '<']

def Marked (ts : List Tree) : Prop := ∃ c ∈ pathMarks, ∃ joint span, .punct c joint span ∈ ts

theorem Marked.mono {ts us : List Tree} (h : Marked ts) (hsub : ts ⊆ us) : Marked us := by
  obtain ⟨c, hc, joint, span, hmem⟩ := h
  exact ⟨c, hc, joint, span, hsub hmem⟩

theorem IsColons.marked {ts : List Tree} (h : IsColons ts) : Marked ts := by
  obtain ⟨s, joint, s', rfl⟩ := h
  exact ⟨':', by decide, true, s, by simp⟩

theorem marked_of_angle {ts : List Tree} (h : startsOperator ['<'] ts = true) : Marked ts := by
  match ts with
  | .punct c joint s :: ts =>
    obtain ⟨rfl, -⟩ : '<' = c ∧ ¬ c = '\'' := by simpa [startsOperator] using h
    exact ⟨'<', by decide, joint, s, by simp⟩
  | [] | .ident _ :: _ | .literal _ _ :: _ | .group _ _ _ :: _ => cases h

theorem IsArguments.marked {ts : List Tree} (h : IsArguments ts) : Marked ts := by
  cases h with
  | plain hargs =>
    obtain ⟨hangle, -, -⟩ := hargs.starts []
    rw [List.append_nil] at hangle
    exact marked_of_angle hangle
  | apart hcolons hargs => exact hcolons.marked.mono (List.subset_append_left _ _)

theorem SegmentText.WellFormed.name_or_marked {s : SegmentText} (h : s.WellFormed) :
    s.trees = [.ident s.ident] ∨ Marked s.trees := by
  cases h with
  | word hi => exact .inl rfl
  | name hi => exact .inl rfl
  | applied hi hargs => exact .inr (hargs.marked.mono (List.subset_cons_self _ _))

theorem Chained.name_or_marked {ss : List SegmentText} {ts : List Tree} (h : Chained ss ts)
    (hss : ∀ s ∈ ss, s.WellFormed) : (∃ i, ts = [.ident i]) ∨ Marked ts := by
  cases h with
  | last s => exact (hss s (by simp)).name_or_marked.imp_left fun h => ⟨s.ident, h⟩
  | more s hcolons h => exact .inr (hcolons.marked.mono (by simp))

theorem PathText.Spells.name_or_marked {p : PathText} {ts : List Tree} (h : p.Spells ts)
    (hp : p.WellFormed) : (∃ i, ts = [.ident i]) ∨ Marked ts := by
  cases h with
  | plain h => exact h.name_or_marked hp.2
  | rooted hcolons h => exact .inr (hcolons.marked.mono (List.subset_append_left _ _))

/-! ## The name of a path -/

theorem Chained.exists_last {ss : List SegmentText} {ts : List Tree} (h : Chained ss ts) :
    ∃ s, ss.getLast? = some s ∧ .ident s.ident ∈ ts := by
  induction h with
  | last s => exact ⟨s, rfl, by simp [SegmentText.trees]⟩
  | more s hcolons h ih =>
    obtain ⟨last, hlast, hmem⟩ := ih
    exact ⟨last, by simp [List.getLast?_cons, hlast], by simp [hmem]⟩

theorem PathText.Spells.exists_name {p : PathText} {ts : List Tree} (h : p.Spells ts) :
    ∃ i, .ident i ∈ ts ∧ p.name = some i.name := by
  cases h with
  | plain h =>
    obtain ⟨s, hs, hmem⟩ := h.exists_last
    exact ⟨s.ident, hmem, by simp [PathText.name, hs]⟩
  | rooted hcolons h =>
    obtain ⟨s, hs, hmem⟩ := h.exists_last
    exact ⟨s.ident, List.mem_append_right _ hmem, by simp [PathText.name, hs]⟩

end FetchKit.Grammar

namespace FetchKit.Request

open FetchKit.Source FetchKit.Grammar FetchKit.Text

/-! ## The text of a path -/

theorem not_mem_of_isWordText {cs : List Char} (h : IsWordText cs) {c : Char}
    (hc : c ∈ pathMarks) : c ∉ cs := by
  have hmarks : ∀ c ∈ pathMarks, isWordStart c = false ∧ isWordPart c = false :=
    forall_mem_of_all (by decide)
  obtain ⟨hstart, hpart⟩ := hmarks c hc
  obtain ⟨d, rest, rfl, hd, hrest⟩ := h
  rintro (_ | ⟨_, hmem⟩)
  · simp [hd] at hstart
  · simp [hrest c hmem] at hpart

theorem name_suffix_text (i : Ident) : i.name.toList <:+ i.text.toList := by
  unfold Ident.text
  split
  · rw [String.toList_append]
    exact List.suffix_append _ _
  · exact List.suffix_refl _

theorem text_eq_name {i : Ident} : i.text = i.name ↔ i.raw = false := by
  unfold Ident.text
  cases i.raw with
  | false => simp
  | true =>
    simp only [if_true, Bool.true_eq_false, iff_false]
    intro h
    have hlength := congrArg String.length h
    simp at hlength

theorem spanOf_ident (i : Ident) : spanOf [.ident i] = i.span := rfl

theorem textIn_path {source name : String} {p : PathText} {piece : List Tree}
    (hpiece : Stretch source piece) (hp : p.WellFormed) (hspells : p.Spells piece)
    (hname : p.name = some name) :
    name.toList <:+: ((spanOf piece).textIn source).toList ∧
      ((spanOf piece).textIn source = name ↔ ∃ i, piece = [.ident i] ∧ i.raw = false) := by
  obtain ⟨last, hlast, hlastname⟩ := hspells.exists_name
  obtain rfl : last.name = name := Option.some.inj (hlastname.symm.trans hname)
  obtain ⟨hstands, hspelled⟩ := (hpiece.drawn _ hlast).ident
  refine ⟨(name_suffix_text last).isInfix.trans (hpiece.text_covered hlast hstands), ?_⟩
  rcases hspells.name_or_marked hp with ⟨i, rfl⟩ | ⟨c, hc, joint, span, hmem⟩
  · obtain rfl : last = i := by simpa using hlast
    have htext : (spanOf [.ident last]).textIn source = last.text := by
      rw [spanOf_ident, Span.textIn, hstands.charsIn_eq, String.ofList_toList]
    rw [htext, text_eq_name]
    simp
  · -- The mark is in the text, and no name has it.
    constructor
    · intro htext
      have hplain : ∀ c ∈ pathMarks, c ≠ '#' ∧ c ≠ '!' := forall_mem_of_all (by decide)
      have hmark : StandsAt source.toList [c] span := (hpiece.drawn _ hmem).punct (hplain c hc)
      have hin := (hpiece.text_covered hmem hmark).subset (List.mem_singleton.2 rfl)
      rw [htext] at hin
      exact absurd hin (not_mem_of_isWordText hspelled.1 hc)
    · rintro ⟨i, rfl, -⟩
      simp at hmem

/-! ## The first path -/

theorem stretch_list {source : String} {front rest tokens : List Tree} {before after : List Attribute}
    {a : Attribute} {lo hi : Position} {d : Delimiter} (hplaced : Placed lo (front ++ rest) hi)
    (hdrawn : ∀ t ∈ front ++ rest, t.Drawn source.toList)
    (hfront : Attributed grammar front (before ++ a :: after)) (hword : a.path.isWord "derive" = true)
    (hlist : a.content = .list d tokens) : Stretch source tokens := by
  obtain ⟨ts, joint, s, content, span, out, us, rfl, hts, hus, hcontent⟩ := hfront.split
  obtain ⟨j, inside, rfl, hj⟩ := attributeContent_list hcontent hword (by decide) hlist
  rw [List.append_assoc, List.cons_append, List.cons_append] at hplaced hdrawn
  obtain ⟨mid, hbefore, hattribute⟩ := placed_front hts hplaced
  rcases hattribute.hash_cons with ⟨-, -, hgroup⟩ | ⟨text, hdoc, -⟩
  · -- Into the brackets, and then into the list.
    obtain ⟨-, -, first, last, hfirst, hcontent, -⟩ := hgroup.group_cons
    have hattr := hdrawn (.group .bracket [.ident j, .group d tokens inside] span) (by simp)
    have hbrackets := hattr.content hfirst hcontent
    obtain ⟨-, -, hlist⟩ := hcontent.ident_cons
    obtain ⟨-, -, first', last', hfirst', htokens, -⟩ := hlist.group_cons
    exact .of_placed htokens ((hbrackets (.group d tokens inside) (by simp)).content hfirst' htokens)
  · simp [docTrees] at hdoc

theorem FirstDerived.stretch {source : String} {ts piece : List Tree} {d : DataType} {p : Path}
    (h : FirstDerived d.attributes p piece) (hscan : scan source = some ts)
    (hitem : Item.parse ts = .ok (.struct d)) :
    Stretch source piece ∧ ∃ q : PathText, q.WellFormed ∧ q.Spells piece ∧ q.value = p := by
  obtain ⟨before, derive, after, more, has, ⟨hword, e, tokens, hlist, hpaths⟩, -⟩ := h
  obtain ⟨front, rest, rfl, hfront, -⟩ := parse_struct hitem
  obtain ⟨lo, hi, hplaced⟩ := scan_placed hscan
  rw [has] at hfront
  have htokens : Stretch source tokens :=
    stretch_list hplaced (scan_drawn hscan) hfront hword hlist
  obtain ⟨tail, rfl, -, -, -⟩ := exchange_first hpaths
  obtain ⟨rest, hpath⟩ := hpaths.head_isPath
  exact ⟨htokens.front, hpath.spells⟩

/-- Whatever stands before a struct and whatever it derives: a proposal for a wrong conformance points
at the whole first path, and the line of help that comes with it names the last name of this path.
This name is in the text at that place, and it is this text exactly where the path is one identifier
that is not raw. -/
theorem proposal_original {source : String} {ts : List Tree} {decl : Declaration} {a : Arguments}
    {ds : List Diagnostic} {diag : Diagnostic} (hscan : scan source = some ts)
    (hparse : Declaration.parse ts = .ok decl) (hexpand : decl.expand a = .diagnosed ds)
    (hdiag : diag ∈ ds) (hid : diag.id = .wrongConformance) :
    ∃ d p piece fix, Item.parse ts = .ok (.struct d) ∧ FirstDerived d.attributes p piece ∧
      diag.fixIts = [fix] ∧ fix.span = spanOf piece ∧ p.canonicalName = some fix.original ∧
      diag.notices = [diag.headline, ⟨"help: Add required capability: replace `" ++ fix.original ++
        "` with `Codable`", fix.span⟩] ∧
      fix.original.toList <:+: (fix.span.textIn source).toList ∧
      (fix.span.textIn source = fix.original ↔ ∃ i, piece = [.ident i] ∧ i.raw = false) := by
  obtain ⟨item, hitem, rfl⟩ := declaration_parse_eq_ok.1 hparse
  obtain ⟨d, name, p, piece, rfl, hfirst, hname, hfix⟩ := expand_wrong hexpand hdiag hid
  obtain ⟨hpiece, q, hq, hspells, rfl⟩ := hfirst.stretch hscan hitem
  obtain ⟨hcovered, hexact⟩ := textIn_path hpiece hq hspells (q.canonicalName_value ▸ hname)
  refine ⟨d, q.value, piece, _, hitem, hfirst, hfix, rfl, hname, ?_, hcovered, hexact⟩
  simp [notices_eq, hfix, FixIt.help, String.append_assoc]

/-- One identifier, after a comment, in a list over two lines. -/
theorem proposal_original_plain :
    let source := "/// A page.\n#[derive(\n  Debug, Codable)] struct Page;"
    let wrong : Capability := ⟨"Debug", ⟨⟨3, 2⟩, ⟨3, 7⟩⟩⟩
    let decl : Declaration := ⟨.struct, ⟨"Page", false, ⟨⟨3, 26⟩, ⟨3, 30⟩⟩⟩,
      [wrong, ⟨"Codable", ⟨⟨3, 9⟩, ⟨3, 16⟩⟩⟩]⟩
    let diag : Diagnostic :=
      { id := .wrongConformance
        message := "struct `Page` does not conform to Codable: " ++
          "its first derived capability is `Debug`"
        span := wrong.span
        fixIts := [⟨"Add required capability", wrong.span, "Debug", "Codable"⟩] }
    decl.expand {} = .diagnosed [diag] ∧ ∃ ts, scan source = some ts ∧
      Declaration.parse ts = .ok decl ∧ wrong.span.textIn source = "Debug" ∧
      ∃ d p i, Item.parse ts = .ok (.struct d) ∧ FirstDerived d.attributes p [.ident i] ∧
        i.raw = false ∧ diag.notices.getLast? =
          some ⟨"help: Add required capability: replace `Debug` with `Codable`", wrong.span⟩ := by
  intro source wrong decl diag
  have hread : (scan source).map Declaration.parse = some (.ok decl) := by decide +kernel
  obtain ⟨ts, hscan, hparse⟩ := Option.map_eq_some_iff.1 hread
  have hexpand : decl.expand {} = .diagnosed [diag] := by rfl
  obtain ⟨d, p, piece, fix, hitem, hfirst, hfix, -, -, hnotices, -, hexact⟩ :=
    proposal_original hscan hparse hexpand (List.mem_singleton.2 rfl) rfl
  cases hfix
  have htext : wrong.span.textIn source = "Debug" := by decide +kernel
  obtain ⟨i, rfl, hraw⟩ := hexact.1 htext
  exact ⟨hexpand, ts, hscan, hparse, htext, d, p, i, hitem, hfirst, hraw, by rw [hnotices]; rfl⟩

/-- A path of two segments: the proposal names the second, and both stand there. -/
theorem proposal_original_qualified :
    let source := "#[derive(serde::Serialize)] struct Page;"
    let fix : FixIt := ⟨"Add required capability", ⟨⟨1, 9⟩, ⟨1, 25⟩⟩, "Serialize", "Codable"⟩
    ∃ ts decl diag, scan source = some ts ∧ Declaration.parse ts = .ok decl ∧
      decl.expand {} = .diagnosed [diag] ∧ diag.id = .wrongConformance ∧ diag.fixIts = [fix] ∧
      fix.span.textIn source = "serde::Serialize" ∧ fix.span.textIn source ≠ fix.original := by
  intro source fix
  let decl : Declaration := ⟨.struct, ⟨"Page", false, ⟨⟨1, 35⟩, ⟨1, 39⟩⟩⟩, [⟨"Serialize", fix.span⟩]⟩
  have hread : (scan source).map Declaration.parse = some (.ok decl) := by decide +kernel
  obtain ⟨ts, hscan, hparse⟩ := Option.map_eq_some_iff.1 hread
  have htext : fix.span.textIn source = "serde::Serialize" := by decide +kernel
  refine ⟨ts, decl, _, hscan, hparse, rfl, rfl, rfl, htext, ?_⟩
  rw [htext]
  decide

end FetchKit.Request
