import FetchKit.Proofs.Grammar.Struct
import FetchKit.Proofs.Request.Decision
import FetchKit.Proofs.Source.Replace

/-!
# What a proposal repairs

A wrong conformance proposes a name for the place of the first path that the struct derives. With
this name in place of that path, and of nothing else, the struct is read again, its other
capabilities are what they were, and the request on it is given its code.
-/

namespace FetchKit.Request

open FetchKit.Source FetchKit.Grammar Rule

/-- The trees with the replacement where the proposal wants it. -/
def FixIt.apply (f : FixIt) (ts : List Tree) : List Tree :=
  replaceTrees f.span (.ident ⟨f.replacement, false, f.span⟩) ts

/-! ## The list of paths -/

theorem exchange_first {g : Rules} {ts piece : List Tree} {p : Path}
    {more : List (Path × List Tree)} (h : PathList g ts ((p, piece) :: more)) :
    ∃ rest, ts = piece ++ rest ∧ piece ≠ [] ∧ (∀ t ∈ rest.head?, t.isComma = true) ∧
      ∀ {new q}, IsPath g new rest q → PathList g (new ++ rest) ((q, new) :: more) := by
  cases h with
  | last hp =>
    refine ⟨[], by simp, ?_, by simp, fun {new q} hq => ?_⟩
    · obtain ⟨out, hp⟩ := hp
      simpa using path_rest_ne_nil hp
    · rw [List.append_nil]
      exact .last hq
  | more hp hps =>
    refine ⟨_, rfl, ?_, by simp [Tree.isComma], fun hq => .more hq hps⟩
    rintro rfl
    obtain ⟨out, hp⟩ := hp
    have hstarts := path_starts hp
    simp [startsAnyIdent, startsOperator] at hstarts

theorem isPath_name (g : Rules) {i : Ident} (hi : i.isName = true) {rest : List Tree}
    (hrest : ∀ t ∈ rest.head?, t.isComma = true) :
    IsPath g [.ident i] rest ⟨false, [{ ident := i }]⟩ := by
  have hends : EndsPath rest := by
    cases rest with
    | nil => exact ⟨rfl, rfl⟩
    | cons t ts =>
      have hcomma := hrest t rfl
      cases t <;> simp_all [Tree.isComma, EndsPath, startsOperator]
  have hpath : Reads (path g false) (lead false ++ .ident i :: pathTail []) rest _ :=
    path_reads_names g false false hi (by simp) hends
  exact ⟨_, hpath [] none⟩

/-! ## The attribute -/

theorem replace_list {lo hi : Position} {joint : Bool} {s span inside : Span} {i : Ident}
    {d : Delimiter} {piece more rest : List Tree}
    (h : Placed lo (.punct '#' joint s ::
      .group .bracket [.ident i, .group d (piece ++ more) inside] span :: rest) hi)
    (hne : piece ≠ []) (hmore : ∀ t ∈ more.head?, t.isComma = true) (new : Tree) :
    lo < (spanOf piece).start ∧
      replaceTrees (spanOf piece) new (.punct '#' joint s ::
          .group .bracket [.ident i, .group d (piece ++ more) inside] span :: rest) =
        .punct '#' joint s :: .group .bracket [.ident i, .group d (new :: more) inside] span ::
          rest := by
  rcases h.hash_cons with ⟨hlo, hhash, hgroup⟩ | ⟨text, hdoc, -⟩
  · obtain ⟨hspan, hrest, first, last, hfirst, hcontent, hlast⟩ := hgroup.group_cons
    obtain ⟨hi₁, hi₂, hlist⟩ := hcontent.ident_cons
    obtain ⟨hinside, hend, first', last', hfirst', htokens, hlast'⟩ := hlist.group_cons
    obtain ⟨hstart, hstop⟩ := htokens.spanOf_bounds hne
    -- The `#`, the brackets and the word all start before the list, and the brackets end after it.
    have hopen : inside.start < (spanOf piece).start := lt_of_lt_of_le hfirst' hstart
    have hclose : (spanOf piece).stop < inside.stop := lt_of_le_of_lt hstop hlast'
    have hword : i.span.start < (spanOf piece).start := lt_of_le_of_lt (le_trans hi₂ hinside) hopen
    have hbefore : span.start < (spanOf piece).start := lt_trans (lt_of_lt_of_le hfirst hi₁) hword
    have hafter : (spanOf piece).stop < span.stop := lt_trans hclose (lt_of_le_of_lt hend.le hlast)
    have hfront : s.start < (spanOf piece).start := lt_trans (lt_of_lt_of_le hhash hspan) hbefore
    refine ⟨lt_of_le_of_lt hlo hfront, ?_⟩
    rw [replaceTrees_cons (covers_of_lt (t := .punct '#' joint s) hfront), replaceTree,
      hgroup.replace_group hbefore hafter, replaceTrees_cons (covers_of_lt (t := .ident i) hword),
      replaceTree, hlist.replace_group hopen hclose, htokens.replace_front hne hmore]
  · simp [docTrees] at hdoc

theorem placed_front {g : Rules} {ts us : List Tree} {as : List Attribute}
    (h : Attributed g ts as) {lo hi : Position} (hp : Placed lo (ts ++ us) hi) :
    ∃ mid, Placed lo ts mid ∧ Placed mid us hi := by
  induction h generalizing lo with
  | nil => exact ⟨lo, .nil (le_refl lo), hp⟩
  | @cons joint s content span a out ts as ha hts ih =>
    rcases Placed.hash_cons hp with ⟨hlo, hhash, hgroup⟩ | ⟨text, hdoc, hlo, hspan, hrest⟩
    · obtain ⟨hspan, hrest, first, last, hfirst, hcontent, hlast⟩ := hgroup.group_cons
      obtain ⟨mid, hmid, hus⟩ := ih hrest
      exact ⟨mid, .leaf hlo hhash (.group hspan hfirst hcontent hlast hmid), hus⟩
    · obtain ⟨mid, hmid, hus⟩ := ih hrest
      have hdocs : Placed lo (docTrees false text s ++ ts) mid := .doc hlo hspan hmid
      rw [← hdoc] at hdocs
      exact ⟨mid, hdocs, hus⟩

/-! ## The attributes of a struct -/

theorem isName_of_isWord {i : Ident} {word : String} (h : i.isWord word = true)
    (hword : word ∉ reservedWords) : i.isName = true := by
  simp only [Ident.isWord, Bool.and_eq_true, beq_iff_eq] at h
  simp [Ident.isName, h.2, hword]

theorem replace_attribute {front rest piece : List Tree} {before after : List Attribute}
    {a : Attribute} {p : Path} {more : List (Path × List Tree)} {lo hi : Position} {i : Ident}
    (hplaced : Placed lo (front ++ rest) hi)
    (hfront : Attributed grammar front (before ++ a :: after)) (ha : Derives a ((p, piece) :: more))
    (hi : i.isName = true) :
    ∃ front' b, replaceTrees (spanOf piece) (.ident i) (front ++ rest) = front' ++ rest ∧
      Attributed grammar front' (before ++ b :: after) ∧
      Derives b ((⟨false, [{ ident := i }]⟩, [.ident i]) :: more) := by
  obtain ⟨hword, d, tokens, hlist, hpaths⟩ := ha
  obtain ⟨ts, joint, s, content, span, out, us, rfl, hts, hus, hcontent⟩ := hfront.split
  obtain ⟨j, inside, rfl, hj⟩ := attributeContent_list hcontent hword (by decide) hlist
  obtain ⟨tail, rfl, hne, hcomma, hexchange⟩ := exchange_first hpaths
  rw [List.append_assoc, List.cons_append, List.cons_append] at hplaced ⊢
  obtain ⟨mid, hbefore, hattribute⟩ := placed_front hts hplaced
  obtain ⟨hmid, hreplace⟩ := replace_list hattribute hne hcomma (.ident i)
  have hname := isName_of_isWord hj (by decide)
  have hreads := attributeContent_reads_list grammar hname d (.ident i :: tail) inside [] none
  refine ⟨ts ++ .punct '#' joint s ::
    .group .bracket [.ident j, .group d (.ident i :: tail) inside] span :: us, _, ?_,
    hts.append (.cons hreads hus), hj, d, _, rfl, hexchange (isPath_name grammar hi hcomma)⟩
  rw [hbefore.replace_append (.inl hmid), hreplace, List.append_assoc, List.cons_append,
    List.cons_append]

/-! ## The struct -/

theorem expand_wrong {whole : Span} {item : Item} {a : Arguments} {ds : List Diagnostic}
    {diag : Diagnostic} (h : (Declaration.ofItem whole item).expand a = .diagnosed ds)
    (hdiag : diag ∈ ds) (hid : diag.id = .wrongConformance) :
    ∃ d name p piece, item = .struct d ∧ FirstDerived d.attributes p piece ∧
      p.canonicalName = some name ∧
      diag.fixIts = [⟨"Add required capability", spanOf piece, name, "Codable"⟩] := by
  obtain ⟨e, hdecision⟩ := exists_decision whole a item
  obtain rfl : e = .diagnosed ds := hdecision.expand_eq.symm.trans h
  cases hdecision with
  | notStruct hitem => simp_all
  | noConformance hnone => simp_all
  | @wrongConformance d p piece name hfirst hname hwrong =>
    refine ⟨d, name, p, piece, rfl, hfirst, endsIn_iff.1 hname, ?_⟩
    rw [List.mem_singleton.1 hdiag]

theorem declaration_parse_eq_ok {ts : List Tree} {decl : Declaration} :
    Declaration.parse ts = .ok decl ↔
      ∃ item, Item.parse ts = .ok item ∧ Declaration.ofItem (spanOf ts) item = decl := by
  unfold Declaration.parse
  cases Item.parse ts <;> simp [Except.map]

/-- Whatever stands before a struct and whatever it derives: with the proposed name in the place of
a first capability that is a wrong one, the struct is read again. Its first capability has another
name, nothing else of it is changed, and it is given its code. -/
theorem proposal_repairs {source : String} {ts : List Tree} {decl : Declaration} {a : Arguments}
    {ds : List Diagnostic} {diag : Diagnostic} (hscan : scan source = some ts)
    (hparse : Declaration.parse ts = .ok decl) (hexpand : decl.expand a = .diagnosed ds)
    (hdiag : diag ∈ ds) (hid : diag.id = .wrongConformance) :
    ∃ fix c cs repaired, diag.fixIts = [fix] ∧ decl.capabilities = c :: cs ∧
      repaired = { decl with capabilities := { c with name := "Codable" } :: cs } ∧
      Declaration.parse (fix.apply ts) = .ok repaired ∧
      repaired.expand a = .generated (synthesize decl.ident a) := by
  obtain ⟨item, hitem, rfl⟩ := declaration_parse_eq_ok.1 hparse
  obtain ⟨d, name, p, piece, rfl, hfirst, hname, hfix⟩ := expand_wrong hexpand hdiag hid
  obtain ⟨before, derive, after, more, has, hderive, hbefore⟩ := hfirst
  obtain ⟨front, rest, rfl, hfront, hexchange⟩ := parse_struct hitem
  obtain ⟨lo, hi, hplaced⟩ := scan_placed hscan
  rw [has] at hfront
  have hcodable : Ident.isName ⟨"Codable", false, spanOf piece⟩ = true :=
    isName_of_isWord (isWord_plain _ _ "Codable") (by decide)
  obtain ⟨front', derive', hreplace, hfront', hderive'⟩ :=
    replace_attribute hplaced hfront hderive hcodable
  obtain ⟨name', -, hold⟩ := derived_eq_cons hbefore hderive after
  obtain ⟨codable, hcodable', hnew⟩ := derived_eq_cons hbefore hderive' after
  cases hcodable'
  rw [← has] at hold
  refine ⟨_, ⟨name', spanOf piece⟩, _, _, hfix, hold, rfl, ?_, ?_⟩
  · have hitem' := hexchange front' _ hfront'
    rw [← hreplace] at hitem'
    refine declaration_parse_eq_ok.2 ⟨_, hitem', ?_⟩
    simp only [Declaration.ofItem, hnew]
    rfl
  · simp [Declaration.expand, Declaration.validate, Declaration.ofItem, required]

/-- A qualified path with arguments, after a comment, a list that is not well formed and an empty
one. -/
theorem proposal_repairs_qualified :
    let source := "/// A page.\n#[derive(,)] #[derive()]\n" ++
      "#[derive(::serde::Serialize<u8>, Clone)] struct Page;"
    let page : Ident := ⟨"Page", false, ⟨⟨3, 48⟩, ⟨3, 52⟩⟩⟩
    let wrong : Capability := ⟨"Serialize", ⟨⟨3, 9⟩, ⟨3, 31⟩⟩⟩
    let clone : Capability := ⟨"Clone", ⟨⟨3, 33⟩, ⟨3, 38⟩⟩⟩
    let decl : Declaration := ⟨.struct, page, [wrong, clone]⟩
    let repaired : Declaration := ⟨.struct, page, [{ wrong with name := "Codable" }, clone]⟩
    let diag : Diagnostic :=
      { id := .wrongConformance
        message := "struct `Page` does not conform to Codable: " ++
          "its first derived capability is `Serialize`"
        span := wrong.span
        fixIts := [⟨"Add required capability", wrong.span, "Serialize", "Codable"⟩] }
    decl.expand {} = .diagnosed [diag] ∧ ∃ ts, scan source = some ts ∧
      Declaration.parse ts = .ok decl ∧ ∃ fix, diag.fixIts = [fix] ∧
        Declaration.parse (fix.apply ts) = .ok repaired ∧
        repaired.expand {} = .generated (synthesize page {}) := by
  intro source page wrong clone decl repaired diag
  have hread : (scan source).map Declaration.parse = some (.ok decl) := by decide +kernel
  obtain ⟨ts, hscan, hparse⟩ := Option.map_eq_some_iff.1 hread
  have hexpand : decl.expand {} = .diagnosed [diag] := by rfl
  obtain ⟨fix, c, cs, other, hfix, hcapabilities, hother, hparse', hexpand'⟩ :=
    proposal_repairs hscan hparse hexpand (List.mem_singleton.2 rfl) rfl
  cases hcapabilities
  subst hother
  exact ⟨hexpand, ts, hscan, hparse, fix, hfix, hparse', hexpand'⟩

end FetchKit.Request
