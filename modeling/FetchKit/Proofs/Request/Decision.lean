import FetchKit.Proofs.Grammar.PathList
import FetchKit.Request.Expansion

/-!
# How a declaration is decided

The first path that any `derive` lists decides, whatever stands before it that derives nothing.
-/

namespace FetchKit.Request

open FetchKit.Source FetchKit.Grammar

/-! ## What an item derives -/

/-- The attribute is `derive` with a list of these paths, each with its trees. -/
def Derives (a : Attribute) (paths : List (Path × List Tree)) : Prop :=
  a.path.isWord "derive" = true ∧
    ∃ d tokens, a.content = .list d tokens ∧ PathList grammar tokens paths

/-- The first path of the first attribute that derives any. -/
def FirstDerived (as : List Attribute) (p : Path) (piece : List Tree) : Prop :=
  ∃ before a after more, as = before ++ a :: after ∧ Derives a ((p, piece) :: more) ∧
    ∀ b ∈ before, ∀ paths, Derives b paths → paths = []

theorem filterMap_capability? (ps : List (Path × List Tree)) :
    ps.filterMap capability? =
      (ps.map placed).filterMap fun a => a.1.canonicalName.map fun name => ⟨name, a.2⟩ := by
  rw [List.filterMap_map]
  rfl

theorem Derives.derivedBy_eq {a : Attribute} {paths : List (Path × List Tree)}
    (h : Derives a paths) : derivedBy a = paths.filterMap capability? := by
  obtain ⟨hword, d, tokens, hcontent, hlist⟩ := h
  obtain ⟨ps, hps, hsame⟩ := parseList_complete hlist
  simp only [derivedBy, hword, hcontent, hps, if_true]
  rw [filterMap_capability?, hsame, ← filterMap_capability?]

theorem derives_of_derivedBy {a : Attribute} (h : derivedBy a ≠ []) : ∃ paths, Derives a paths := by
  unfold derivedBy at h
  split at h
  · next hword =>
    split at h
    · next d tokens hcontent =>
      split at h
      · next ps hps =>
        obtain ⟨paths, hlist, -⟩ := parseList_sound hps
        exact ⟨paths, hword, d, tokens, hcontent, hlist⟩
      · exact absurd rfl h
    · exact absurd rfl h
  · exact absurd rfl h

theorem Derives.derivedBy_cons {a : Attribute} {p : Path} {piece : List Tree}
    {more : List (Path × List Tree)} (h : Derives a ((p, piece) :: more)) :
    ∃ name, p.canonicalName = some name ∧
      derivedBy a = ⟨name, spanOf piece⟩ :: more.filterMap capability? := by
  obtain ⟨name, hname⟩ : ∃ name, p.canonicalName = some name := by
    obtain ⟨-, d, tokens, -, hlist⟩ := h
    obtain ⟨rest, hp⟩ := hlist.head_isPath
    exact hp.canonicalName
  refine ⟨name, hname, ?_⟩
  rw [h.derivedBy_eq]
  simp [capability?, hname]

theorem derivedBy_eq_nil {a : Attribute} :
    derivedBy a = [] ↔ ∀ paths, Derives a paths → paths = [] := by
  constructor
  · intro h paths hd
    cases paths with
    | nil => rfl
    | cons first more =>
      obtain ⟨p, piece⟩ := first
      obtain ⟨name, -, hcons⟩ := hd.derivedBy_cons
      rw [h] at hcons
      cases hcons
  · intro h
    match hc : derivedBy a with
    | [] => rfl
    | c :: cs =>
      obtain ⟨paths, hd⟩ := derives_of_derivedBy (hc ▸ List.cons_ne_nil c cs)
      obtain rfl := h paths hd
      rw [← hc, hd.derivedBy_eq]
      rfl

/-! ## The first path -/

theorem derived_eq_cons {before : List Attribute} {a : Attribute} {p : Path} {piece : List Tree}
    {more : List (Path × List Tree)} (hbefore : ∀ b ∈ before, ∀ paths, Derives b paths → paths = [])
    (ha : Derives a ((p, piece) :: more)) (after : List Attribute) :
    ∃ name, p.canonicalName = some name ∧ derived (before ++ a :: after) =
      ⟨name, spanOf piece⟩ :: (more.filterMap capability? ++ after.flatMap derivedBy) := by
  obtain ⟨name, hname, hcons⟩ := ha.derivedBy_cons
  have hnil : before.flatMap derivedBy = [] := by
    rw [List.flatMap_eq_nil_iff]
    intro b hb
    exact derivedBy_eq_nil.2 (hbefore b hb)
  exact ⟨name, hname, by simp [derived, hnil, hcons]⟩

theorem FirstDerived.derived_eq {as : List Attribute} {p : Path} {piece : List Tree}
    (h : FirstDerived as p piece) :
    ∃ name cs, p.canonicalName = some name ∧ derived as = ⟨name, spanOf piece⟩ :: cs := by
  obtain ⟨before, a, after, more, rfl, ha, hbefore⟩ := h
  obtain ⟨name, hname, hderived⟩ := derived_eq_cons hbefore ha after
  exact ⟨name, _, hname, hderived⟩

theorem firstDerived_of_derived {as : List Attribute} {c : Capability} {cs : List Capability}
    (h : derived as = c :: cs) :
    ∃ p piece, FirstDerived as p piece ∧ p.canonicalName = some c.name ∧ spanOf piece = c.span := by
  induction as with
  | nil => cases h
  | cons a as ih =>
    by_cases hnil : derivedBy a = []
    · -- An attribute that derives nothing is skipped as a whole.
      rw [derived, List.flatMap_cons, hnil, List.nil_append] at h
      obtain ⟨p, piece, ⟨before, b, after, more, rfl, hd, hbefore⟩, hp⟩ := ih h
      refine ⟨p, piece, ⟨a :: before, b, after, more, rfl, hd, ?_⟩, hp⟩
      intro x hx
      rcases List.mem_cons.1 hx with rfl | hx
      · exact derivedBy_eq_nil.1 hnil
      · exact hbefore x hx
    · obtain ⟨paths, hd⟩ := derives_of_derivedBy hnil
      cases paths with
      | nil => exact absurd hd.derivedBy_eq hnil
      | cons head more =>
        obtain ⟨p, piece⟩ := head
        obtain ⟨name, hname, ha⟩ := hd.derivedBy_cons
        refine ⟨p, piece, ⟨[], a, as, more, rfl, hd, by simp⟩, ?_⟩
        rw [derived, List.flatMap_cons, ha, List.cons_append] at h
        cases h
        exact ⟨hname, rfl⟩

theorem derived_eq_nil {as : List Attribute} :
    derived as = [] ↔ ∀ p piece, ¬ FirstDerived as p piece := by
  constructor
  · intro h p piece hf
    obtain ⟨name, cs, -, hcons⟩ := hf.derived_eq
    rw [h] at hcons
    cases hcons
  · intro h
    match hd : derived as with
    | [] => rfl
    | c :: cs =>
      obtain ⟨p, piece, hf, -⟩ := firstDerived_of_derived hd
      exact absurd hf (h p piece)

/-! ## The decision -/

/-- The last segment of the path has this name, with `r#` before it or not. -/
def EndsIn (p : Path) (name : String) : Prop :=
  ∃ front last, p.segments = front ++ [last] ∧ last.ident.name = name

theorem endsIn_iff {p : Path} {name : String} : EndsIn p name ↔ p.canonicalName = some name := by
  rw [Path.canonicalName, Option.map_eq_some_iff]
  constructor
  · rintro ⟨front, last, hsegments, hlast⟩
    exact ⟨last, by rw [hsegments, List.getLast?_concat], hlast⟩
  · rintro ⟨last, hlast, hname⟩
    obtain ⟨front, hsegments⟩ := List.getLast?_eq_some_iff.1 hlast
    exact ⟨front, last, hsegments, hname⟩

/-- What an item that is no struct is said to be: a kind, a name and the place of the name. An item
without a name is named by its place. -/
inductive NotStruct (whole : Span) : Item → String → String → Span → Prop
  | enum (d : DataType) : NotStruct whole (.enum d) "enum" d.ident.text d.ident.span
  | union (d : DataType) : NotStruct whole (.union d) "union" d.ident.text d.ident.span
  | trait (i : Ident) : NotStruct whole (.trait i) "trait" i.text i.span
  | named (i : Ident) : NotStruct whole (.named i) "item" i.text i.span
  | impl (b : ImplBlock) : NotStruct whole (.impl b) "item" "item" whole
  | unnamed : NotStruct whole .unnamed "item" "item" whole

/-- What is decided about an item with a request on it. -/
inductive Decision (whole : Span) (a : Arguments) : Item → Expansion → Prop
  | notStruct {item kind name place} (hitem : NotStruct whole item kind name place) :
    Decision whole a item (.diagnosed [{
      severity := .error
      id := .notStruct
      message := "declaration needs to be a struct, found " ++ kind ++ " `" ++ name ++
        "`; replace it with a struct"
      span := place
      fixIts := [] }])
  | noConformance {d} (hnone : ∀ p piece, ¬ FirstDerived d.attributes p piece) :
    Decision whole a (.struct d) (.diagnosed [{
      severity := .error
      id := .noConformance
      message := "struct `" ++ d.ident.text ++ "` has no conformance; add `#[derive(Codable)]`"
      span := d.ident.span
      fixIts := [] }])
  | wrongConformance {d p piece name} (hfirst : FirstDerived d.attributes p piece)
    (hname : EndsIn p name) (hwrong : name ≠ "Codable") :
    Decision whole a (.struct d) (.diagnosed [{
      severity := .error
      id := .wrongConformance
      message := "struct `" ++ d.ident.text ++
        "` does not conform to Codable: its first derived capability is `" ++ name ++ "`"
      span := spanOf piece
      fixIts := [{
        message := "Add required capability"
        span := spanOf piece
        original := name
        replacement := "Codable" }] }])
  | generated {d p piece} (hfirst : FirstDerived d.attributes p piece)
    (hname : EndsIn p "Codable") :
    Decision whole a (.struct d) (.generated (synthesize d.ident a))

theorem NotStruct.ofItem_eq {whole place : Span} {item : Item} {kind name : String}
    (h : NotStruct whole item kind name place) :
    ∃ k i, Declaration.ofItem whole item = ⟨k, i, []⟩ ∧ k ≠ .struct ∧
      k.text = kind ∧ i.text = name ∧ i.span = place := by
  cases h with
  | enum d => exact ⟨_, _, rfl, by decide, rfl, rfl, rfl⟩
  | union d => exact ⟨_, _, rfl, by decide, rfl, rfl, rfl⟩
  | trait i => exact ⟨_, _, rfl, by decide, rfl, rfl, rfl⟩
  | named i => exact ⟨_, _, rfl, by decide, rfl, rfl, rfl⟩
  | impl b => exact ⟨_, _, rfl, by decide, rfl, rfl, rfl⟩
  | unnamed => exact ⟨_, _, rfl, by decide, rfl, rfl, rfl⟩

theorem struct_or_notStruct (whole : Span) (item : Item) :
    (∃ d, item = .struct d) ∨ ∃ kind name place, NotStruct whole item kind name place := by
  cases item with
  | struct d => exact .inl ⟨d, rfl⟩
  | enum d => exact .inr ⟨_, _, _, .enum d⟩
  | union d => exact .inr ⟨_, _, _, .union d⟩
  | trait i => exact .inr ⟨_, _, _, .trait i⟩
  | impl b => exact .inr ⟨_, _, _, .impl b⟩
  | named i => exact .inr ⟨_, _, _, .named i⟩
  | unnamed => exact .inr ⟨_, _, _, .unnamed⟩

theorem FirstDerived.derived_of_endsIn {as : List Attribute} {p : Path} {piece : List Tree}
    {name : String} (h : FirstDerived as p piece) (hname : EndsIn p name) :
    ∃ cs, derived as = ⟨name, spanOf piece⟩ :: cs := by
  obtain ⟨name', cs, hname', hcs⟩ := h.derived_eq
  rw [endsIn_iff.1 hname] at hname'
  cases hname'
  exact ⟨cs, hcs⟩

theorem Decision.expand_eq {whole : Span} {a : Arguments} {item : Item} {e : Expansion}
    (h : Decision whole a item e) : (Declaration.ofItem whole item).expand a = e := by
  cases h with
  | notStruct hitem =>
    obtain ⟨k, i, hdecl, hkind, rfl, rfl, rfl⟩ := hitem.ofItem_eq
    simp [hdecl, Declaration.expand, Declaration.validate, hkind, diagnose]
  | noConformance hnone =>
    simp [Declaration.expand, Declaration.validate, Declaration.ofItem, derived_eq_nil.2 hnone,
      diagnose, required, String.append_assoc]
  | wrongConformance hfirst hname hwrong =>
    obtain ⟨cs, hcs⟩ := hfirst.derived_of_endsIn hname
    simp [Declaration.expand, Declaration.validate, Declaration.ofItem, hcs, diagnose, required,
      hwrong, String.append_assoc]
  | generated hfirst hname =>
    obtain ⟨cs, hcs⟩ := hfirst.derived_of_endsIn hname
    simp [Declaration.expand, Declaration.validate, Declaration.ofItem, hcs, required]

theorem exists_decision (whole : Span) (a : Arguments) (item : Item) :
    ∃ e, Decision whole a item e := by
  obtain ⟨d, rfl⟩ | ⟨kind, name, place, hitem⟩ := struct_or_notStruct whole item
  · match hd : derived d.attributes with
    | [] => exact ⟨_, .noConformance (derived_eq_nil.1 hd)⟩
    | c :: cs =>
      obtain ⟨p, piece, hfirst, hname, -⟩ := firstDerived_of_derived hd
      by_cases hc : c.name = "Codable"
      · exact ⟨_, .generated hfirst (endsIn_iff.2 (hc ▸ hname))⟩
      · exact ⟨_, .wrongConformance hfirst (endsIn_iff.2 hname) hc⟩
  · exact ⟨_, .notStruct hitem⟩

/-- An item is decided by the rules of `Decision` and by nothing else. A refusal is never empty, and
it is the same whatever the arguments are. -/
theorem expand_decided (whole : Span) (a : Arguments) (item : Item) :
    (∀ e, (Declaration.ofItem whole item).expand a = e ↔ Decision whole a item e) ∧
      ∀ ds, (Declaration.ofItem whole item).expand a = .diagnosed ds →
        ds ≠ [] ∧ ∀ b, (Declaration.ofItem whole item).expand b = .diagnosed ds := by
  obtain ⟨e, he⟩ := exists_decision whole a item
  refine ⟨fun e' => ⟨?_, Decision.expand_eq⟩, ?_⟩
  · rintro rfl
    rwa [he.expand_eq]
  · intro ds hds
    rw [he.expand_eq] at hds
    subst hds
    cases he with
    | notStruct hitem => exact ⟨List.cons_ne_nil _ _, fun b => (Decision.notStruct hitem).expand_eq⟩
    | noConformance hnone =>
      exact ⟨List.cons_ne_nil _ _, fun b => (Decision.noConformance hnone).expand_eq⟩
    | wrongConformance hfirst hname hwrong =>
      exact ⟨List.cons_ne_nil _ _,
        fun b => (Decision.wrongConformance hfirst hname hwrong).expand_eq⟩

end FetchKit.Request
