import FetchKit.Proofs.Grammar.Spelling
import FetchKit.Proofs.Request.Appendix
import FetchKit.Proofs.Request.Repair
import Mathlib.Logic.Relation

/-!
# How derives are spelled

What a struct derives can be spelled in many ways. Here are the steps from one spelling to another,
and however many of them are taken, what is known of the struct and what comes after it stay the same.
-/

namespace FetchKit.Request

open FetchKit.Source FetchKit.Grammar FetchKit.Grammar.Rule

/-! ## Steps from one spelling to another -/

/-- Another way to write a path, with the same last name. -/
inductive PathStep : PathText → PathText → Prop
  /-- `::` in front. -/
  | root (ss : List SegmentText) : PathStep ⟨false, ss⟩ ⟨true, ss⟩
  /-- Modules in front. -/
  | qualify {modules : List Ident} (hmodules : ∀ i ∈ modules, SegmentText.WellFormed { ident := i })
    (ss : List SegmentText) :
    PathStep ⟨false, ss⟩ ⟨false, modules.map (fun i => { ident := i }) ++ ss⟩
  /-- The last name written raw or plain. -/
  | raw (rooted : Bool) (ss : List SegmentText) {i j : Ident} {args : List Tree}
    (hname : i.name = j.name) (hj : SegmentText.WellFormed ⟨j, args⟩) :
    PathStep ⟨rooted, ss ++ [⟨i, args⟩]⟩ ⟨rooted, ss ++ [⟨j, args⟩]⟩
  /-- Arguments for a name that has none. -/
  | apply (rooted : Bool) (ss ss' : List SegmentText) {i : Ident} {args : List Tree}
    (hi : i.isName = true) (hargs : IsArguments args) :
    PathStep ⟨rooted, ss ++ { ident := i } :: ss'⟩ ⟨rooted, ss ++ ⟨i, args⟩ :: ss'⟩

/-- `#[derive(p, q)]`, with any delimiter, and maybe with a comma after the last path. -/
inductive IsDerive (ps : List PathText) : List Tree → Prop
  | mk {i tokens} (hi : i.isWord "derive" = true) (htokens : ListSpells ps tokens) (joint : Bool)
    (hash span inside : Span) (d : Delimiter) :
    IsDerive ps [.punct '#' joint hash, .group .bracket [.ident i, .group d tokens inside] span]

/-- An attribute that derives nothing: it is no `derive`, or one without a list, with an empty one or
with one that is not well formed. -/
inductive Inert (a : Attribute) : Prop
  | other (h : a.path.isWord "derive" = false)
  | bare (h : ∀ d tokens, a.content ≠ .list d tokens)
  | empty {d} (h : a.content = .list d [])
  | malformed {d tokens} (h : a.content = .list d tokens)
    (hbad : ∀ ps, (∀ p ∈ ps, p.WellFormed) → ¬ ListSpells ps tokens)

/-- Another way to write some attributes. -/
inductive AttributeStep : List Tree → List Tree → Prop
  /-- Another delimiter, and a comma after the last path or none. -/
  | relist {ps old new} (hps : ∀ p ∈ ps, p.WellFormed) (hold : IsDerive ps old)
    (hnew : IsDerive ps new) : AttributeStep old new
  | split {ps qs old new new'} (hps : ∀ p ∈ ps ++ qs, p.WellFormed) (hold : IsDerive (ps ++ qs) old)
    (hnew : IsDerive ps new) (hnew' : IsDerive qs new') : AttributeStep old (new ++ new')
  | path {ps p q qs old new} (hps : ∀ r ∈ ps ++ p :: qs, r.WellFormed) (hpq : PathStep p q)
    (hold : IsDerive (ps ++ p :: qs) old) (hnew : IsDerive (ps ++ q :: qs) new) :
    AttributeStep old new
  | insert {a new} (ha : Attributed grammar new [a]) (hinert : Inert a) : AttributeStep [] new

/-- A step among the attributes of an item. The other trees stay as they are. -/
inductive Step : List Tree → List Tree → Prop
  | mk {before as old new} (hbefore : Attributed grammar before as) (h : AttributeStep old new)
    (after : List Tree) : Step (before ++ (old ++ after)) (before ++ (new ++ after))

/-! ## Paths -/

theorem PathStep.name_eq {p q : PathText} (h : PathStep p q) (hp : p.WellFormed) :
    q.name = p.name := by
  cases h with
  | root ss => rfl
  | qualify hmodules ss =>
    obtain ⟨s, hs⟩ := Option.ne_none_iff_exists'.1 (mt List.getLast?_eq_none_iff.1 hp.1)
    simp [PathText.name, List.getLast?_append, hs]
  | raw rooted ss hname hj => simp [PathText.name, hname]
  | apply rooted ss ss' hi hargs =>
    simp only [PathText.name, List.getLast?_append, List.getLast?_cons, Option.some_or]
    cases ss'.getLast? <;> rfl

theorem PathStep.wellFormed {p q : PathText} (h : PathStep p q) (hp : p.WellFormed) :
    q.WellFormed := by
  obtain ⟨hne, hss⟩ := hp
  cases h with
  | root ss => exact ⟨hne, hss⟩
  | qualify hmodules ss =>
    refine ⟨List.append_ne_nil_of_right_ne_nil _ hne, List.forall_mem_append.2 ⟨?_, hss⟩⟩
    simpa using hmodules
  | raw rooted ss hname hj =>
    refine ⟨by simp, List.forall_mem_append.2 ⟨(List.forall_mem_append.1 hss).1, ?_⟩⟩
    simpa using hj
  | apply rooted ss ss' hi hargs =>
    obtain ⟨hbefore, hmore⟩ := List.forall_mem_append.1 hss
    obtain ⟨-, hafter⟩ := List.forall_mem_cons.1 hmore
    refine ⟨by simp, List.forall_mem_append.2 ⟨hbefore, List.forall_mem_cons.2 ⟨?_, hafter⟩⟩⟩
    exact .applied (.inl hi) hargs

/-! ## Attributes -/

def derivedNames (as : List Attribute) : List String := (derived as).map (·.name)

theorem derivedNames_append (as bs : List Attribute) :
    derivedNames (as ++ bs) = derivedNames as ++ derivedNames bs := by
  simp [derivedNames, derived]

theorem IsDerive.attributed {ps : List PathText} {ts : List Tree} (h : IsDerive ps ts)
    (hps : ∀ p ∈ ps, p.WellFormed) :
    ∃ as, Attributed grammar ts as ∧ derivedNames as = ps.filterMap PathText.name := by
  cases h with
  | @mk i tokens hi htokens joint hash span inside d =>
    -- Attributes and lists of paths are read apart: the list only when names are looked for.
    have hname := isName_of_isWord hi (by decide)
    have hreads := attributeContent_reads_list grammar hname d tokens inside [] none
    obtain ⟨pieces, hpieces, hvalues⟩ := htokens.pathList hps
    have hderives : Derives ⟨⟨false, [{ ident := i }]⟩, .list d tokens⟩ pieces :=
      ⟨hi, d, tokens, rfl, hpieces⟩
    refine ⟨_, .cons hreads .nil, ?_⟩
    calc derivedNames [_] = (pieces.filterMap capability?).map (·.name) := by
          simp [derivedNames, derived, hderives.derivedBy_eq]
      _ = (pieces.map (·.1)).filterMap Path.canonicalName := by
          rw [List.map_filterMap, List.filterMap_map]
          congr 1
          funext piece
          simp [capability?, Function.comp_def]
      _ = ps.filterMap PathText.name := by
          rw [hvalues, List.filterMap_map]
          congr 1
          funext p
          exact p.canonicalName_value

theorem Inert.derivedNames_eq {a : Attribute} (h : Inert a) : derivedNames [a] = [] := by
  have hnone : derivedBy a = [] := by
    refine derivedBy_eq_nil.2 ?_
    rintro paths ⟨hword, d, tokens, hcontent, hpaths⟩
    cases h with
    | other h => exact absurd hword (Bool.eq_false_iff.1 h)
    | bare h => exact absurd hcontent (h d tokens)
    | empty h =>
      cases h.symm.trans hcontent
      exact hpaths.eq_nil
    | malformed h hbad =>
      cases h.symm.trans hcontent
      obtain ⟨ps, hps, hlist⟩ := hpaths.listSpells
      exact absurd hlist (hbad ps hps)
  simp [derivedNames, derived, hnone]

theorem AttributeStep.attributed {old new : List Tree} (h : AttributeStep old new) :
    ∃ as bs, Attributed grammar old as ∧ Attributed grammar new bs ∧
      derivedNames bs = derivedNames as := by
  cases h with
  | relist hps hold hnew =>
    obtain ⟨as, has, hnames⟩ := hold.attributed hps
    obtain ⟨bs, hbs, hnames'⟩ := hnew.attributed hps
    exact ⟨as, bs, has, hbs, hnames'.trans hnames.symm⟩
  | split hps hold hnew hnew' =>
    obtain ⟨as, has, hnames⟩ := hold.attributed hps
    obtain ⟨bs, hbs, hfirst⟩ := hnew.attributed fun p hp => hps p (List.mem_append_left _ hp)
    obtain ⟨cs, hcs, hsecond⟩ := hnew'.attributed fun p hp => hps p (List.mem_append_right _ hp)
    refine ⟨as, bs ++ cs, has, hbs.append hcs, ?_⟩
    rw [derivedNames_append, hfirst, hsecond, hnames, List.filterMap_append]
  | @path ps p q qs _ _ hps hpq hold hnew =>
    obtain ⟨hbefore, hmore⟩ := List.forall_mem_append.1 hps
    obtain ⟨hp, hafter⟩ := List.forall_mem_cons.1 hmore
    have hps' : ∀ r ∈ ps ++ q :: qs, r.WellFormed :=
      List.forall_mem_append.2 ⟨hbefore, List.forall_mem_cons.2 ⟨hpq.wellFormed hp, hafter⟩⟩
    obtain ⟨as, has, hnames⟩ := hold.attributed hps
    obtain ⟨bs, hbs, hnames'⟩ := hnew.attributed hps'
    refine ⟨as, bs, has, hbs, ?_⟩
    simp only [hnames, hnames', List.filterMap_append, List.filterMap_cons, hpq.name_eq hp]
  | insert ha hinert => exact ⟨[], _, .nil, ha, hinert.derivedNames_eq⟩

/-! ## Items -/

/-- A struct is read from the second trees as from the first, but for the attributes, and these derive
the same names. -/
def KeepsStruct (ts ts' : List Tree) : Prop :=
  ∀ d, Item.parse ts = .ok (.struct d) → ∃ bs, derivedNames bs = derivedNames d.attributes ∧
    Item.parse ts' = .ok (.struct { d with attributes := bs })

theorem KeepsStruct.trans {ts ts' ts'' : List Tree} (h : KeepsStruct ts ts')
    (h' : KeepsStruct ts' ts'') : KeepsStruct ts ts'' := by
  intro d hd
  obtain ⟨bs, hbs, hd'⟩ := h d hd
  obtain ⟨cs, hcs, hd''⟩ := h' _ hd'
  exact ⟨cs, hcs.trans hbs, hd''⟩

theorem keepsStruct_exchange {before old new : List Tree} {as bs cs : List Attribute}
    (hbefore : Attributed grammar before as) (hold : Attributed grammar old bs)
    (hnew : Attributed grammar new cs) (hnames : derivedNames cs = derivedNames bs)
    (after : List Tree) : KeepsStruct (before ++ (old ++ after)) (before ++ (new ++ after)) := by
  intro d hd
  obtain ⟨es, hattributes, hd'⟩ := parse_struct_exchange hbefore hold hnew hd
  refine ⟨_, ?_, hd'⟩
  simp only [hattributes, derivedNames_append, hnames]

theorem Step.keepsStruct {ts ts' : List Tree} (h : Step ts ts') :
    KeepsStruct ts ts' ∧ KeepsStruct ts' ts := by
  obtain ⟨hbefore, hstep, after⟩ := h
  obtain ⟨bs, cs, hold, hnew, hnames⟩ := hstep.attributed
  exact ⟨keepsStruct_exchange hbefore hold hnew hnames after,
    keepsStruct_exchange hbefore hnew hold hnames.symm after⟩

theorem keepsStruct_steps {ts ts' : List Tree} (h : Relation.EqvGen Step ts ts') :
    KeepsStruct ts ts' ∧ KeepsStruct ts' ts := by
  -- Both directions at once, as steps are taken forth and back.
  induction h with
  | rel _ _ hstep => exact hstep.keepsStruct
  | refl _ => exact ⟨fun d hd => ⟨d.attributes, rfl, hd⟩, fun d hd => ⟨d.attributes, rfl, hd⟩⟩
  | symm _ _ _ ih => exact ih.symm
  | trans _ _ _ _ _ ih ih' => exact ⟨ih.1.trans ih'.1, ih'.2.trans ih.2⟩

/-! ## What comes of it -/

def Diagnostic.unplaced (d : Diagnostic) : Diagnostic :=
  { d with span := .callSite, fixIts := d.fixIts.map fun f => { f with span := .callSite } }

/-- An expansion, with its diagnostics at no places. -/
def Expansion.unplaced : Expansion → Expansion
  | .generated tokens => .generated tokens
  | .diagnosed ds => .diagnosed (ds.map Diagnostic.unplaced)

section Names

variable {d d' : Declaration} (hkind : d'.kind = d.kind) (hident : d'.ident = d.ident)
  (hnames : d'.capabilities.map (·.name) = d.capabilities.map (·.name))

include hkind hident hnames

theorem validate_eq : d'.validate = d.validate := by
  unfold Declaration.validate
  rw [hkind, hident]
  match hd : d.capabilities, hd' : d'.capabilities with
  | [], [] => rfl
  | c :: _, c' :: _ =>
    rw [hd, hd', List.map_cons, List.map_cons, List.cons.injEq] at hnames
    simp only [hnames.1]
  | [], _ :: _ | _ :: _, [] =>
    rw [hd, hd'] at hnames
    cases hnames

theorem expand_unplaced (a : Arguments) : (d'.expand a).unplaced = (d.expand a).unplaced := by
  unfold Declaration.expand
  rw [validate_eq hkind hident hnames]
  cases d.validate with
  | valid ident => rfl
  | wrongKind actual => simp only [diagnose, hident]
  | noCapabilities => simp only [diagnose, hident]
  | wrongCapability found => simp [diagnose, hident, Expansion.unplaced, Diagnostic.unplaced]

end Names

def Expansion.tail : Expansion → List Tree
  | .generated tokens => tokens
  | .diagnosed ds =>
    match report ds with
    | some ns => errorTokens ns
    | none => []

theorem notices_eq (d : Diagnostic) : d.notices = d.headline :: d.fixIts.map FixIt.help := by
  unfold Diagnostic.notices
  cases hfix : d.fixIts with
  | nil => rfl
  | cons f fs =>
    rw [combine_of_ne_nil (by simp), ← List.flatMap_def, ← List.map_eq_flatMap]

theorem messages_unplaced (d : Diagnostic) :
    d.unplaced.notices.map Notice.message = d.notices.map Notice.message := by
  simp [notices_eq, Diagnostic.unplaced, Diagnostic.headline, FixIt.help]

theorem tail_diagnosed (ds : List Diagnostic) : (Expansion.diagnosed ds).tail =
    (ds.flatMap fun d => d.notices.map Notice.message).flatMap compileError := by
  cases ds with
  | nil => rfl
  | cons d ds =>
    simp only [Expansion.tail, report_of_ne_nil (List.cons_ne_nil d ds), errorTokens_eq,
      List.map_flatMap]

theorem tail_unplaced (e : Expansion) : e.unplaced.tail = e.tail := by
  cases e with
  | generated tokens => rfl
  | diagnosed ds =>
    rw [Expansion.unplaced, tail_diagnosed, tail_diagnosed, List.flatMap_map]
    simp only [messages_unplaced]

theorem appendix_eq {ts : List Tree} {decl : Declaration} (h : Declaration.parse ts = .ok decl)
    (attr : List Tree) : appendix attr ts = match Arguments.parse attr with
      | .ok a => (decl.expand a).tail
      | .error f => errorTokens [f.notice] := by
  unfold appendix expand
  rw [h]
  cases Arguments.parse attr with
  | error f => rfl
  | ok a =>
    dsimp only
    cases decl.expand a <;> rfl

theorem ofItem_kind_eq_struct {whole : Span} {item : Item} :
    (Declaration.ofItem whole item).kind = .struct ↔ ∃ d, item = .struct d := by
  cases item <;> simp [Declaration.ofItem]

/-- However what a struct derives is spelled, and however often this is changed: the struct is read,
with the same kind and the same name, and its capabilities have the same names. So it is given the
same code, or refused with the same diagnostics at maybe other places, and the same trees are put
after it. -/
theorem respelled_unchanged {ts ts' : List Tree} {decl : Declaration}
    (hparse : Declaration.parse ts = .ok decl) (hkind : decl.kind = .struct)
    (hsteps : Relation.EqvGen Step ts ts') :
    ∃ decl', Declaration.parse ts' = .ok decl' ∧ decl'.kind = decl.kind ∧ decl'.ident = decl.ident ∧
      decl'.capabilities.map (·.name) = decl.capabilities.map (·.name) ∧
      (∀ a, (decl'.expand a).unplaced = (decl.expand a).unplaced) ∧
      ∀ attr, appendix attr ts' = appendix attr ts := by
  obtain ⟨item, hitem, rfl⟩ := declaration_parse_eq_ok.1 hparse
  obtain ⟨d, rfl⟩ := ofItem_kind_eq_struct.1 hkind
  obtain ⟨bs, hnames, hitem'⟩ := (keepsStruct_steps hsteps).1 d hitem
  let decl' := Declaration.ofItem (spanOf ts') (.struct { d with attributes := bs })
  have hparse' : Declaration.parse ts' = .ok decl' := declaration_parse_eq_ok.2 ⟨_, hitem', rfl⟩
  have hsame := @expand_unplaced (.ofItem (spanOf ts) (.struct d)) decl' rfl rfl hnames
  refine ⟨decl', hparse', rfl, rfl, hnames, hsame, fun attr => ?_⟩
  rw [appendix_eq hparse, appendix_eq hparse']
  cases Arguments.parse attr with
  | error f => rfl
  | ok a =>
    dsimp only
    rw [← tail_unplaced, hsame, tail_unplaced]

/-- A list that is not well formed is put in front, the other list is split, and its first path is
qualified and given arguments. -/
theorem respelled_unchanged_page :
    let comma : Tree := .punct ',' false .callSite
    let derive (d : Delimiter) (tokens : List Tree) : List Tree :=
      [.punct '#' false .callSite, .group .bracket [word "derive", .group d tokens .callSite] .callSite]
    let page : Ident := { name := "Page" }
    let struct : List Tree := [word "struct", .ident page, .punct ';' false .callSite]
    let args : List Tree := [.punct '<' false .callSite, word "u8", .punct '>' false .callSite]
    let ts := derive .paren [word "Codable", comma, word "Clone"] ++ struct
    let applied := word "Codable" :: args
    let qualified := word "m" :: operator "::" ++ applied
    let ts' := derive .paren [comma] ++ (derive .brace (qualified ++ [comma]) ++
      (derive .paren [word "Clone"] ++ struct))
    Relation.EqvGen Step ts ts' ∧ ∃ decl', Declaration.parse ts' = .ok decl' ∧ decl'.kind = .struct ∧
      decl'.ident = page ∧ decl'.capabilities.map (·.name) = ["Codable", "Clone"] ∧
      ∀ attr, appendix attr ts' = appendix attr ts := by
  intro comma derive page struct args ts applied qualified ts'
  let p : PathText := ⟨false, [{ ident := { name := "Codable" } }]⟩
  let q : PathText := ⟨false, [⟨{ name := "Codable" }, args⟩]⟩
  let r : PathText := ⟨false, [{ ident := { name := "m" } }, ⟨{ name := "Codable" }, args⟩]⟩
  let clone : PathText := ⟨false, [{ ident := { name := "Clone" } }]⟩
  have hparse : Declaration.parse ts =
      .ok ⟨.struct, page, [⟨"Codable", .callSite⟩, ⟨"Clone", .callSite⟩]⟩ := by
    decide +kernel
  -- How the paths are spelled, before and after.
  have hp : p.Spells [word "Codable"] := .plain (.last _)
  have hq : q.Spells applied := .plain (.last _)
  have hr : r.Spells qualified := .plain (.more _ ⟨.callSite, false, .callSite, rfl⟩ (.last _))
  have hclone : clone.Spells [word "Clone"] := .plain (.last _)
  have hargs : IsArguments args := .plain ⟨[], [], args.reverse, rfl⟩
  have hm : SegmentText.WellFormed { ident := { name := "m" } } := .name (.inl rfl)
  have hpq : PathStep p q := .apply false [] [] rfl hargs
  have hqr : PathStep q r := @PathStep.qualify [{ name := "m" }] (by simpa using hm) _
  have hwf : ∀ x ∈ [p] ++ [clone], x.WellFormed := by
    have hnames (i : Ident) (hi : i.isName = true) : PathText.WellFormed ⟨false, [{ ident := i }]⟩ :=
      ⟨List.cons_ne_nil _ _, by simpa using .name (.inl hi)⟩
    simpa using ⟨hnames _ rfl, hnames _ rfl⟩
  have hwf' : p.WellFormed := hwf p (by simp)
  -- The attributes.
  have hlist (d : Delimiter) {ps tokens} (h : ListSpells ps tokens) : IsDerive ps (derive d tokens) :=
    .mk rfl h _ _ _ _ d
  have hbad : Attributed grammar (derive .paren [comma]) [_] :=
    .cons (attributeContent_reads_list grammar rfl .paren [comma] .callSite [] none) .nil
  have hmalformed : ∀ ps, (∀ p ∈ ps, p.WellFormed) → ¬ ListSpells ps [comma] := by
    intro ps hps hlist
    obtain ⟨found, hfound⟩ := parseList_ok_iff.2 ⟨ps, hps, hlist⟩
    have hnone : (Path.parseList [comma]).toOption.isNone = true := by decide +kernel
    rw [hfound] at hnone
    cases hnone
  -- Step by step.
  have h₁ := @Step.mk [] [] [] _ .nil (.insert hbad (.malformed rfl hmalformed)) ts
  have h₂ := Step.mk hbad (.split hwf (hlist .paren (.more hp false .callSite (.last hclone)))
    (hlist .paren (.last hp)) (hlist .paren (.last hclone))) struct
  have h₃ := Step.mk hbad (@AttributeStep.path [] p q [] _ _ (by simpa using hwf') hpq
    (hlist .paren (.last hp)) (hlist .paren (.last hq))) (derive .paren [word "Clone"] ++ struct)
  have h₄ := Step.mk hbad (@AttributeStep.path [] q r [] _ _ (by simpa using hpq.wellFormed hwf') hqr
    (hlist .paren (.last hq)) (hlist .brace (.more hr false .callSite .nil)))
    (derive .paren [word "Clone"] ++ struct)
  have hsteps : Relation.EqvGen Step ts ts' :=
    .trans _ _ _ (.rel _ _ h₁) (.trans _ _ _ (.rel _ _ h₂)
      (.trans _ _ _ (.rel _ _ h₃) (.rel _ _ h₄)))
  obtain ⟨decl', hparse', hkind, hident, hnames, -, hafter⟩ := respelled_unchanged hparse rfl hsteps
  exact ⟨hsteps, decl', hparse', hkind, hident, hnames, hafter⟩

end FetchKit.Request
