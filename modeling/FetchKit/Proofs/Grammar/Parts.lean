import FetchKit.Proofs.Grammar.Setting.Items
import FetchKit.Proofs.Grammar.Struct

/-!
# The parts of a type

A struct, enum or union has a name, generic parameters and conditions. These parts are found by
reading past everything else, and the parts alone decide what the generics and the conditions are.
-/

namespace FetchKit.Grammar

open FetchKit.Source Rule

/-! ## Finding the parts -/

/-- The name of a type, and the trees that hold its generic parameters and its conditions. -/
structure Parts where
  ident : Ident
  generics : List Tree
  conditions : List Tree
  deriving Repr, Inhabited

/-- The trees that a rule takes. -/
def Rule.taken {α : Type} (r : Rule α) : Rule (List Tree) := do
  let before ← trees
  let _ ← r
  return before.take (before.length - (← trees).length)

/-- Reads a type from its keyword up to the end of its conditions. The fields of a tuple stand before
them. -/
def namedParts : Rule Parts := do
  let _ ← eatAnyIdent
  let ident ← eatName
  let generics ← taken (generics? grammar)
  if ← peek paren then
    let _ ← eatGroup
  return { ident, generics, conditions := ← taken (whereClause? grammar) }

def parts : Rule Parts := do
  let _ ← outerAttributes grammar
  let _ ← visibility
  namedParts

/-- The parts of a type that can be read up to them. -/
def partsOf (item : List Tree) : Option Parts :=
  match parts { rest := item } with
  | .ok (p, _) => some p
  | .error _ => none

theorem taken_eq_ok {α : Type} {r : Rule α} {piece rest w : List Tree} {l : Option Delimiter} {a : α}
    {w' : List Tree} {l' : Option Delimiter}
    (h : r ⟨piece ++ rest, w, l⟩ = .ok (a, ⟨rest, w', l'⟩)) :
    taken r ⟨piece ++ rest, w, l⟩ = .ok (piece, ⟨rest, w', l'⟩) := by
  unfold taken
  rw [run_bind, run_trees, andThen_ok, run_bind, h, andThen_ok, run_bind, run_trees, andThen_ok]
  simp

/-! ## The parts of a type that is read -/

/-- Conditions stand at the front of these trees, or behind the fields of a tuple, and the body of the
type comes next. -/
def Conditioned (ts : List Tree) (conditions : Option Where) : Prop :=
  ∃ fields piece body w w', ts = fields ++ (piece ++ body) ∧ opensBody body = true ∧
    whereClause? grammar ⟨piece ++ body, w, none⟩ = .ok (conditions, ⟨body, w', none⟩) ∧
    ((fields = [] ∧ startsGroup .paren ts = false) ∨ ∃ content s, fields = [.group .paren content s])

section Bodies

variable {ts rest w w' : List Tree}

theorem run_whereClause? (g : Rules) (c : Cursor) : whereClause? g c =
    if startsWord "where" c.rest then andThen (whereClause g c) fun clause => pure (some clause)
    else .ok (none, c) := by
  simp [↓whereClause?]

theorem whereClause?_none {g : Rules} (h : startsWord "where" ts = false) :
    whereClause? g ⟨ts, w, none⟩ = .ok (none, ⟨ts, w, none⟩) := by
  rw [run_whereClause?]
  simp [h]

theorem whereClause?_some {g : Rules} {c c' : Cursor} {clause : Where}
    (hword : startsWord "where" c.rest = true) (h : whereClause g c = .ok (clause, c')) :
    whereClause? g c = .ok (some clause, c') := by
  rw [run_whereClause?, if_pos hword, h]
  simp

theorem not_where_of_opensBody (h : opensBody ts = true) : startsWord "where" ts = false := by
  obtain ⟨content, s, ts, rfl⟩ | ⟨joint, s, ts, rfl⟩ := opensBody_cases h <;> rfl

theorem not_paren_of_opensBody (h : opensBody ts = true) : startsGroup .paren ts = false := by
  obtain ⟨content, s, ts, rfl⟩ | ⟨joint, s, ts, rfl⟩ := opensBody_cases h <;> rfl

theorem not_paren_of_word {word : String} (h : startsWord word ts = true) :
    startsGroup .paren ts = false := by
  unfold startsWord at h
  split at h
  · rfl
  · cases h

theorem conditioned_none (h : opensBody ts = true) : Conditioned ts none :=
  ⟨[], [], ts, [], [], rfl, h, whereClause?_none (not_where_of_opensBody h),
    .inl ⟨rfl, not_paren_of_opensBody h⟩⟩

theorem conditioned_where {conditions : Option Where}
    (h : whereClause? grammar ⟨ts, w, none⟩ = .ok (conditions, ⟨rest, w', none⟩))
    (hrest : opensBody rest = true) : Conditioned ts conditions := by
  obtain ⟨piece, hts⟩ := (Forward.step (.refl _) h).suffix
  have hts : ts = piece ++ rest := hts.symm
  refine ⟨[], piece, rest, w, w', hts, hrest, by rwa [← hts], .inl ⟨rfl, ?_⟩⟩
  rw [run_whereClause?] at h
  split at h
  · next hword => exact not_paren_of_word hword
  · cases h
    exact not_paren_of_opensBody hrest

theorem within_brace_opens {α : Type} {body : Rule α} [∀ base, Rule.Forward base body] {a : α}
    (h : within .brace body ⟨ts, w, none⟩ = .ok (a, ⟨rest, w', none⟩)) : opensBody ts = true := by
  obtain ⟨content, s, out, rfl, -, -, -⟩ := (within_eq_ok inferInstance).1 h
  rfl

theorem fieldsRule_opens {g : Rules} [g.Forward] {u : Unit}
    (h : fieldsRule g ⟨ts, w, none⟩ = .ok (u, ⟨rest, w', none⟩)) : opensBody ts = true := by
  obtain ⟨found, piece, rest₁, w₁, rfl, hbody, -⟩ := bind_taken h
  exact within_brace_opens hbody

theorem enumBody_conditioned {conditions : Option Where}
    (h : enumBody grammar ⟨ts, w, none⟩ = .ok (conditions, ⟨rest, w', none⟩)) :
    Conditioned ts conditions := by
  unfold enumBody at h
  obtain ⟨found, piece, rest₁, w₁, rfl, hwhere, hmore⟩ := bind_taken h
  obtain ⟨u, zs, rest₂, w₂, rfl, hbody, hpure⟩ := bind_taken hmore
  cases hpure
  exact conditioned_where hwhere (within_brace_opens hbody)

theorem unionBody_conditioned {conditions : Option Where}
    (h : unionBody grammar ⟨ts, w, none⟩ = .ok (conditions, ⟨rest, w', none⟩)) :
    Conditioned ts conditions := by
  unfold unionBody at h
  obtain ⟨found, piece, rest₁, w₁, rfl, hwhere, hmore⟩ := bind_taken h
  obtain ⟨u, zs, rest₂, w₂, rfl, hbody, hpure⟩ := bind_taken hmore
  cases hpure
  exact conditioned_where hwhere (fieldsRule_opens hbody)

theorem opensBody_of_semicolon (h : startsOperator [';'] ts = true) : opensBody ts = true := by
  unfold opensBody
  rw [h, Bool.or_true]

theorem fields_or_semicolon {ps : List Probe} {a b : Option Where} {c c' : Cursor}
    (h : (do
      if ← peek brace then fieldsRule grammar
      else if ← peek (op ";") then eatOp ";"
      else unmet ps
      return a : Rule (Option Where)) c = .ok (b, c')) : b = a ∧ opensBody c.rest = true := by
  replace h := peek_taken h
  rw [run_ite] at h
  split at h
  · next hbrace =>
    obtain ⟨u, c₁, -, h⟩ := bind_eq_ok.1 h
    cases h
    refine ⟨rfl, ?_⟩
    unfold opensBody
    rw [← brace_test, hbrace, Bool.true_or]
  replace h := peek_taken h
  rw [run_ite] at h
  split at h
  · next hsemi =>
    obtain ⟨u, c₁, -, h⟩ := bind_eq_ok.1 h
    cases h
    exact ⟨rfl, opensBody_of_semicolon hsemi⟩
  · cases h

theorem semicolon {ps : List Probe} {a b : Option Where} {c c' : Cursor}
    (h : (do
      unless ← eatOp? ";" do unmet ps
      return a : Rule (Option Where)) c = .ok (b, c')) : b = a ∧ opensBody c.rest = true := by
  obtain ⟨found, c₁, hsemi, h⟩ := bind_eq_ok.1 h
  rw [run_eatOp?] at hsemi
  split at hsemi
  · next hstarts =>
    obtain ⟨u, c₂, -, hsemi⟩ := andThen_eq_ok.1 hsemi
    cases hsemi
    cases h
    exact ⟨rfl, opensBody_of_semicolon hstarts⟩
  · cases hsemi
    cases h

theorem structBody_conditioned {conditions : Option Where}
    (h : structBody grammar ⟨ts, w, none⟩ = .ok (conditions, ⟨rest, w', none⟩)) :
    Conditioned ts conditions := by
  unfold structBody at h
  replace h := peek_taken h
  rw [run_ite] at h
  split at h
  · next hword =>
    obtain ⟨clause, piece, rest₁, w₁, rfl, hwhere, hmore⟩ := bind_taken h
    obtain ⟨rfl, hbody⟩ := fields_or_semicolon hmore
    exact conditioned_where (whereClause?_some hword hwhere) hbody
  replace h := peek_taken h
  rw [run_ite] at h
  split at h
  · obtain ⟨u, zs, rest₁, w₁, rfl, hfields, hmore⟩ := bind_taken h
    obtain ⟨found, ys, rest₂, w₂, hzs, htuple, hpure⟩ := bind_taken hfields
    cases hpure
    obtain ⟨content, s, out, hts, -, -, -⟩ := (within_eq_ok inferInstance).1 htuple
    rw [hzs, hts]
    replace hmore := peek_taken hmore
    rw [run_ite] at hmore
    split at hmore
    · next hword =>
      obtain ⟨clause, piece, rest₃, w₃, rfl, hwhere, hend⟩ := bind_taken hmore
      obtain ⟨rfl, hbody⟩ := semicolon hend
      exact ⟨[.group .paren content s], piece, rest₃, w₁, w₃, rfl, hbody, whereClause?_some hword hwhere,
        .inr ⟨content, s, rfl⟩⟩
    · obtain ⟨rfl, hbody⟩ := semicolon hmore
      exact ⟨[.group .paren content s], [], rest₁, w₁, w₁, rfl, hbody,
        whereClause?_none (not_where_of_opensBody hbody), .inr ⟨content, s, rfl⟩⟩
  · obtain ⟨rfl, hbody⟩ := fields_or_semicolon h
    exact conditioned_none hbody

end Bodies

/-- The trees that hold the generics, as the rule for them reads it. -/
def HoldsGenerics (piece : List Tree) (generics : Generics) : Prop :=
  ∃ rest w w', generics? grammar ⟨piece ++ rest, w, none⟩ = .ok (generics, ⟨rest, w', none⟩)

/-- The trees that hold the conditions, in front of the body of a type. -/
def HoldsConditions (piece : List Tree) (conditions : Option Where) : Prop :=
  ∃ body w w', opensBody body = true ∧
    whereClause? grammar ⟨piece ++ body, w, none⟩ = .ok (conditions, ⟨body, w', none⟩)

/-- These are the parts of this type. -/
structure Parts.Of (p : Parts) (d : DataType) : Prop where
  ident : p.ident = d.ident
  generics : HoldsGenerics p.generics d.generics
  conditions : HoldsConditions p.conditions d.conditions

theorem generics?_of_generics {g : Rules} [g.Forward] [g.Resets] {found : Generics} {ts rest w w' : List Tree}
    (h : generics g ⟨ts, w, none⟩ = .ok (found, ⟨rest, w', none⟩)) :
    generics? g ⟨ts, w, none⟩ = .ok (found, ⟨rest, w, none⟩) := by
  obtain ⟨found', zs, rest₁, w₁, rfl, hfound, hwrite⟩ := bind_taken h
  obtain ⟨rfl, -⟩ := generics?_sound .code hfound
  rw [run_bind, run_write, andThen_ok] at hwrite
  cases hwrite
  exact hfound

instance whereClause?_blind (g : Rules) : Blind (whereClause? g) := by
  unfold whereClause?; infer_instance

theorem namedParts_of_dataType {keyword : String} {body : Rule (Option Where)}
    [∀ base, Rule.Forward base body]
    (hbody : ∀ {ts rest w w' conditions}, body ⟨ts, w, none⟩ = .ok (conditions, ⟨rest, w', none⟩) →
      Conditioned ts conditions) {as : List Attribute} {d : DataType} {ts rest w w' : List Tree}
    (h : dataType grammar keyword body as ⟨ts, w, none⟩ = .ok (d, ⟨rest, w', none⟩)) :
    ∃ p c, namedParts ⟨ts, w, none⟩ = .ok (p, c) ∧ p.Of d := by
  unfold dataType at h
  obtain ⟨u, c₁, hkeyword, h₁⟩ := bind_eq_ok.1 h
  obtain ⟨k, ts₁, hk, rfl, rfl⟩ := eatWord_eq_ok.1 hkeyword
  obtain ⟨i, c₂, hname, h₂⟩ := bind_eq_ok.1 h₁
  obtain ⟨hi, ts₂, hts₂, rfl⟩ := eatName_eq_ok.1 hname
  obtain rfl : ts₁ = .ident i :: ts₂ := hts₂
  obtain ⟨found, gs, rest₁, w₁, rfl, hwritten, hmore⟩ := bind_taken h₂
  have hgenerics := generics?_of_generics hwritten
  obtain ⟨conditions, zs, rest₂, w₂, rfl, hconditions, hpure⟩ := bind_taken hmore
  cases hpure
  obtain ⟨fields, piece, body', wb, wb', hts, hopens, hwhere, hfields⟩ := hbody hconditions
  -- The conditions are read behind whatever was written so far.
  have hread (w : List Tree) : ∃ out, taken (whereClause? grammar) ⟨piece ++ body', w, none⟩ =
      .ok (piece, ⟨body', out, none⟩) := by
    obtain ⟨out, hout⟩ := (whereClause?_blind grammar).step hwhere w
    exact ⟨out, taken_eq_ok hout⟩
  have hof : Parts.Of ⟨i, gs, piece⟩ ⟨as, i, found, conditions⟩ :=
    ⟨rfl, ⟨_, _, _, hgenerics⟩, ⟨body', wb, wb', hopens, hwhere⟩⟩
  refine ⟨⟨i, gs, piece⟩, ?_⟩
  have htaken := taken_eq_ok hgenerics
  unfold namedParts
  simp only [run_bind, run_eatAnyIdent, run_eatName hi, andThen_ok, htaken, run_peek, paren_test, run_ite]
  obtain ⟨rfl, hparen⟩ | ⟨content, s, rfl⟩ := hfields
  · rw [hparen, if_neg Bool.false_ne_true, hts]
    obtain ⟨out, hout⟩ := hread (.ident i :: .ident k :: w)
    refine ⟨⟨body', out, none⟩, ?_, hof⟩
    rw [List.nil_append, hout, andThen_ok, run_pure]
  · obtain ⟨out, hout⟩ := hread (.group .paren content s :: .ident i :: .ident k :: w)
    have hgroup : eatGroup ⟨[.group .paren content s] ++ (piece ++ body'), .ident i :: .ident k :: w, none⟩ =
        .ok (.paren, ⟨piece ++ body', .group .paren content s :: .ident i :: .ident k :: w, none⟩) := rfl
    have hparen : startsGroup .paren ([.group .paren content s] ++ (piece ++ body')) = true := rfl
    refine ⟨⟨body', out, none⟩, ?_, hof⟩
    rw [hts, if_pos hparen, hgroup, andThen_ok, run_bind, hout, andThen_ok, run_pure]

set_option synthInstance.maxSize 2000 in
/-- A type that can be read has parts. -/
theorem partsOf_parse {item : List Tree} {d : DataType} (h : DataType.parse item = .ok d) :
    ∃ p, partsOf item = some p ∧ p.Of d := by
  obtain ⟨out, hrun⟩ := run_eq_ok.1 h
  unfold dataTypeRule at hrun
  obtain ⟨as, front, rest₁, w₁, rfl, has, h₁⟩ := bind_taken hrun
  obtain ⟨visible, front', rest₂, w₂, rfl, hvisible, h₂⟩ := bind_taken h₁
  have hparts : ∃ p c, namedParts ⟨rest₂, w₂, none⟩ = .ok (p, c) ∧ p.Of d := by
    replace h₂ := peek_taken h₂
    rw [run_ite] at h₂
    split at h₂
    · exact namedParts_of_dataType structBody_conditioned h₂
    replace h₂ := peek_taken h₂
    rw [run_ite] at h₂
    split at h₂
    · exact namedParts_of_dataType enumBody_conditioned h₂
    replace h₂ := peek_taken h₂
    rw [run_ite] at h₂
    split at h₂
    · exact namedParts_of_dataType unionBody_conditioned h₂
    · cases h₂
  obtain ⟨p, c, hp, hof⟩ := hparts
  refine ⟨p, ?_, hof⟩
  have hrun' : parts { rest := front ++ (front' ++ rest₂) } = .ok (p, c) :=
    bind_eq_ok.2 ⟨as, _, has, bind_eq_ok.2 ⟨visible, _, hvisible, hp⟩⟩
  unfold partsOf
  rw [hrun']

/-! ## What the parts decide -/

theorem HoldsGenerics.sound {piece : List Tree} {generics : Generics}
    (h : HoldsGenerics piece generics) : ∃ next, GenericsIn .type next piece generics := by
  obtain ⟨rest, w, w', h⟩ := h
  obtain ⟨-, piece', hpiece, hin⟩ := generics?_sound .type h
  rw [List.append_cancel_right hpiece]
  exact ⟨rest, hin⟩

theorem HoldsGenerics.unique {piece : List Tree} {generics generics' : Generics}
    (h : HoldsGenerics piece generics) (h' : HoldsGenerics piece generics') : generics = generics' := by
  obtain ⟨next, hin⟩ := h.sound
  obtain ⟨next', hin'⟩ := h'.sound
  obtain ⟨rest, w, out, h⟩ := h
  obtain ⟨rest', w', out', h'⟩ := h'
  cases hin with
  | none =>
    cases hin' with
    | none => rfl
  | @some joint s ts ps joint' s' _ =>
    -- Parameters are read up to their closing bracket, whatever comes after it.
    have hopen (rest : List Tree) : (op "<").test
        (.punct '<' joint s :: ts ++ [.punct '>' joint' s'] ++ rest) = true := rfl
    unfold generics? at h h'
    rw [run_bind, run_peek, andThen_ok, hopen, if_pos rfl] at h h'
    have hlocal : Rule.Local (fun _ e => e = rest') (angledParameters (parameter grammar)) := inferInstance
    have hmoved := hlocal.taken rfl h
    obtain ⟨out₁, hblind⟩ := (angledParameters_blind (parameter grammar)).step h' w
    cases hmoved.symm.trans hblind
    rfl

theorem loneColon_of_opensBody (h : opensBody ts = true) : loneColon ts = false := by
  obtain ⟨content, s, ts, rfl⟩ | ⟨joint, s, ts, rfl⟩ := opensBody_cases h <;> rfl

theorem HoldsConditions.sound {piece : List Tree} {conditions : Option Where}
    (h : HoldsConditions piece conditions) :
    ∃ body, opensBody body = true ∧ WhereIn .type body piece conditions := by
  obtain ⟨body, w, w', hbody, h⟩ := h
  refine ⟨body, hbody, ?_⟩
  rw [run_whereClause?] at h
  split at h
  · obtain ⟨clause, c₁, hclause, hpure⟩ := andThen_eq_ok.1 h
    cases hpure
    obtain ⟨-, piece', hpiece, hin, -⟩ :=
      whereClause_sound .type (endsOperator_colon (loneColon_of_opensBody hbody)) hclause
    rwa [List.append_cancel_right hpiece]
  · simp only [Except.ok.injEq, Prod.mk.injEq, Cursor.mk.injEq, List.append_left_eq_self] at h
    obtain ⟨rfl, rfl, -⟩ := h
    exact .none

theorem HoldsConditions.unique {piece : List Tree} {conditions conditions' : Option Where}
    (h : HoldsConditions piece conditions) (h' : HoldsConditions piece conditions') :
    conditions = conditions' := by
  obtain ⟨next, -, hin⟩ := h.sound
  obtain ⟨next', -, hin'⟩ := h'.sound
  obtain ⟨body, w, out, hbody, h⟩ := h
  obtain ⟨body', w', out', hbody', h'⟩ := h'
  cases hin with
  | none =>
    cases hin' with
    | none => rfl
  | @some k ts ps hk _ =>
    have hword (rest : List Tree) : startsWord "where" (.ident k :: ts ++ rest) = true := hk
    rw [run_whereClause?, if_pos (hword _)] at h h'
    obtain ⟨clause, c₁, hclause, hpure⟩ := andThen_eq_ok.1 h
    cases hpure
    obtain ⟨clause', c₁', hclause', hpure'⟩ := andThen_eq_ok.1 h'
    cases hpure'
    have hmoved := (whereClause_local grammar).taken ⟨hbody, hbody'⟩ hclause
    obtain ⟨out₁, hblind⟩ := (whereClause_blind grammar).step hclause' w
    cases hmoved.symm.trans hblind
    rfl

/-- Types with the same parts have the same generics and conditions. -/
theorem Parts.Of.unique {p : Parts} {d d' : DataType} (h : p.Of d) (h' : p.Of d') :
    d.ident = d'.ident ∧ d.generics = d'.generics ∧ d.conditions = d'.conditions :=
  ⟨h.ident.symm.trans h'.ident, h.generics.unique h'.generics, h.conditions.unique h'.conditions⟩

end FetchKit.Grammar
