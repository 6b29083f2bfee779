import FetchKit.Proofs.Request.Decision
import FetchKit.Request.Dispatch

/-!
# What is put after an item

The item stays as it is. Code or errors come after it, never both and never nothing.
-/

namespace FetchKit.Request

open FetchKit.Source FetchKit.Grammar

/-! ## Errors as code -/

/-- `::core::compile_error!{"text"}` -/
def compileError (text : String) : List Tree :=
  [.punct ':' true .callSite, .punct ':' false .callSite, word "core",
    .punct ':' true .callSite, .punct ':' false .callSite, word "compile_error",
    .punct '!' false .callSite, .group .brace [.literal (Text.quote text) .callSite] .callSite]

/-- One or more errors, and nothing else. -/
def IsErrors (ts : List Tree) : Prop :=
  ∃ texts : List String, texts ≠ [] ∧ ts = texts.flatMap compileError

theorem errorTokens_eq (ns : List Notice) :
    errorTokens ns = (ns.map Notice.message).flatMap compileError := by
  rw [List.flatMap_map]
  rfl

theorem IsErrors.ne_nil {ts : List Tree} (h : IsErrors ts) : ts ≠ [] := by
  obtain ⟨texts, hne, rfl⟩ := h
  obtain ⟨text, more, rfl⟩ := List.exists_cons_of_ne_nil hne
  exact List.cons_ne_nil _ _

theorem IsErrors.ne_synthesize {ts : List Tree} (h : IsErrors ts) (ident : Ident) (a : Arguments) :
    ts ≠ synthesize ident a := by
  -- Errors start with `::` and code with `impl`.
  obtain ⟨texts, hne, rfl⟩ := h
  obtain ⟨text, more, rfl⟩ := List.exists_cons_of_ne_nil hne
  intro heq
  cases heq

/-! ## Reports -/

theorem foldl_append_eq (rs : List (List Notice)) (r : List Notice) :
    rs.foldl (· ++ ·) r = r ++ rs.flatten := by
  induction rs generalizing r with
  | nil => simp
  | cons s rs ih => simp [ih]

theorem combine_of_ne_nil {rs : List (List Notice)} (h : rs ≠ []) :
    combine rs = some rs.flatten := by
  obtain ⟨r, rs, rfl⟩ := List.exists_cons_of_ne_nil h
  rw [combine, foldl_append_eq, List.flatten_cons]

theorem report_of_ne_nil {ds : List Diagnostic} (h : ds ≠ []) :
    report ds = some (ds.flatMap Diagnostic.notices) := by
  rw [report, combine_of_ne_nil (by simpa using h), List.flatMap_def]

theorem notices_ne_nil (d : Diagnostic) : d.notices ≠ [] := by
  unfold Diagnostic.notices
  split
  · exact List.cons_ne_nil _ _
  · exact List.cons_ne_nil _ _

theorem flatMap_notices_ne_nil {ds : List Diagnostic} (h : ds ≠ []) :
    ds.flatMap Diagnostic.notices ≠ [] := by
  obtain ⟨d, more, rfl⟩ := List.exists_cons_of_ne_nil h
  simp [notices_ne_nil d]

/-! ## What comes after -/

theorem expand_generated {whole : Span} {item : Item} {a : Arguments} {tokens : List Tree}
    (h : (Declaration.ofItem whole item).expand a = .generated tokens) :
    ∃ d, item = .struct d ∧ tokens = synthesize d.ident a := by
  obtain ⟨e, he⟩ := exists_decision whole a item
  rw [he.expand_eq] at h
  subst h
  cases he
  exact ⟨_, rfl, rfl⟩

theorem expand_diagnosed {whole : Span} {item : Item} {a : Arguments} {ds : List Diagnostic}
    (h : (Declaration.ofItem whole item).expand a = .diagnosed ds) : ds ≠ [] := by
  obtain ⟨e, he⟩ := exists_decision whole a item
  rw [he.expand_eq] at h
  subst h
  cases he <;> exact List.cons_ne_nil _ _

/-- The arguments and the item are read, and code is generated. -/
def Generates (attr item : List Tree) : Prop :=
  ∃ a i tokens, Arguments.parse attr = .ok a ∧ Item.parse item = .ok i ∧
    (Declaration.ofItem (spanOf item) i).expand a = .generated tokens

/-- What is put after an item: code, or the errors of the first thing that went wrong. -/
inductive Appended (attr item : List Tree) : List Tree → Prop
  | code {a d} (hattr : Arguments.parse attr = .ok a) (hitem : Item.parse item = .ok (.struct d))
    (hexpand : (Declaration.ofItem (spanOf item) (.struct d)).expand a =
      .generated (synthesize d.ident a)) : Appended attr item (synthesize d.ident a)
  | badArguments {f} (hattr : Arguments.parse attr = .error f) :
    Appended attr item (compileError f.mistake.message)
  | badItem {a c} (hattr : Arguments.parse attr = .ok a) (hitem : Item.parse item = .error c) :
    Appended attr item (compileError c.message)
  | refused {a i ds} (hattr : Arguments.parse attr = .ok a) (hitem : Item.parse item = .ok i)
    (hexpand : (Declaration.ofItem (spanOf item) i).expand a = .diagnosed ds) (hds : ds ≠ []) :
    Appended attr item
      (((ds.flatMap Diagnostic.notices).map Notice.message).flatMap compileError)

theorem appendix_appended (attr item : List Tree) : Appended attr item (appendix attr item) := by
  unfold appendix expand
  cases hattr : Arguments.parse attr with
  | error f => exact .badArguments hattr
  | ok a =>
    unfold Declaration.parse
    cases hitem : Item.parse item with
    | error c => exact .badItem hattr hitem
    | ok i =>
      simp only [Except.map]
      cases hexpand : (Declaration.ofItem (spanOf item) i).expand a with
      | generated tokens =>
        obtain ⟨d, rfl, rfl⟩ := expand_generated hexpand
        exact .code hattr hitem hexpand
      | diagnosed ds =>
        have hds := expand_diagnosed hexpand
        simp only [report_of_ne_nil hds, errorTokens_eq]
        exact .refused hattr hitem hexpand hds

theorem Appended.code_or_errors {attr item tail : List Tree} (h : Appended attr item tail) :
    (Generates attr item ∧ ∃ ident a, tail = synthesize ident a) ∨
      (¬ Generates attr item ∧ IsErrors tail) := by
  cases h with
  | code hattr hitem hexpand => exact .inl ⟨⟨_, _, _, hattr, hitem, hexpand⟩, _, _, rfl⟩
  | badArguments hattr =>
    refine .inr ⟨?_, [_], List.cons_ne_nil _ _, rfl⟩
    rintro ⟨a, i, tokens, hattr', -⟩
    rw [hattr] at hattr'
    cases hattr'
  | badItem hattr hitem =>
    refine .inr ⟨?_, [_], List.cons_ne_nil _ _, rfl⟩
    rintro ⟨a, i, tokens, -, hitem', -⟩
    rw [hitem] at hitem'
    cases hitem'
  | refused hattr hitem hexpand hds =>
    refine .inr ⟨?_, _, by simpa using flatMap_notices_ne_nil hds, rfl⟩
    rintro ⟨a, i, tokens, hattr', hitem', hexpand'⟩
    rw [hattr] at hattr'
    cases hattr'
    rw [hitem] at hitem'
    cases hitem'
    rw [hexpand] at hexpand'
    cases hexpand'

theorem synthesize_ne_nil (ident : Ident) (a : Arguments) : synthesize ident a ≠ [] :=
  List.cons_ne_nil _ _

/-- An item with a request on it is kept, in front of a tail that is never empty: the code where
code is generated, and errors and nothing else in all other cases. -/
theorem dispatch_requestOn (attr item : List Tree) :
    ∃ tail, (Call.requestOn attr item).dispatch = item ++ tail ∧ tail ≠ [] ∧
      Appended attr item tail ∧
      ((∃ ident a, tail = synthesize ident a) ↔ Generates attr item) ∧
      (IsErrors tail ↔ ¬ Generates attr item) := by
  have happ := appendix_appended attr item
  refine ⟨appendix attr item, rfl, ?_⟩
  rcases happ.code_or_errors with ⟨hgen, ident, a, hcode⟩ | ⟨hgen, herr⟩
  · refine ⟨hcode ▸ synthesize_ne_nil ident a, happ, ⟨fun _ => hgen, fun _ => ⟨ident, a, hcode⟩⟩, ?_⟩
    exact ⟨fun h => absurd hcode (h.ne_synthesize ident a), fun h => absurd hgen h⟩
  · refine ⟨herr.ne_nil, happ, ⟨?_, fun h => absurd h hgen⟩, ⟨fun _ => hgen, fun _ => herr⟩⟩
    rintro ⟨ident, a, hcode⟩
    exact absurd hcode (herr.ne_synthesize ident a)

end FetchKit.Request
