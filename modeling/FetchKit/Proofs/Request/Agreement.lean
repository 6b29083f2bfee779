import FetchKit.Proofs.Grammar.Depth
import FetchKit.Proofs.Request.Appendix
import FetchKit.Proofs.Request.Conformance
import Mathlib.Data.List.Basic

/-!
# What both calls take for a struct

A request reads its item by the rule for items, and conformance by the rule for types. The two agree
on structs: what the one reads as a struct, the other reads as the same struct.
-/

namespace FetchKit.Request

open FetchKit.Source FetchKit.Grammar FetchKit.Grammar.Rule

/-! ## Two rules for a struct -/

/-- The word after the attributes and the visibility of the item is `struct`. -/
def DeclaresStruct (item : List Tree) : Prop :=
  ∃ as visible c c', outerAttributes grammar { rest := item } = .ok (as, c) ∧
    visibility c = .ok (visible, c') ∧ startsWord "struct" c'.rest = true

theorem grammar_item : grammar.item = itemRule grammar := by
  rw [← grammar_next]
  exact congrArg itemRule grammar_next.symm

theorem dataTypeRule_struct {g : Rules} {as : List Attribute} {visible : Bool} {c c₁ c₂ : Cursor}
    (has : outerAttributes g c = .ok (as, c₁)) (hvisible : visibility c₁ = .ok (visible, c₂))
    (hstruct : startsWord "struct" c₂.rest = true) :
    dataTypeRule g c = dataType g "struct" (structBody g) as c₂ := by
  simp only [dataTypeRule, run_bind, has, hvisible, andThen_ok, run_peek, kw_test, hstruct, if_true]

/-- Both rules read the same structs. -/
theorem parse_struct_iff {item : List Tree} {d : DataType} :
    Item.parse item = .ok (.struct d) ↔ DataType.parse item = .ok d ∧ DeclaresStruct item := by
  have hitem : Item.parse item = .ok (.struct d) ↔ ∃ as c kept out,
      outerAttributes grammar { rest := item } = .ok (as, c) ∧
        itemRule grammar as c = .ok (⟨.struct d, kept⟩, { rest := [], written := out }) := by
    rw [← grammar_item]
    exact run_eq_ok.trans wholeItem_eq_ok
  rw [hitem]
  constructor
  · rintro ⟨as, c, kept, out, has, h⟩
    obtain ⟨visible, c', hvisible, hstruct⟩ := itemRule_struct_inv h
    rw [itemRule_struct hvisible hstruct] at h
    obtain ⟨d', c₁, hd, hpure⟩ := andThen_eq_ok.1 h
    cases hpure
    refine ⟨run_eq_ok.2 ⟨out, ?_⟩, as, visible, c, c', has, hvisible, hstruct⟩
    rw [dataTypeRule_struct has hvisible hstruct, hd]
  · rintro ⟨h, as, visible, c, c', has, hvisible, hstruct⟩
    obtain ⟨out, hd⟩ := run_eq_ok.1 h
    rw [dataTypeRule_struct has hvisible hstruct] at hd
    refine ⟨as, c, false, out, has, ?_⟩
    rw [itemRule_struct hvisible hstruct, hd]
    rfl

/-! ## What the two calls give -/

/-- The code is one `impl`, for the type that the item declares under this name, with the parameters
and the conditions of the type. -/
def ConformsAs (item out : List Tree) (i : Ident) : Prop :=
  ∃ p ps qs, partsOf item = some p ∧ p.ident = i ∧ Parameters p.generics ps ∧
    Conditions p.conditions qs ∧ IsImpl i ps (qs.map (·.text)) out

theorem conformsAs_of_parse {item : List Tree} {d : DataType} (h : DataType.parse item = .ok d) :
    ConformsAs item (conformance d) d.ident := by
  obtain ⟨p, hp, hof⟩ := partsOf_parse h
  exact ⟨p, _, _, hp, hof.ident, parameters_of_holds hof.generics,
    conditions_of_holds hof.conditions, hof.ident ▸ isImpl_conformance hof⟩

theorem IsImpl.not_isErrors {i : Ident} {ps : List Param} {conditions : List (List Tree)}
    {out : List Tree} (h : IsImpl i ps conditions out) : ¬ IsErrors out := by
  -- Errors start with `::`.
  obtain ⟨declared, used, k, conditioned, rfl, -⟩ := h
  rintro ⟨texts, hne, heq⟩
  obtain ⟨text, more, rfl⟩ := List.exists_cons_of_ne_nil hne
  cases heq

theorem parse_of_conformsAs {item : List Tree} {i : Ident}
    (h : ConformsAs item (Call.deriveCodable item).dispatch i) :
    ∃ d, DataType.parse item = .ok d ∧ d.ident = i := by
  obtain ⟨p, ps, qs, hp, rfl, -, -, himpl⟩ := h
  cases hd : DataType.parse item with
  | error c =>
    have hdispatch : (Call.deriveCodable item).dispatch = compileError c.message := by
      simp only [Call.dispatch, conform, hd, Except.map]
      rfl
    rw [hdispatch] at himpl
    exact absurd ⟨[c.message], List.cons_ne_nil _ _, rfl⟩ himpl.not_isErrors
  | ok d =>
    obtain ⟨p', hp', hof⟩ := partsOf_parse hd
    cases hp.symm.trans hp'
    exact ⟨d, rfl, hof.ident.symm⟩

theorem parse_of_requestOn {attr item : List Tree} {a : Arguments} {i : Ident}
    (h : (Call.requestOn attr item).dispatch = item ++ synthesize i a) :
    ∃ d, Item.parse item = .ok (.struct d) ∧ d.ident = i := by
  have happ := appendix_appended attr item
  rw [List.append_cancel_left h] at happ
  obtain ⟨⟨b, item', tokens, hb, hitem, hexpand⟩, -⟩ | ⟨-, herrors⟩ := happ.code_or_errors
  · obtain ⟨d, rfl, rfl⟩ := expand_generated hexpand
    refine ⟨d, hitem, ?_⟩
    have hcode : appendix attr item = synthesize d.ident b := by
      simp only [appendix, expand, hb, Declaration.parse, hitem, Except.map, hexpand]
    -- The name stands right after `impl`.
    have hcons := (List.append_cancel_left h).symm.trans hcode
    injection hcons with _ hcons
    injection hcons with hident _
    cases hident
    rfl
  · exact absurd rfl (herrors.ne_synthesize i a)

theorem parse_nil : Arguments.parse [] = .ok {} := by
  simp [Arguments.parse, readEntries, Arguments.ofEntries]

theorem expand_struct (whole : Span) (a : Arguments) (d : DataType) :
    (Declaration.ofItem whole (.struct d)).expand a = .generated (synthesize d.ident a) ∨
      ∃ why, (Declaration.ofItem whole (.struct d)).expand a = .diagnosed [why] ∧
        (why.id = .noConformance ∨ why.id = .wrongConformance) := by
  obtain ⟨e, he⟩ := exists_decision whole a (.struct d)
  rw [he.expand_eq]
  cases he with
  | notStruct hitem => cases hitem
  | noConformance hnone => exact .inr ⟨_, rfl, .inl rfl⟩
  | wrongConformance hfirst hname hwrong => exact .inr ⟨_, rfl, .inr rfl⟩
  | generated hfirst hname => exact .inl rfl

end FetchKit.Request
