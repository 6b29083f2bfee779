import FetchKit.Proofs.Grammar.Setting.Values

/-!
# Items are set anew

The rules for items and their members write what they read, set anew, and so do the rules of every
level.
-/

namespace FetchKit.Grammar

open FetchKit.Source Rule

section Items

variable {base : Cursor} (g : Rules) [g.Forward] [g.Resets]

/-! ## Functions -/

instance visibility_resets : Rule.Resets .code base visibility := by
  unfold visibility
  repeat' first
    | infer_instance
    | split
    | refine @bind_resets _ _ _ _ _ _ inferInstance fun _ => ?_

instance boundsTo_resets (allowConst : Bool) (stop : Rule Bool) [Rule.Resets .code base stop] :
    Rule.Resets .code base (boundsTo g allowConst stop) := by
  unfold boundsTo; infer_instance
instance boundsTo_matches (allowConst : Bool) (stop : Rule Bool) [Rule.Matches stop] :
    Rule.Matches (boundsTo g allowConst stop) := by
  unfold boundsTo; infer_instance
instance peekSignature_resets (allowSafe : Bool) :
    Rule.Resets .code base (peekSignature allowSafe) := by
  unfold peekSignature; infer_instance
set_option synthInstance.maxSize 2000 in
instance receiver_resets : Rule.Resets .code base (receiver g) := by
  unfold receiver; infer_instance

theorem unnamed_resets {α : Type} {x y : Rule α} [∀ base, Rule.Resets .code base x]
    [∀ base, Rule.Resets .code base y] : Rule.Resets .code base (do
      if (← peek name) && (← peek2 (op "<")) then
        write ([word "_"] ++ operator ":")
        x
      else y) := by
  refine .of_here fun {c a c'} h => ?_
  replace h := peek_taken h
  rw [run_bind, run_peek2, andThen_ok] at h
  obtain ⟨hunnamed, h⟩ | ⟨-, h⟩ := ite_taken h
  · obtain ⟨hname, hopen⟩ := Bool.and_eq_true_iff.1 hunnamed
    rw [run_bind, run_write, andThen_ok] at h
    have hanew : Anew .code c
        { c with written := (word "_" :: operator ":").reverse ++ c.written } :=
      fun hl => ⟨hl, [], _, rfl, rfl, .unnamed hname hopen⟩
    exact Rule.Resets.step hanew h
  · exact Rule.Resets.here .code h

instance argument_resets : Rule.Resets .code base (argument g) := by
  unfold argument
  refine @bind_resets _ _ _ _ _ _ inferInstance fun received => ?_
  refine @ite_resets _ _ _ _ _ _ _ inferInstance ?_
  exact unnamed_resets

instance arguments_resets : Rule.Resets .code base (arguments g) := by
  unfold arguments
  refine @bind_resets _ _ _ _ _ _ (@iterate_resets _ _ _ _ _ fun seen => ?_) inferInstance
  repeat' first
    | refine @ite_resets _ _ _ _ _ _ _ ?_ ?_
    | refine @bind_resets _ _ _ _ _ _ inferInstance fun kind => ?_
    | infer_instance
    | cases ‹ArgumentKind›

theorem capture_enter_resets {α β : Type} {d : Delimiter} {body : Rule α}
    [∀ base, Rule.Resets .code base body] {f : (α × Option Delimiter) × List Tree → Rule β}
    [hforward : ∀ p base, Rule.Forward base (f p)]
    (hf : ∀ a text base, Rule.Resets .code base (f ((a, none), text)))
    (hleaves : ∀ a missed text, Leaves missed (f ((a, missed), text))) :
    Rule.Resets .code base (capture (enter d body) >>= f) := by
  refine .of_here fun {c b c'} h hl => ?_
  obtain ⟨⟨⟨a, missed⟩, text⟩, c₁, hcapture, h₁⟩ := bind_eq_ok.1 h
  obtain rfl := (hleaves a missed text).step h₁ hl
  have hl₁ := ((hforward _ c₁).step (.refl c₁) h₁).noted hl
  obtain ⟨inner, henter, -, rfl⟩ := run_capture _ hcapture
  obtain ⟨content, s, ts, out, w, hc, rfl, -, hreset⟩ := enter_anew .code henter hl₁
  obtain ⟨hrest, rfl, hleft⟩ := Cursor.mk.inj hc
  have hanew : Anew .code c ⟨ts, .group d out s :: c.written, none⟩ :=
    fun _ => ⟨hleft, [_], [_], hrest, rfl, .group d s hreset⟩
  exact (hf a text _).step hanew h₁ hl

instance signature_resets (allowSafe : Bool) : Rule.Resets .code base (signature g allowSafe) := by
  unfold signature
  repeat' first
    | exact capture_enter_resets (fun _ _ _ => inferInstance) fun _ _ _ => inferInstance
    | refine @ite_resets _ _ _ _ _ _ _ ?_ ?_
    | refine @bind_resets _ _ _ _ _ _ inferInstance fun _ => ?_

/-! ## Declarations of data -/

instance namedFields_resets (fields : Rule Unit) [∀ base, Rule.Resets .code base fields] :
    Rule.Resets .code base (namedFields fields) := by
  unfold namedFields; infer_instance
set_option synthInstance.maxSize 2000 in
instance namedField_resets : Rule.Resets .code base (namedField g) := by
  unfold namedField; infer_instance
instance fieldsRule_resets : Rule.Resets .code base (fieldsRule g) := by
  unfold fieldsRule; infer_instance
instance tupleFields_resets : Rule.Resets .code base (tupleFields g) := by
  unfold tupleFields; infer_instance

theorem visibility_scope {ts next w w' : List Tree} {visible : Bool}
    (h : visibility ⟨ts, w, none⟩ = .ok (visible, ⟨next, w', none⟩)) :
    (ts = next ∧ w' = w) ∨ ∃ k us, k.isWord "pub" = true ∧ ts = .ident k :: us ∧
      (us = next ∨ ∃ content s, us = .group .paren content s :: next) := by
  obtain ⟨-, h⟩ | ⟨-, h⟩ := ite_taken (peek_taken h)
  · obtain ⟨u, c₁, hpub, h⟩ := bind_eq_ok.1 h
    obtain ⟨k, us, hk, hts, rfl⟩ := eatWord_eq_ok.1 hpub
    refine .inr ⟨k, us, hk, hts, ?_⟩
    rw [run_bind, run_trees, andThen_ok] at h
    dsimp only at h
    split at h
    · next i more s rest =>
      obtain ⟨-, h⟩ | ⟨-, h⟩ := ite_taken h
      · obtain ⟨-, h⟩ | ⟨-, h⟩ := ite_taken h
        · cases h
          exact .inr ⟨_, s, rfl⟩
        · cases h
          exact .inl rfl
      obtain ⟨-, h⟩ | ⟨-, h⟩ := ite_taken h
      · obtain ⟨u, c₂, hscope, hpure⟩ := bind_eq_ok.1 h
        cases hpure
        obtain ⟨content, s, ts, out, w, hc, hc', -, -⟩ := within_anew .code hscope rfl
        cases hc
        cases hc'
        exact .inr ⟨_, _, rfl⟩
      · cases h
        exact .inl rfl
    · cases h
      exact .inl rfl
  · cases h
    exact .inl ⟨rfl, rfl⟩

theorem writes_visibility {next piece text : List Tree} (h : Writes visibility next piece text) :
    piece = [] ∧ text = [] ∨ isVisibility piece = true := by
  obtain ⟨visible, h⟩ := h
  obtain ⟨hpiece, htext⟩ | ⟨k, us, hk, hpiece, hus⟩ := visibility_scope h
  · exact .inl ⟨by simpa using hpiece, by simpa using htext⟩
  right
  obtain rfl | ⟨content, s, rfl⟩ := hus
  · obtain rfl : piece = [.ident k] := List.append_cancel_right hpiece
    exact hk
  · obtain rfl : piece = [.ident k, .group .paren content s] := List.append_cancel_right hpiece
    exact hk

omit [g.Forward] [g.Resets] in
theorem hidden_resets {α : Type} {r : Rule α} [∀ base, Rule.Forward base r]
    [∀ base, Rule.Resets .code base r] : Rule.Resets .code base (do
      let _ ← held visibility
      let _ ← eatName
      r) := by
  refine .of_taken fun h => ?_
  obtain ⟨text, piece, rest₁, rfl, hvisible, hmore⟩ := held_taken h
  obtain ⟨i, c₁, hname, -⟩ := bind_eq_ok.1 hmore
  obtain ⟨hstarts, ts, rfl, -⟩ := eatName_eq_ok.1 hname
  have hfirst : Reset .code (.ident i :: ts) piece [] := by
    obtain ⟨rfl, -⟩ | hpiece := writes_visibility hvisible
    · exact .same []
    · exact .visibility hpiece hstarts
  have hanew (w : List Tree) :
      Anew .code ⟨piece ++ .ident i :: ts, w, none⟩ ⟨.ident i :: ts, w, none⟩ :=
    fun hl => ⟨hl, piece, [], rfl, rfl, hfirst⟩
  exact (Rule.Resets.step (hanew _) hmore rfl).2

set_option synthInstance.maxSize 2000 in
instance variant_resets : Rule.Resets .code base (variant g) := by
  unfold variant
  refine @bind_resets _ _ _ _ _ _ inferInstance fun _ => ?_
  exact hidden_resets

set_option synthInstance.maxSize 2000 in
instance structBody_resets : Rule.Resets .code base (structBody g) := by
  unfold structBody; infer_instance
instance enumBody_resets : Rule.Resets .code base (enumBody g) := by
  unfold enumBody; infer_instance
instance unionBody_resets : Rule.Resets .code base (unionBody g) := by
  unfold unionBody; infer_instance

instance dataType_resets (keyword : String) (body : Rule (Option Where))
    (attributes : List Attribute) [Rule.Resets .code base body] :
    Rule.Resets .code base (dataType g keyword body attributes) := by
  unfold dataType; infer_instance

/-! ## Other items -/

set_option synthInstance.maxSize 2000 in
instance importsRule_resets (allowRoot : Bool) : Rule.Resets .code base (importsRule g allowRoot) := by
  unfold importsRule; infer_instance
instance useItem_resets : Rule.Resets .code base (useItem g) := by
  unfold useItem; infer_instance
set_option synthInstance.maxSize 2000 in
instance externCrate_resets : Rule.Resets .code base externCrate := by
  unfold externCrate; infer_instance
set_option synthInstance.maxSize 2000 in
instance callItem_resets : Rule.Resets .code base callItem := by
  unfold callItem; infer_instance
instance callMember_resets : Rule.Resets .code base callMember := by
  unfold callMember; infer_instance

theorem bounds_bind_resets {β : Type} {allowConst : Bool} {ps : List Probe} {r : Rule β}
    (hps : ∀ ts, ps.any (·.test ts) = true → endsBounds ts = true) [Rule.Resets .code base r] :
    Rule.Resets .code base (boundsAfterColon (boundsTo g allowConst (peekAny ps)) >>= fun text =>
      write text >>= fun _ => r) := by
  have := boundsTo_bounding g allowConst hps
  have := boundsTo_opens g allowConst hps
  rw [← bind_assoc]
  infer_instance

set_option synthInstance.maxSize 2000 in
instance typeAlias_resets (place : ConditionsPlace) : Rule.Resets .code base (typeAlias g place) := by
  have hps (ts : List Tree) (h : [kw "where", op "=", op ";"].any (·.test ts) = true) :
      endsBounds ts = true := by
    simp only [List.any_cons, List.any_nil, op_test, kw_test] at h
    simp only [endsBounds]
    grind
  unfold typeAlias
  repeat' first
    | exact bounds_bind_resets g hps
    | refine @bind_resets _ _ _ _ _ _ inferInstance fun _ => ?_

set_option synthInstance.maxSize 2000 in
instance constantAfter_resets : Rule.Resets .code base (constantAfter g) := by
  unfold constantAfter; infer_instance
set_option synthInstance.maxSize 2000 in
instance staticItem_resets : Rule.Resets .code base (staticItem g) := by
  unfold staticItem; infer_instance
set_option synthInstance.maxSize 2000 in
instance macroItem_resets : Rule.Resets .code base macroItem := by
  unfold macroItem; infer_instance

/-! ## Members -/

instance traitMethod_resets : Rule.Resets .code base (traitMethod g) := by
  unfold traitMethod; infer_instance
set_option synthInstance.maxSize 2000 in
instance traitMemberAfter_resets (marked : Bool) :
    Rule.Resets .code base (traitMemberAfter g marked) := by
  unfold traitMemberAfter; infer_instance
instance traitMember_resets : Rule.Resets .code base (traitMember g) := by
  unfold traitMember; infer_instance
instance implMethod_resets : Rule.Resets .code base (implMethod g) := by
  unfold implMethod; infer_instance

instance implMemberAfter_resets : Rule.Resets .code base (implMemberAfter g) := by
  unfold implMemberAfter
  refine @get_bind_resets _ _ _ _ fun start _ => ?_
  repeat' first
    | refine @ite_resets _ _ _ _ _ _ _ ?_ ?_
    | refine @bind_resets _ _ _ _ _ _ inferInstance fun _ => ?_
    | infer_instance

instance implMember_resets : Rule.Resets .code base (implMember g) := by
  unfold implMember; infer_instance
instance foreignFunction_resets : Rule.Resets .code base (foreignFunction g) := by
  unfold foreignFunction; infer_instance
set_option synthInstance.maxSize 20000 in
instance foreignStatic_resets : Rule.Resets .code base (foreignStatic g) := by
  unfold foreignStatic; infer_instance
set_option synthInstance.maxSize 2000 in
instance foreignMemberAfter_resets : Rule.Resets .code base (foreignMemberAfter g) := by
  unfold foreignMemberAfter; infer_instance
instance foreignMember_resets : Rule.Resets .code base (foreignMember g) := by
  unfold foreignMember; infer_instance

/-! ## Blocks of items and members -/

instance membersIn_resets {α : Type} (member : Rule α) [∀ base, Rule.Resets .code base member] :
    Rule.Resets .code base (membersIn g member) := by
  unfold membersIn; infer_instance
instance wholeItem_resets : Rule.Resets .code base (wholeItem g) := by
  unfold wholeItem; infer_instance
set_option synthInstance.maxSize 2000 in
instance moduleItem_resets : Rule.Resets .code base (moduleItem g) := by
  unfold moduleItem; infer_instance
instance foreignBlock_resets : Rule.Resets .code base (foreignBlock g) := by
  unfold foreignBlock; infer_instance

instance traitBody_resets : Rule.Resets .code base (traitBody g) := by
  refine bounds_bind_resets g fun ts h => ?_
  simp only [List.any_cons, List.any_nil, kw_test, brace_test] at h
  simp only [endsBounds]
  grind

set_option synthInstance.maxSize 2000 in
instance traitItem_resets : Rule.Resets .code base (traitItem g) := by
  unfold traitItem; infer_instance
set_option synthInstance.maxSize 2000 in
instance traitOrAlias_resets : Rule.Resets .code base (traitOrAlias g) := by
  unfold traitOrAlias; infer_instance

instance peekGenerics_resets : Rule.Resets .code base peekGenerics := by
  unfold peekGenerics; infer_instance

instance implItem_resets : Rule.Resets .code base (implItem g) := by
  unfold implItem
  repeat' first
    | refine @ite_resets _ _ _ _ _ _ _ ?_ ?_
    | refine @bind_resets _ _ _ _ _ _ inferInstance fun _ => ?_
    | infer_instance

/-! ## Any item -/

instance functionItem_resets : Rule.Resets .code base (functionItem g) := by
  unfold functionItem; infer_instance
set_option synthInstance.maxSize 2000 in
instance foreignItem_resets (start : Cursor) [Since .code base start] :
    Rule.Resets .code base (foreignItem g start) := by
  unfold foreignItem; infer_instance
set_option synthInstance.maxSize 2000 in
instance unsafeItem_resets (start : Cursor) [Since .code base start] :
    Rule.Resets .code base (unsafeItem g start) := by
  unfold unsafeItem; infer_instance

instance itemRule_resets (attributes : List Attribute) :
    Rule.Resets .code base (itemRule g attributes) := by
  unfold itemRule
  refine @get_bind_resets _ _ _ _ fun start _ => ?_
  repeat' first
    | refine @ite_resets _ _ _ _ _ _ _ ?_ ?_
    | refine @bind_resets _ _ _ _ _ _ inferInstance fun _ => ?_
    | infer_instance
    | split

end Items

/-! ## Every level sets trees anew -/

instance exhausted_resets : Rules.exhausted.Resets := by
  constructor
  case matching => exact rules_matches 0
  case opening => exact rules_opens 0
  case relaxed | verbatim =>
    intros
    contradiction
  all_goals
    intros
    exact Rule.fail_resets _

instance rules_resets (n : Nat) : (rules n).Resets := by
  induction n with
  | zero => exact exhausted_resets
  | succ n ih =>
    constructor
    case matching => exact rules_matches (n + 1)
    case opening => exact rules_opens (n + 1)
    case relaxed => exact typeRule_relaxed (rules n)
    case verbatim => exact patternRule_verbatim (rules n)
    all_goals
      intros
      unfold rules
      infer_instance

instance atDepth_resets {α : Type} {place : Place} {base : Cursor} {r : Nat → Rule α}
    [hr : ∀ n, Rule.Resets place base (r n)] : Rule.Resets place base (atDepth r) :=
  ⟨fun {c _ _} hb h => (hr (depthFor c.rest)).step hb h⟩

theorem atDepth_level {α : Type} (r : Nat → Rule α) (c : Cursor) : ∃ n, atDepth r c = r n c :=
  ⟨_, rfl⟩

instance grammar_resets : grammar.Resets := by
  constructor
  case matching => exact grammar_matches
  case opening => exact grammar_opens
  case relaxed =>
    intro plus c c' h
    obtain ⟨n, hn⟩ := atDepth_level (fun n => (rules n).type plus) c
    exact (rules_resets n).relaxed (hn.symm.trans h)
  case verbatim =>
    intro c c' h
    obtain ⟨n, hn⟩ := atDepth_level (fun n => (rules n).pattern) c
    exact (rules_resets n).verbatim (hn.symm.trans h)
  all_goals
    intros
    unfold grammar
    infer_instance

end FetchKit.Grammar
