import FetchKit.Proofs.Grammar.Attributes
import FetchKit.Proofs.Grammar.Members

/-!
# Structs and the attributes before them

A struct is read in the same way whatever attributes stand before it: they are kept, and nothing
else of it depends on them. So the attributes of a struct can be exchanged for others.
-/

namespace FetchKit.Grammar

open FetchKit.Source

/-! ## Rules that do not look back -/

namespace Rule

/-- What was written before makes no difference to a rule. -/
class Blind {α : Type} (r : Rule α) : Prop where
  step : ∀ {rest w l a c'}, r ⟨rest, w, l⟩ = .ok (a, c') → ∀ w', ∃ out,
    r ⟨rest, w', l⟩ = .ok (a, { c' with written := out })

section Basic

variable {α β σ : Type}

instance bind_blind {x : Rule α} {f : α → Rule β} [hx : Blind x] [hf : ∀ a, Blind (f a)] :
    Blind (x >>= f) := by
  refine ⟨fun h w' => ?_⟩
  obtain ⟨a, c₁, h₁, h₂⟩ := bind_eq_ok.1 h
  obtain ⟨out₁, h₁⟩ := hx.step h₁ w'
  obtain ⟨out₂, h₂⟩ := (hf a).step h₂ out₁
  exact ⟨out₂, bind_eq_ok.2 ⟨a, _, h₁, h₂⟩⟩

theorem Blind.of_still {r : Rule α} (f : List Tree → α) (h : ∀ c, r c = .ok (f c.rest, c)) :
    Blind r := by
  refine ⟨fun {rest w l a c'} hr w' => ⟨w', ?_⟩⟩
  rw [h] at hr
  cases hr
  exact h _

instance pure_blind (a : α) : Blind (pure a : Rule α) := .of_still (fun _ => a) fun _ => rfl

instance fail_blind (e : Complaint) : Blind (fail e : Rule α) := by
  refine ⟨fun h => ?_⟩
  cases h

instance ite_blind {p : Prop} [Decidable p] {x y : Rule α} [hx : Blind x] [hy : Blind y] :
    Blind (if p then x else y) := by
  split
  · exact hx
  · exact hy

instance trees_blind : Blind trees := .of_still id run_trees
instance atEnd_blind : Blind atEnd := .of_still List.isEmpty run_atEnd
instance peek_blind (p : Probe) : Blind (peek p) := .of_still p.test (run_peek p)
instance peekAny_blind (ps : List Probe) : Blind (peekAny ps) :=
  .of_still (fun ts => ps.any (·.test ts)) (run_peekAny ps)
instance unmet_blind (ps : List Probe) : Blind (unmet ps : Rule α) := by
  unfold unmet; infer_instance
instance complain_blind (text : String) : Blind (complain text : Rule α) := by
  unfold complain; infer_instance

instance advance_blind (rest out : List Tree) : Blind (advance rest out) := by
  refine ⟨fun h w' => ?_⟩
  cases h
  exact ⟨out.reverse ++ w', rfl⟩

instance write_blind (ts : List Tree) : Blind (write ts) := by
  refine ⟨fun h w' => ?_⟩
  cases h
  exact ⟨ts.reverse ++ w', rfl⟩

instance leave_blind (missed : Option Delimiter) : Blind (leave missed) := by
  refine ⟨fun h w' => ?_⟩
  cases h
  exact ⟨w', rfl⟩

instance eatOp_blind (s : String) : Blind (eatOp s) := by
  unfold eatOp; infer_instance
instance eatOp?_blind (s : String) : Blind (eatOp? s) := by
  unfold eatOp?; infer_instance

instance eatWord_blind (w : String) : Blind (eatWord w) := by
  refine @bind_blind _ _ _ _ _ fun ts => ?_
  split <;> infer_instance

instance eatName_blind : Blind eatName := by
  refine @bind_blind _ _ _ _ _ fun ts => ?_
  split <;> infer_instance

instance eatGroup_blind : Blind eatGroup := by
  refine @bind_blind _ _ _ _ _ fun ts => ?_
  split <;> infer_instance

instance enter_blind (d : Delimiter) (body : Rule α) : Blind (enter d body) := by
  refine ⟨fun h w' => ?_⟩
  obtain ⟨content, s, ts, inner, hc, hinner, hmissed, rfl⟩ := enter_eq_ok.1 h
  exact ⟨_, enter_eq_ok.2 ⟨content, s, ts, inner, hc, hinner, hmissed, rfl⟩⟩

instance within_blind (d : Delimiter) (body : Rule α) : Blind (within d body) := by
  unfold within; infer_instance

instance withhold_blind (r : Rule α) : Blind (withhold r) := by
  refine ⟨fun {rest w l a c'} h w' => ⟨w', ?_⟩⟩
  unfold withhold at h ⊢
  split at h
  · cases h
  · next hinner =>
    cases h
    simp [hinner]

instance held_blind (r : Rule α) : Blind (held r) := by
  unfold held; infer_instance

instance iterateFor_blind (n : Nat) (s : σ) (body : σ → Rule (Progress σ))
    [hb : ∀ s, Blind (body s)] : Blind (iterateFor n s body) := by
  induction n generalizing s with
  | zero => exact pure_blind s
  | succ n ih =>
    have hnext : ∀ p : Progress σ,
        Blind (match p with | .done s => pure s | .again s => iterateFor n s body) := by
      intro p
      cases p with
      | done s => exact pure_blind s
      | again s => exact ih s
    have := hb s
    exact bind_blind

instance iterate_blind (s : σ) (body : σ → Rule (Progress σ)) [∀ s, Blind (body s)] :
    Blind (iterate s body) := by
  unfold iterate; infer_instance

end Basic

end Rule

open Rule

section Structs

variable (g : Rules)

instance visibility_blind : Blind visibility := by
  unfold visibility
  repeat' first
    | infer_instance
    | split
    | refine @bind_blind _ _ _ _ _ fun _ => ?_

instance boundsAfterColon_blind (bounds : Rule Unit) : Blind (boundsAfterColon bounds) := by
  unfold boundsAfterColon; infer_instance
instance lifetimeParameter_blind (attributes : List Tree) :
    Blind (lifetimeParameter attributes) := by
  unfold lifetimeParameter; infer_instance
instance typeParameter_blind (attributes : List Tree) : Blind (typeParameter g attributes) := by
  unfold typeParameter; infer_instance
instance constParameter_blind (attributes : List Tree) : Blind (constParameter g attributes) := by
  unfold constParameter; infer_instance
set_option synthInstance.maxSize 2000 in
instance parameter_blind : Blind (parameter g) := by
  unfold parameter; infer_instance
instance angledParameters_blind (parameter : Rule Param) [Blind parameter] :
    Blind (angledParameters parameter) := by
  unfold angledParameters; infer_instance
instance generics_blind : Blind (generics g) := by
  unfold generics generics?; infer_instance
instance peekGenerics_blind : Blind peekGenerics := by
  unfold peekGenerics; infer_instance
set_option synthInstance.maxSize 2000 in
instance whereClause_blind : Blind (whereClause g) := by
  unfold whereClause; infer_instance
instance fieldsRule_blind : Blind (fieldsRule g) := by
  unfold fieldsRule namedFields; infer_instance
instance tupleFields_blind : Blind (tupleFields g) := by
  unfold tupleFields; infer_instance
set_option synthInstance.maxSize 2000 in
instance structBody_blind : Blind (structBody g) := by
  unfold structBody; infer_instance
instance dataType_blind (keyword : String) (body : Rule (Option Where))
    (attributes : List Attribute) [Blind body] : Blind (dataType g keyword body attributes) := by
  unfold dataType; infer_instance

variable {g}

/-! ## Structs -/

theorem dataType_exchange {keyword : String} {body : Rule (Option Where)} {as : List Attribute}
    {c c' : Cursor} {d : DataType} (h : dataType g keyword body as c = .ok (d, c')) :
    d.attributes = as ∧ ∀ bs,
      dataType g keyword body bs c = .ok ({ d with attributes := bs }, c') := by
  unfold dataType at h
  obtain ⟨u, c₁, hkeyword, h⟩ := bind_eq_ok.1 h
  obtain ⟨i, c₂, hname, h⟩ := bind_eq_ok.1 h
  obtain ⟨p, c₃, hgenerics, h⟩ := bind_eq_ok.1 h
  obtain ⟨w, c₄, hbody, h⟩ := bind_eq_ok.1 h
  cases h
  refine ⟨rfl, fun bs => ?_⟩
  unfold dataType
  exact bind_eq_ok.2 ⟨u, c₁, hkeyword, bind_eq_ok.2 ⟨i, c₂, hname, bind_eq_ok.2 ⟨p, c₃, hgenerics,
    bind_eq_ok.2 ⟨w, _, hbody, rfl⟩⟩⟩⟩

theorem itemRule_struct {as : List Attribute} {c c₁ : Cursor} {visible : Bool}
    (hv : visibility c = .ok (visible, c₁)) (hs : startsWord "struct" c₁.rest = true) :
    itemRule g as c = andThen (dataType g "struct" (structBody g) as c₁) fun d =>
      pure (Item.struct d).plain := by
  obtain ⟨ts, w, l⟩ := c₁
  unfold startsWord at hs
  dsimp only at hs
  split at hs
  · next i ts =>
    obtain ⟨name, raw, span⟩ := i
    simp only [Ident.isWord, Bool.and_eq_true, Bool.not_eq_true', beq_iff_eq] at hs
    obtain ⟨rfl, rfl⟩ := hs
    have hsignature := @peekSignature_word "struct" (by decide)
    simp [↓itemRule, hv, hsignature, startsWord]
  · cases hs

/-! ### Other items -/

def Item.NotStruct (i : Item) : Prop := ∀ d, i ≠ .struct d

/-- As `Item.NotStruct`, whether the item is kept as it stood or not. -/
def NoStruct (k : Kept Item) : Prop := k.phrase.NotStruct

theorem gives_plain {x : Rule Item} {c : Cursor} (h : Gives Item.NotStruct x c) :
    Gives NoStruct (do return (← x).plain) c :=
  gives_bind fun i c₁ hx => gives_pure (h i c₁ hx)

theorem functionItem_gives (g : Rules) (c : Cursor) : Gives NoStruct (functionItem g) c := by
  unfold functionItem
  with_reducible repeat' first
    | exact gives_pure (by simp [NoStruct, Item.NotStruct, Item.verbatim, Item.plain])
    | refine gives_ite (fun _ => ?_) fun _ => ?_
    | refine gives_bind fun _ _ _ => ?_

theorem foreignItem_gives (g : Rules) (start c : Cursor) :
    Gives Item.NotStruct (foreignItem g start) c := by
  unfold foreignItem
  with_reducible repeat' first
    | exact gives_pure (by simp [Item.NotStruct])
    | exact gives_unmet _
    | refine gives_ite (fun _ => ?_) fun _ => ?_
    | refine gives_bind fun _ _ _ => ?_

theorem traitItem_gives (g : Rules) (c : Cursor) : Gives Item.NotStruct (traitItem g) c := by
  unfold traitItem
  with_reducible repeat' first
    | exact gives_pure (by simp [Item.NotStruct])
    | refine gives_bind fun _ _ _ => ?_

theorem traitOrAlias_gives (g : Rules) (c : Cursor) : Gives Item.NotStruct (traitOrAlias g) c := by
  unfold traitOrAlias
  with_reducible repeat' first
    | exact gives_pure (by simp [Item.NotStruct])
    | exact gives_unmet _
    | refine gives_ite (fun _ => ?_) fun _ => ?_
    | refine gives_bind fun _ _ _ => ?_

theorem implItem_gives (g : Rules) (c : Cursor) : Gives NoStruct (implItem g) c := by
  unfold implItem
  with_reducible repeat' first
    | exact gives_pure (by simp [NoStruct, Item.NotStruct])
    | exact gives_fail _
    | refine gives_ite (fun _ => ?_) fun _ => ?_
    | refine gives_bind fun _ _ _ => ?_

theorem unsafeItem_gives (g : Rules) (start c : Cursor) :
    Gives NoStruct (unsafeItem g start) c := by
  unfold unsafeItem
  with_reducible repeat' first
    | exact gives_unmet _
    | exact implItem_gives _ _
    | exact gives_plain (traitItem_gives _ _)
    | exact gives_pure (by simp [NoStruct, Item.NotStruct, Item.plain])
    | refine gives_ite (fun _ => ?_) fun _ => ?_
    | refine gives_bind fun _ _ _ => ?_

theorem itemRule_struct_inv {as : List Attribute} {c c' : Cursor} {d : DataType} {kept : Bool}
    (h : itemRule g as c = .ok (⟨.struct d, kept⟩, c')) :
    ∃ visible c₁, visibility c = .ok (visible, c₁) ∧ startsWord "struct" c₁.rest = true := by
  unfold itemRule at h
  obtain ⟨start, c₀, hget, h⟩ := bind_eq_ok.1 h
  cases hget
  obtain ⟨visible, c₁, hv, h⟩ := bind_eq_ok.1 h
  refine ⟨visible, c₁, hv, ?_⟩
  rw [← Bool.not_eq_false]
  intro hs
  suffices hgives : Gives NoStruct _ c₁ from hgives _ _ h d rfl
  -- The cursor stays at `c₁` up to the word that decides; `struct` is ruled out by `hs`.
  with_reducible repeat' first
    | refine gives_peek ?_
    | refine gives_peek2 ?_
    | refine gives_peekSignature fun _ => ?_
    | refine gives_ite (fun _ => ?_) fun _ => ?_
    | exact functionItem_gives _ _
    | exact unsafeItem_gives _ _ _
    | exact implItem_gives _ _
    | exact gives_unmet _
    | exact gives_plain (foreignItem_gives _ _ _)
    | exact gives_plain (traitItem_gives _ _)
    | exact gives_plain (traitOrAlias_gives _ _)
    | exact gives_pure (by simp [NoStruct, Item.NotStruct, Item.plain, Item.verbatim])
    | exact absurd ‹(kw "struct").test c₁.rest = true› (by simp [hs])
    | refine gives_bind fun _ _ _ => ?_
    | split

theorem startsOperator_of_startsWord {word : String} {ts : List Tree} (h : startsWord word ts = true)
    (o : Char) (os : List Char) : startsOperator (o :: os) ts = false := by
  unfold startsWord at h
  split at h
  · cases os <;> rfl
  · cases h

theorem visibility_start {c c' : Cursor} {visible : Bool} (h : visibility c = .ok (visible, c')) :
    startsWord "pub" c.rest = true ∨ c' = c := by
  unfold visibility at h
  simp only [run_bind, run_peek, andThen_ok, run_ite, kw_test] at h
  split at h
  · exact .inl ‹_›
  · cases h
    exact .inr rfl

theorem itemRule_exchange {as : List Attribute} {rest w : List Tree} {l : Option Delimiter}
    {c' : Cursor} {d : DataType} {kept : Bool}
    (h : itemRule g as ⟨rest, w, l⟩ = .ok (⟨.struct d, kept⟩, c')) :
    d.attributes = as ∧ startsOperator ['#'] rest = false ∧ ∀ bs w', ∃ out,
      itemRule g bs ⟨rest, w', l⟩ =
        .ok ((Item.struct { d with attributes := bs }).plain, { c' with written := out }) := by
  obtain ⟨visible, c₁, hv, hs⟩ := itemRule_struct_inv h
  rw [itemRule_struct hv hs, andThen_eq_ok] at h
  obtain ⟨d', c₂, hd, h⟩ := h
  cases h
  obtain ⟨hattributes, hexchange⟩ := dataType_exchange hd
  refine ⟨hattributes, ?_, fun bs w' => ?_⟩
  · rcases visibility_start hv with hpub | rfl
    · exact startsOperator_of_startsWord hpub _ _
    · exact startsOperator_of_startsWord hs _ _
  · obtain ⟨out₁, hv'⟩ := visibility_blind.step hv w'
    obtain ⟨out, hd'⟩ := (dataType_blind g "struct" (structBody g) bs).step (hexchange bs) out₁
    refine ⟨out, ?_⟩
    rw [itemRule_struct hv' hs, andThen_eq_ok]
    exact ⟨_, _, hd', rfl⟩

theorem wholeItem_eq_ok {ts : List Tree} {item : Item} :
    (∃ out, wholeItem g { rest := ts } = .ok (item, { rest := [], written := out })) ↔
      ∃ as c₁ kept out, outerAttributes g { rest := ts } = .ok (as, c₁) ∧
        g.item as c₁ = .ok (⟨item, kept⟩, { rest := [], written := out }) := by
  unfold wholeItem keeping
  constructor
  · rintro ⟨out, h⟩
    split at h
    · cases h
    · next k inner hinner =>
      obtain ⟨as, c₁, has, hitem⟩ := bind_eq_ok.1 hinner
      obtain ⟨rest, w, l⟩ := inner
      cases h
      exact ⟨as, c₁, k.asItStood, w, has, hitem⟩
  · rintro ⟨as, c₁, kept, out, has, hitem⟩
    have hinner := bind_eq_ok.2 ⟨as, c₁, has, hitem⟩
    rw [run_self, hinner]
    exact ⟨_, rfl⟩

theorem parse_struct_split {ts : List Tree} {d : DataType} (h : Item.parse ts = .ok (.struct d)) :
    ∃ front rest, ts = front ++ rest ∧ Attributed grammar front d.attributes ∧
      startsOperator ['#'] rest = false ∧ ∀ front' bs, Attributed grammar front' bs →
        Item.parse (front' ++ rest) = .ok (.struct { d with attributes := bs }) := by
  obtain ⟨as, ⟨rest, w, l⟩, kept, out, hattributes, hitem⟩ := wholeItem_eq_ok.1 (run_eq_ok.1 h)
  obtain rfl := ((grammar_forward.item _ as).step (.refl _) hitem).noted rfl
  obtain ⟨front, hts, has⟩ := outerAttributes_sound hattributes rfl
  -- The level of the rules is fixed by `rest`, which stays as it is.
  obtain ⟨rfl, hhash, hexchange⟩ := itemRule_exchange (g := rules (depthFor rest - 1)) hitem
  refine ⟨front, rest, hts, has, hhash, fun front' bs hbs => ?_⟩
  obtain ⟨w', hattributes'⟩ := outerAttributes_complete hbs hhash []
  obtain ⟨out', hitem'⟩ := hexchange bs w'
  exact run_eq_ok.2 (wholeItem_eq_ok.2 ⟨bs, _, false, out', hattributes', hitem'⟩)

theorem parse_struct {ts : List Tree} {d : DataType} (h : Item.parse ts = .ok (.struct d)) :
    ∃ front rest, ts = front ++ rest ∧ Attributed grammar front d.attributes ∧
      ∀ front' bs, Attributed grammar front' bs →
        Item.parse (front' ++ rest) = .ok (.struct { d with attributes := bs }) := by
  obtain ⟨front, rest, hts, has, -, hexchange⟩ := parse_struct_split h
  exact ⟨front, rest, hts, has, hexchange⟩

theorem Attributed.front_of {us xs front rest : List Tree} {as bs : List Attribute}
    (hus : Attributed g us as) (hfront : Attributed g front bs) (hrest : startsOperator ['#'] rest = false)
    (heq : us ++ xs = front ++ rest) :
    ∃ more cs, front = us ++ more ∧ bs = as ++ cs ∧ Attributed g more cs := by
  induction hus generalizing front bs with
  | nil => exact ⟨front, bs, rfl, rfl, hfront⟩
  | @cons joint s content span a out us as ha _ ih =>
    cases hfront with
    | nil =>
      rw [List.nil_append] at heq
      rw [← heq] at hrest
      cases hrest
    | cons hb hfront =>
      simp only [List.cons_append, List.cons.injEq, Tree.punct.injEq, Tree.group.injEq] at heq
      obtain ⟨⟨-, rfl, rfl⟩, ⟨-, rfl, rfl⟩, heq⟩ := heq
      cases ha.symm.trans hb
      obtain ⟨more, cs, rfl, rfl, hmore⟩ := ih hfront heq
      exact ⟨more, cs, rfl, rfl, hmore⟩

/-- Among the attributes before a struct, some can be exchanged for others. -/
theorem parse_struct_exchange {before old new after : List Tree} {as bs cs : List Attribute}
    {d : DataType} (hbefore : Attributed grammar before as) (hold : Attributed grammar old bs)
    (hnew : Attributed grammar new cs) (h : Item.parse (before ++ (old ++ after)) = .ok (.struct d)) :
    ∃ es, d.attributes = as ++ (bs ++ es) ∧ Item.parse (before ++ (new ++ after)) =
      .ok (.struct { d with attributes := as ++ (cs ++ es) }) := by
  obtain ⟨front, rest, hts, hfront, hrest, hexchange⟩ := parse_struct_split h
  rw [← List.append_assoc] at hts
  obtain ⟨more, es, rfl, hes, hmore⟩ := (hbefore.append hold).front_of hfront hrest hts
  obtain rfl : after = more ++ rest := by simpa using hts
  refine ⟨es, by rw [hes, List.append_assoc], ?_⟩
  have hnew := hexchange _ _ (hbefore.append (hnew.append hmore))
  simpa using hnew

end Structs

end FetchKit.Grammar
