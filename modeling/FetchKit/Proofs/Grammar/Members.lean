import FetchKit.Proofs.Grammar.Blocks

/-!
# Members

Which functions and `impl` blocks the rules take whole.
-/

namespace FetchKit.Grammar

open FetchKit.Source Rule

attribute [local simp] startsOperator_nil startsOperator_ident startsOperator_literal
  startsOperator_group startsOperator_last startsOperator_cons startsWord startsName startsAnyIdent
  startsLifetime startsGroup startsLiteral setOperator word group operator operator.go

variable {α : Type} {g : Rules}

/-! ## Looking ahead with a rule -/

theorem wouldRead_of_ok {r : Rule α} {c d : Cursor} {a : α} (h : r c = .ok (a, d)) :
    wouldRead r c = .ok (true, c) := by
  unfold wouldRead
  rw [run_self, h]

theorem wouldRead_of_error {r : Rule α} {c : Cursor} {e : Complaint} (h : r c = .error e) :
    wouldRead r c = .ok (false, c) := by
  unfold wouldRead
  rw [run_self, h]

theorem attempt_of_error {r : Rule α} {c : Cursor} {e : Complaint} (h : r c = .error e) :
    attempt r c = .ok (none, c) := by
  unfold attempt
  rw [run_self, h]

theorem peekSignature_async (s s' : Span) (ts w : List Tree) (l : Option Delimiter) :
    peekSignature false ⟨.ident ⟨"async", false, s⟩ :: .ident ⟨"fn", false, s'⟩ :: ts, w, l⟩ =
      .ok (true, ⟨.ident ⟨"async", false, s⟩ :: .ident ⟨"fn", false, s'⟩ :: ts, w, l⟩) := by
  refine wouldRead_of_ok (a := ()) (d := ⟨.ident ⟨"fn", false, s'⟩ :: ts,
    .ident ⟨"async", false, s⟩ :: w, l⟩) ?_
  simp [↓abi?]

theorem peekSignature_word {word : String}
    (h : word ∉ ["const", "async", "unsafe", "extern", "fn"]) (s : Span) (ts w : List Tree)
    (l : Option Delimiter) :
    peekSignature false ⟨.ident ⟨word, false, s⟩ :: ts, w, l⟩ =
      .ok (false, ⟨.ident ⟨word, false, s⟩ :: ts, w, l⟩) := by
  refine wouldRead_of_error (e := default) ?_
  simp at h
  simp [↓abi?, h]

/-! ## Functions -/

theorem arguments_reads_nil (g : Rules) : Reads (arguments g) [] [] () := by
  intro w l
  simp [↓arguments]

theorem arguments_reads_one {i : Ident} (hi : i.isName = true) {s : Span} {ts : List Tree}
    {shape : PatternShape} {shape' : TypeShape}
    (hpattern : Reads g.pattern [.ident i] (.punct ':' false s :: ts) shape)
    (htype : Reads (g.type true) ts [] shape')
    (hdots : startsOperator ['.', '.', '.'] ts = false) :
    Reads (arguments g) (.ident i :: .punct ':' false s :: ts) [] () := by
  intro w l
  have hr := isWord_eq_false hi
  simp only [reservedWords, List.mem_cons, forall_eq_or_imp, List.not_mem_nil, or_false,
    forall_eq] at hr
  have hreceiver : receiver g ⟨.ident i :: .punct ':' false s :: ts, w, l⟩ = .error
      (.expected (([kw "self"].filter fun p => !p.test (.ident i :: .punct ':' false s :: ts)).map
        (·.shown)) false) := by
    simp [↓receiver, hr]
  have hattempt := attempt_of_error hreceiver
  have hp := hpattern w l
  have ht := htype (.punct ':' false s :: .ident i :: w) l
  simp at hp ht ⊢
  simp [↓arguments, ↓outerAttributes, ↓argument, hattempt, hp, ht, hdots]

theorem whereClause?_reads_nil (g : Rules) (rest : List Tree) (h : startsWord "where" rest = false) :
    Reads (whereClause? g) [] rest none := by
  intro w l
  simp [↓whereClause?, h, -startsWord]

theorem signature_reads {i : Ident} (hi : i.isName = true) {inputs output rest : List Tree}
    {shape : TypeShape} (hinputs : Reads (arguments g) inputs [] ())
    (houtput : Reads (g.type true) output rest shape) (hrest : startsWord "where" rest = false) :
    Reads (signature g false)
      (word "async" :: word "fn" :: .ident i :: group .paren inputs :: (operator "->" ++ output)) rest
      { isSafe := false, isAsync := true, ident := i, generic := false
        inputs := [group .paren inputs], output := operator "->" ++ output } := by
  intro w l
  have hi' := (hinputs.enter .paren .callSite (operator "->" ++ output ++ rest)).capture
    (.ident i :: word "fn" :: word "async" :: w) l
  have houtput' : Reads (returnType g true) (operator "->" ++ output) rest () := by
    intro w l
    have ho := houtput ([.punct '>' false .callSite, .punct '-' true .callSite] ++ w) l
    simp at ho ⊢
    simp [↓returnType, ho]
  have ho := houtput'.capture (group .paren inputs :: .ident i :: word "fn" :: word "async" :: w) l
  have hw := whereClause?_reads_nil g rest hrest
    ((word "async" :: word "fn" :: .ident i :: group .paren inputs ::
      (operator "->" ++ output)).reverse ++ w) l
  simp at hi' ho hw ⊢
  simp [↓signature, ↓abi?, ↓run_eatName hi, ↓generics, ↓generics?, Generics.text,
    Generics.angled, hi', ho, hw]

/-! ## `impl` blocks -/

/-- `pub async fn i(inputs) -> output { body }` -/
def publicAsync (i : Ident) (inputs output body : List Tree) : List Tree :=
  word "pub" :: word "async" :: word "fn" :: .ident i :: group .paren inputs ::
    (operator "->" ++ output ++ [group .brace body])

/-- What is kept of such a function. -/
def publicAsyncMethod (i : Ident) (inputs output body : List Tree) : Method :=
  { visible := [word "pub"], isAsync := true, ident := i, generic := false
    inputs := [group .paren inputs], output := operator "->" ++ output, body := [group .brace body] }

theorem visibility_reads_pub (rest : List Tree) (hrest : startsGroup .paren rest = false) :
    Reads visibility [word "pub"] rest true := by
  intro w l
  cases rest with
  | nil => simp [↓visibility]
  | cons t rest =>
    cases t with
    | group d content s =>
      simp at hrest
      cases d with
      | paren => simp at hrest
      | bracket => simp [↓visibility]
      | brace => simp [↓visibility]
    | ident i => simp [↓visibility]
    | punct c joint s => simp [↓visibility]
    | literal text s => simp [↓visibility]

/-- The parts of such a function are phrases of their own. -/
structure IsPublicAsync (g : Rules) (i : Ident) (inputs output body : List Tree) : Prop where
  isName : i.isName = true
  takesInputs : Reads (arguments g) inputs [] ()
  takesOutput : ∃ shape, ∀ rest, Reads (g.type true) output (group .brace body :: rest) shape
  takesBody : Reads g.statements body [] ()
  plainBody : startsOperator ['#'] body = false

theorem implMethod_reads {i : Ident} {inputs output body : List Tree}
    (h : IsPublicAsync g i inputs output body) (rest : List Tree) :
    Reads (implMethod g) (publicAsync i inputs output body) rest
      ⟨.method (publicAsyncMethod i inputs output body), false⟩ := by
  intro w l
  obtain ⟨shape, houtput⟩ := h.takesOutput
  have hv := (visibility_reads_pub (word "async" :: word "fn" :: .ident i ::
    group .paren inputs :: (operator "->" ++ output ++ group .brace body :: rest)) rfl).capture w l
  have hs := signature_reads h.isName h.takesInputs (houtput rest) rfl (word "pub" :: w) l
  have hb := (bracedBlock_reads h.takesBody h.plainBody .callSite rest).capture
    ((word "pub" :: word "async" :: word "fn" :: .ident i :: group .paren inputs ::
      (operator "->" ++ output)).reverse ++ w) l
  simp at hv hs hb
  simp [publicAsync, publicAsyncMethod, ↓implMethod, hv, hs, hb]

theorem implMember_reads {i : Ident} {inputs output body : List Tree}
    (h : IsPublicAsync g i inputs output body) (rest : List Tree) :
    Reads (implMember g) (publicAsync i inputs output body) rest
      (.method (publicAsyncMethod i inputs output body)) := by
  refine Reads.keeping (a := ⟨Member.method (publicAsyncMethod i inputs output body), false⟩)
    fun w l => ?_
  have hv := visibility_reads_pub (word "async" :: word "fn" :: .ident i ::
    group .paren inputs :: (operator "->" ++ output ++ group .brace body :: rest)) rfl w l
  have hm := implMethod_reads h rest w l
  simp [publicAsync] at hv hm ⊢
  simp [↓outerAttributes, ↓implMemberAfter, hv, peekSignature_async, hm]

theorem visibility_reads_nil (rest : List Tree) (h : startsWord "pub" rest = false) :
    Reads visibility [] rest false := by
  intro w l
  simp [↓visibility, h, -startsWord]

/-- `impl selfType { members }` -/
def implText (selfType members : List Tree) : List Tree :=
  word "impl" :: (selfType ++ [group .brace members])

theorem implItem_reads {i : Ident} (hi : i.isName = true) {tail members : List Tree}
    {shape : TypeShape} {found : List Member}
    (htype : Reads (g.type true) (.ident i :: tail) [group .brace members] shape)
    (hmembers : Reads (untilEnd (implMember g)) members [] found)
    (hhash : startsOperator ['#'] members = false) :
    Reads (implItem g) (implText (.ident i :: tail) members) []
      ⟨.impl ⟨{}, false, .ident i :: tail, found⟩, false⟩ := by
  intro w l
  have hr := isWord_eq_false hi
  simp only [reservedWords, List.mem_cons, forall_eq_or_imp, List.not_mem_nil, or_false,
    forall_eq] at hr
  have hv := visibility_reads_nil (implText (.ident i :: tail) members) rfl w l
  have ht := htype.capture (word "impl" :: w) l
  have hbody : Reads (do
      let _ ← innerAttributes g
      untilEnd (implMember g)) members [] found := by
    intro w l
    have hattr := innerAttributes_reads_nil g hhash w l
    have hm := hmembers w l
    simp at hattr hm ⊢
    simp [hattr, hm]
  have hb := hbody.within .brace .callSite [] ((word "impl" :: .ident i :: tail).reverse ++ w) l
  have hw := whereClause?_reads_nil g [group .brace members] rfl
    ((word "impl" :: .ident i :: tail).reverse ++ w) l
  have hc := (pure_reads () [group .brace members]).capture
    ((word "impl" :: .ident i :: tail).reverse ++ w) l
  simp [implText] at hv ht hb hw hc ⊢
  simp [↓implItem, hv, ↓peekGenerics, opensGenerics, hr, ht, hc, hw, ↓membersIn, hb]

/-! ## Items -/

theorem item_reads_impl {attributes : List Attribute} {tail members : List Tree} {i : Ident}
    {item : Kept Item}
    (h : Reads (implItem g) (implText (.ident i :: tail) members) [] item) :
    Reads (itemRule g attributes) (implText (.ident i :: tail) members) [] item := by
  intro w l
  have hv := visibility_reads_nil (implText (.ident i :: tail) members) rfl w l
  have h := h w l
  simp [implText] at hv h ⊢
  have hsignature := @peekSignature_word "impl" (by decide)
  simp [↓itemRule, hv, hsignature, h]

theorem grammar_item_reads {attributes : List Attribute} {ts rest : List Tree} {item : Kept Item}
    (h : Reads ((rules (depthFor (ts ++ rest))).item attributes) ts rest item) :
    Reads (grammar.item attributes) ts rest item := by
  -- The level is fixed by the trees that are left at the start.
  intro w l
  simp only [grammar, atDepth]
  exact h w l

theorem wholeItem_reads {ts : List Tree} {item : Kept Item} (h : Reads (g.item []) ts [] item)
    (hhash : startsOperator ['#'] ts = false) : Reads (wholeItem g) ts [] item.phrase := by
  refine Reads.keeping fun w l => ?_
  have hattr := outerAttributes_reads_nil g hhash w l
  have h := h w l
  simp at hattr h ⊢
  simp [hattr, h]

end FetchKit.Grammar
