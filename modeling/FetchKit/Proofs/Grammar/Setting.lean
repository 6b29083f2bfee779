import FetchKit.Proofs.Grammar.Listing
import FetchKit.Proofs.Source.Number

/-!
# How trees are set anew

What may become of trees when they are read and written again.
-/

namespace FetchKit.Grammar

open FetchKit.Source Rule

/-! ## Lists with commas -/

/-- Texts with single commas between them, and maybe one after the last. -/
inductive Commas : List (List Tree) → List Tree → Prop
  | nil : Commas [] []
  | last (t : List Tree) : Commas [t] t
  | more {ts out} (t : List Tree) (joint : Bool) (s : Span) (h : Commas ts out) :
    Commas (t :: ts) (t ++ .punct ',' joint s :: out)

/-- All but the last have a comma after them. -/
inductive Punctuated : List Listed → Prop
  | nil : Punctuated []
  | last {a} (ha : a.comma = []) : Punctuated [a]
  | more {a s items} (ha : a.comma = [.punct ',' false s]) (h : Punctuated items) :
    Punctuated (a :: items)

theorem Punctuated.filter {items : List Listed} (h : Punctuated items) (p : Listed → Bool) :
    Punctuated (items.filter p) := by
  induction h with
  | nil => exact .nil
  | last ha =>
    rw [List.filter_cons, List.filter_nil]
    split
    · exact .last ha
    · exact .nil
  | more ha _ ih =>
    rw [List.filter_cons]
    split
    · exact .more ha ih
    · exact ih

/-- An item with the comma after it. -/
def Listed.set (a : Listed) : List Tree := a.text ++ a.comma

theorem foldl_front {items : List Listed} (h : Punctuated items) (out : List Tree) :
    items.foldl (fun (out : List Tree × Bool) a => (out.1 ++ a.text ++ a.comma, !a.comma.isEmpty))
        (out, true) =
      (out ++ items.flatMap Listed.set, items.all (!·.comma.isEmpty)) := by
  induction h generalizing out with
  | nil => simp
  | last ha => simp [Listed.set, ha]
  | more ha _ ih =>
    rw [List.foldl_cons]
    simp only [ha, List.isEmpty_cons, Bool.not_false, ih]
    simp [Listed.set, ha]

theorem foldl_more {items : List Listed} (h : Punctuated items) (out : List Tree) :
    (items.foldl (fun (out : List Tree × Bool) (a : Listed) =>
      (out.1 ++ (if out.2 then [] else operator ",") ++ a.text ++ a.comma, !a.comma.isEmpty))
        (out, true)).1 = out ++ items.flatMap Listed.set := by
  induction h generalizing out with
  | nil => simp
  | last ha => simp [Listed.set]
  | more ha _ ih =>
    rw [List.foldl_cons]
    simp only [ha, List.isEmpty_cons, Bool.not_false, ih]
    simp [Listed.set, ha]

theorem commas_set {items : List Listed} (h : Punctuated items) :
    Commas (items.map (·.text)) (items.flatMap Listed.set) := by
  induction h with
  | nil => exact .nil
  | @last a ha => simpa [Listed.set, ha] using Commas.last a.text
  | @more a s items ha _ ih => simpa [Listed.set, ha] using Commas.more a.text false s ih

theorem commas_join {front more : List Listed} (hfront : Punctuated front) (hmore : Punctuated more) :
    Commas ((front ++ more).map (·.text)) (front.flatMap Listed.set ++
      (if front.all (!·.comma.isEmpty) || more.isEmpty then [] else operator ",") ++
      more.flatMap Listed.set) := by
  induction hfront with
  | nil => simpa using commas_set hmore
  | @last a ha =>
    cases more with
    | nil => simpa [Listed.set, ha] using Commas.last a.text
    | cons b more =>
      have h := Commas.more a.text false .callSite (commas_set hmore)
      simpa [Listed.set, ha, operator, operator.go] using h
  | @more a s items ha _ ih =>
    have h := Commas.more a.text false s ih
    simpa [Listed.set, ha] using h

/-- In an arrangement the first come before the others, and one comma stands between two. -/
theorem commas_arrange {items : List Listed} (h : Punctuated items) :
    Commas ((items.filter (·.first) ++ items.filter (!·.first)).map (·.text)) (arrange items) := by
  have hfront := h.filter (·.first)
  have hmore := h.filter (!·.first)
  have hjoin := commas_join hfront hmore
  unfold arrange
  dsimp only
  rw [foldl_front hfront, List.nil_append]
  generalize items.filter (·.first) = front at hfront hjoin
  generalize items.filter (!·.first) = more at hmore hjoin
  cases hcomma : front.all (!·.comma.isEmpty) with
  | true =>
    rw [foldl_more hmore]
    simpa [hcomma] using hjoin
  | false =>
    cases more with
    | nil => simpa using hjoin
    | cons b more =>
      -- The missing comma is put before the next item.
      have hnext := foldl_more hmore (front.flatMap Listed.set ++ operator ",")
      rw [List.foldl_cons] at hnext ⊢
      simp only [if_true, List.append_nil] at hnext
      simp only [Bool.false_eq_true, if_false]
      rw [hnext]
      simpa [hcomma] using hjoin

theorem Rule.Listing.punctuated {β : Type} {comma : β → List Tree}
    {P : List Tree → List Tree → β → Prop} {next ts : List Tree} {bs : List β}
    (h : Listing comma P next ts bs) {f : β → Listed} (hf : ∀ b, (f b).comma = comma b) :
    Punctuated (bs.map f) := by
  induction h with
  | nil => exact .nil
  | last _ hcomma => exact .last ((hf _).trans hcomma)
  | more _ hcomma _ ih => exact .more ((hf _).trans hcomma) ih

/-! ## Angle brackets -/

/-- A tree that cannot be part of an angle bracket or an arrow. -/
def isPlain : Tree → Bool
  | .punct c _ _ => c != '<' && c != '>' && c != '-'
  | _ => true

/-- Trees whose angle brackets match. That of an arrow is none. -/
inductive Matched : List Tree → Prop
  | nil : Matched []
  | plain {t ts} (ht : isPlain t = true) (h : Matched ts) : Matched (t :: ts)
  | arrow {s joint s' ts} (h : Matched ts) : Matched (.punct '-' true s :: .punct '>' joint s' :: ts)
  | minus {joint s text s' ts} (h : Matched ts) :
    Matched (.punct '-' joint s :: .literal text s' :: ts)
  | angles {joint s ts joint' s' us} (h : Matched ts) (h' : Matched us) :
    Matched (.punct '<' joint s :: ts ++ .punct '>' joint' s' :: us)

theorem Matched.append {ts us : List Tree} (h : Matched ts) (h' : Matched us) : Matched (ts ++ us) := by
  induction h with
  | nil => exact h'
  | plain ht _ ih => exact .plain ht ih
  | arrow _ ih => exact .arrow ih
  | minus _ ih => exact .minus ih
  | angles h _ _ ih =>
    rw [List.append_assoc]
    exact .angles h ih

theorem matched_of_plain {ts : List Tree} (h : ts.all isPlain = true) : Matched ts := by
  induction ts with
  | nil => exact .nil
  | cons t ts ih =>
    rw [List.all_cons, Bool.and_eq_true] at h
    exact .plain h.1 (ih h.2)

/-! ## Setting trees anew -/

/-- One of several things in a list: what stands in the source, what is written for it, and what comes
next in the source. -/
structure Piece where
  source : List Tree
  text : List Tree
  next : List Tree

/-- The pieces stand here, with commas between them and maybe after the last. -/
inductive Pieces (next : List Tree) : List Piece → List Tree → Prop
  | nil : Pieces next [] []
  | last {a} (ha : a.next = next) : Pieces next [a] a.source
  | more {a pieces ts joint s} (ha : a.next = .punct ',' joint s :: ts ++ next)
    (h : Pieces next pieces ts) : Pieces next (a :: pieces) (a.source ++ .punct ',' joint s :: ts)

/-- The texts of the pieces with commas: first of those that satisfy `p`, then of the others. -/
def Arranged (p : List Tree → Bool) (pieces : List Piece) (out : List Tree) : Prop :=
  Commas ((pieces.filter (p ·.source) ++ pieces.filter (!p ·.source)).map (·.text)) out

/-- A lifetime and nothing else. -/
def isLifetime : List Tree → Bool
  | [.punct '\'' true _, .ident _] => true
  | _ => false

/-- What stands after attributes. -/
def afterMarks : List Tree → List Tree
  | .punct '#' _ _ :: .group .bracket _ _ :: ts => afterMarks ts
  | ts => ts

/-- A lifetime stands first, or first after attributes. -/
def declaresLifetime (ts : List Tree) : Bool := startsLifetime (afterMarks ts)

/-- Nothing more can be said of what stands before a colon: it has no bounds. -/
def endsBounds (ts : List Tree) : Bool :=
  ts.isEmpty || startsOperator [','] ts || startsOperator ['>'] ts || startsOperator ['='] ts ||
    startsOperator [';'] ts || startsGroup .brace ts || startsWord "where" ts

/-- No condition stands here. -/
def endsConditions (ts : List Tree) : Bool :=
  ts.isEmpty || startsGroup .brace ts || startsOperator [','] ts || startsOperator [';'] ts ||
    startsOperator ['='] ts || startsOperator [':'] ts && !startsOperator [':', ':'] ts

/-- An operand or a pattern stands here, maybe after attributes, that is kept as it stood. -/
def startsKept (ts : List Tree) : Bool :=
  let ts := afterMarks ts
  startsWord "become" ts || startsWord "box" ts ||
    startsWord "builtin" ts && startsOperator ['#'] (skip 1 ts)

/-- `pub`, maybe with a scope in parentheses. -/
def isVisibility : List Tree → Bool
  | [.ident i] | [.ident i, .group .paren _ _] => i.isWord "pub"
  | _ => false

def endsInPoint (text : String) : Bool := text.toList.getLast? == some '.'

/-- What stands between the points of a text, and after the last of them if it does not end in one. -/
def pointed (text : String) : List String :=
  let parts := text.toList.splitOn '.'
  (if endsInPoint text then parts.dropLast else parts).map String.ofList

/-- Numbers that name fields after a point, written in decimal. Several may be read as one, with points
in it. -/
inductive Numbered : List Tree → List Tree → Prop
  | one {text n} (s : Span) (htext : Denotes text n) :
    Numbered [.literal text s] [.literal (toString n) s]
  | several {text} {ns : List Nat} (s : Span) (htext : List.Forall₂ Denotes (pointed text) ns) :
    Numbered [.literal text s]
      ((ns.map fun n => .literal (toString n) s).intersperse (.punct '.' false s) ++
        if endsInPoint text then operator "." else [])
  | more {ts out ts' out'} (h : Numbered ts out) (h' : Numbered ts' out') :
    Numbered (ts ++ ts') (out ++ out')

/-- Where trees stand: in a type, or in the code that a type can hold. -/
inductive Place where
  | type
  | code

/-- A colon stands here that is no part of `::`. -/
def loneColon (ts : List Tree) : Bool := startsOperator [':'] ts && !startsOperator [':', ':'] ts

/-- Here the character ends an operator. In a type `::`, `->` and `...` are always read whole. -/
def endsOperator : Place → Char → List Tree → Bool
  | .type, ':', next => !loneColon next
  | .type, '-', next => !startsOperator ['>'] next
  | .type, c, _ => c != '.' && c != '\''
  | .code, c, _ => c != '\''

theorem endsOperator_of {place : Place} {c : Char} {next : List Tree}
    (hc : c ≠ ':' ∧ c ≠ '-' ∧ c ≠ '.' ∧ c ≠ '\'') : endsOperator place c next = true := by
  obtain ⟨hcolon, hminus, hpoint, hquote⟩ := hc
  cases place with
  | type => simp [endsOperator, hpoint, hquote]
  | code => simp [endsOperator, hquote]

theorem endsOperator_colon {place : Place} {next : List Tree} (h : loneColon next = false) :
    endsOperator place ':' next = true := by
  cases place with
  | type => simp [endsOperator, h]
  | code => rfl

/-- What trees in front of others may become when they are written again: `Reset place next ts out`.
In a type an operator is spaced from what follows it, lifetimes come before the other generic
arguments, and three things are left out: the `::` before arguments in parentheses, a colon without
bounds, and one of two pairs of parentheses around a bound with `?`. Everything else stays, also in the
groups. -/
inductive Reset : Place → List Tree → List Tree → List Tree → Prop
  | same {place next} (ts : List Tree) : Reset place next ts ts
  | append {place next ts out ts' out'} (h : Reset place (ts' ++ next) ts out)
    (h' : Reset place next ts' out') : Reset place next (ts ++ ts') (out ++ out')
  | spacing {place next} (c : Char) (joint : Bool) (s : Span) (hc : endsOperator place c next = true) :
    Reset place next [.punct c joint s] [.punct c false s]
  | operator {place next front c joint s} (o : String) (ho : o ∈ ["::", "->", "..."])
    (hlength : o.toList.length = front.length + 1)
    (hstarts : startsOperator o.toList (front ++ [.punct c joint s]) = true) :
    Reset place next (front ++ [.punct c joint s]) (front ++ [.punct c false s])
  | group {place next content out} (d : Delimiter) (s : Span) (h : Reset place [] content out) :
    Reset place next [.group d content s] [.group d out s]
  | arguments {place next pieces ts out} {joint joint' : Bool} {s s' : Span}
    (h : ∀ a ∈ pieces, Reset place a.next a.source a.text) (hmatched : ∀ a ∈ pieces, Matched a.source)
    (hts : Pieces (.punct '>' joint' s' :: next) pieces ts) (hout : Arranged isLifetime pieces out) :
    Reset place next (.punct '<' joint s :: ts ++ [.punct '>' joint' s'])
      (.punct '<' false s :: out ++ [.punct '>' false s'])
  | apart {place next} (s : Span) (joint : Bool) (s' : Span) (hnext : startsGroup .paren next = true) :
    Reset place next [.punct ':' true s, .punct ':' joint s'] []
  | colon {place next} (joint : Bool) (s : Span) (hnext : endsBounds next = true) :
    Reset place next [.punct ':' joint s] []
  | parens {place next content out} (s s' : Span) (hcontent : startsOperator ['?'] content = true)
    (hnext : startsOperator ['+'] next = true) (h : Reset place [] content out) :
    Reset place next [.group .paren [.group .paren content s] s'] [.group .paren out s]
  -- A type holds code in the length of an array, in a block and in an attribute.
  | array {place next element element' length length'} (joint : Bool) (s s' : Span)
    (h : Reset place (.punct ';' joint s :: length) element element')
    (h' : Reset .code [] length length') :
    Reset place next [.group .bracket (element ++ .punct ';' joint s :: length) s']
      [.group .bracket (element' ++ .punct ';' false s :: length') s']
  | block {place next content out} (s : Span) (h : Reset .code [] content out) :
    Reset place next [.group .brace content s] [.group .brace out s]
  | attribute {place next content out} (joint : Bool) (s s' : Span) (h : Reset .code [] content out) :
    Reset place next [.punct '#' joint s, .group .bracket content s']
      [.punct '#' false s, .group .bracket out s']
  -- In code, what an item declares: lifetimes come first, and empty lists are left out.
  | parameters {next pieces ts out} {joint joint' : Bool} {s s' : Span}
    (h : ∀ a ∈ pieces, Reset .code a.next a.source a.text) (hmatched : ∀ a ∈ pieces, Matched a.source)
    (hts : Pieces (.punct '>' joint' s' :: next) pieces ts)
    (hout : Arranged declaresLifetime pieces out) :
    Reset .code next (.punct '<' joint s :: ts ++ [.punct '>' joint' s'])
      (.punct '<' false s :: out ++ [.punct '>' false s'])
  | noParameters {next} (joint joint' : Bool) (s s' : Span) :
    Reset .code next [.punct '<' joint s, .punct '>' joint' s'] []
  | noConditions {next k} (hk : k.isWord "where" = true) (hnext : endsConditions next = true) :
    Reset .code next [.ident k] []
  /-- The visibility of a variant. -/
  | visibility {next ts} (hts : isVisibility ts = true) (hnext : startsName next = true) :
    Reset .code next ts []
  /-- An argument of a function without a pattern. -/
  | unnamed {next} (hname : startsName next = true) (hnext : startsOperator ['<'] (skip 1 next) = true) :
    Reset .code next [] (word "_" :: operator ":")
  -- In code, expressions and patterns.
  | mark {next} (joint : Bool) (s : Span) (content : List Tree) (s' : Span)
    (hnext : startsKept next = true) :
    Reset .code next [.punct '#' joint s, .group .bracket content s'] []
  /-- A range after attributes. -/
  | range {next marks marks' ts out} (hmarks : startsOperator ['#'] marks = true)
    (h : Reset .code (ts ++ next) marks marks') (h' : Reset .code next ts out) :
    Reset .code next (marks ++ ts) (marks' ++ [Source.group .paren out])
  /-- A number that names a field, before a colon. -/
  | key {next text n} (s : Span) (htext : Denotes text n)
    (hnext : startsOperator [':'] next = true) :
    Reset .code next [.literal text s] [.literal (toString n) s]
  /-- Numbers that name fields, after a point. -/
  | member {next ts out} (joint : Bool) (s : Span) (h : Numbered ts out) :
    Reset .code next (.punct '.' joint s :: ts) (.punct '.' false s :: out)
  /-- `...` between the ends of a range. -/
  | limits {next} (s s' s'' : Span) (joint : Bool)
    (hnext : (next.isEmpty || startsOperator [','] next) = false) :
    Reset .code next [.punct '.' true s, .punct '.' true s', .punct '.' joint s''] (operator "..=")

/-- Attributes, one after the other, set anew. -/
inductive Marks : List Tree → List Tree → Prop
  | nil : Marks [] []
  | more {content content' ts out} (joint : Bool) (s s' : Span) (h : Reset .code [] content content')
    (hts : Marks ts out) : Marks (.punct '#' joint s :: .group .bracket content s' :: ts)
      (.punct '#' false s :: .group .bracket content' s' :: out)

theorem Marks.reset {ts out : List Tree} (h : Marks ts out) (place : Place) (next : List Tree) :
    Reset place next ts out := by
  induction h with
  | nil => exact .same []
  | more joint s s' h _ ih => exact .append (.attribute joint s s' h) ih

theorem Marks.matched {ts out : List Tree} (h : Marks ts out) : Matched ts := by
  induction h with
  | nil => exact .nil
  | more _ _ _ _ _ ih => exact .plain rfl (.plain rfl ih)

theorem Marks.afterMarks_append {ts out : List Tree} (h : Marks ts out) (us : List Tree) :
    afterMarks (ts ++ us) = afterMarks us := by
  induction h with
  | nil => rfl
  | more joint s s' _ _ ih => exact ih

theorem Marks.omitted {ts out next : List Tree} (h : Marks ts out) (hnext : startsKept next = true) :
    Reset .code next ts [] := by
  induction h with
  | nil => exact .same []
  | @more content content' ts out joint s s' _ hts ih =>
    have hkept : startsKept (ts ++ next) = true := by
      unfold startsKept
      rw [hts.afterMarks_append]
      exact hnext
    have hmark : Reset .code (ts ++ next) [.punct '#' joint s, .group .bracket content s'] [] :=
      .mark joint s content s' hkept
    exact hmark.append ih

theorem Rule.Listing.reset {β : Type} {comma : β → List Tree} {P : List Tree → List Tree → β → Prop}
    {next ts : List Tree} {bs : List β} (h : Listing comma P next ts bs) {place : Place}
    {text : β → List Tree}
    (hP : ∀ {next piece b}, P next piece b → Reset place next piece (text b)) :
    Reset place next ts (bs.flatMap fun b => text b ++ comma b) := by
  induction h with
  | nil => exact .same []
  | last hb hcomma => simpa [hcomma] using hP hb
  | @more piece b joint s ts bs hb hcomma _ ih =>
    have hmark : Reset place (ts ++ next) [.punct ',' joint s] [.punct ',' false s] :=
      .spacing ',' joint s (endsOperator_of (by decide))
    simpa [hcomma] using (hP hb).append (hmark.append ih)

/-- What is listed is arranged by what stands in the source. -/
theorem Rule.Listing.arranged {β : Type} {comma : β → List Tree}
    {P : List Tree → List Tree → β → Prop} {next ts : List Tree} {bs : List β}
    (h : Listing comma P next ts bs) {place : Place} {p : List Tree → Bool} {f : β → Listed}
    (hf : ∀ b, (f b).comma = comma b) (hP : ∀ {next piece b}, P next piece b →
      Reset place next piece (f b).text ∧ Matched piece ∧ (f b).first = p piece) :
    ∃ pieces, (∀ a ∈ pieces, Reset place a.next a.source a.text) ∧ (∀ a ∈ pieces, Matched a.source) ∧
      Pieces next pieces ts ∧ Arranged p pieces (arrange (bs.map f)) := by
  obtain ⟨pieces, hreset, hmatched, hts, hmap⟩ : ∃ pieces : List Piece,
      (∀ a ∈ pieces, Reset place a.next a.source a.text) ∧ (∀ a ∈ pieces, Matched a.source) ∧
      Pieces next pieces ts ∧
      pieces.map (fun a => (p a.source, a.text)) =
        (bs.map f).map fun a => (a.first, a.text) := by
    clear hf
    induction h with
    | nil => exact ⟨[], by simp, by simp, .nil, rfl⟩
    | @last piece b hb _ =>
      obtain ⟨hreset, hmatched, hfirst⟩ := hP hb
      exact ⟨[⟨piece, (f b).text, next⟩], by simpa using hreset, by simpa using hmatched, .last rfl,
        by simp [hfirst]⟩
    | @more piece b joint s ts bs hb _ _ ih =>
      obtain ⟨hreset, hmatched, hfirst⟩ := hP hb
      obtain ⟨pieces, hpieces, hmatched', hts, hmap⟩ := ih
      exact ⟨⟨piece, (f b).text, .punct ',' joint s :: ts ++ next⟩ :: pieces,
        List.forall_mem_cons.2 ⟨hreset, hpieces⟩, List.forall_mem_cons.2 ⟨hmatched, hmatched'⟩,
        .more rfl hts, by simp [hfirst, hmap]⟩
  refine ⟨pieces, hreset, hmatched, hts, ?_⟩
  have htexts (q : Bool → Bool) : (pieces.filter fun a => q (p a.source)).map (·.text) =
      ((bs.map f).filter fun a => q a.first).map (·.text) := by
    have h := congrArg (fun qs => (qs.filter fun a => q a.1).map (·.2)) hmap
    simpa [List.filter_map, Function.comp_def] using h
  have hout := commas_arrange (h.punctuated hf)
  have hfront := htexts id
  have hmore := htexts (!·)
  simp only [id] at hfront
  unfold Arranged
  rw [List.map_append] at hout ⊢
  rwa [hfront, hmore]

end FetchKit.Grammar
