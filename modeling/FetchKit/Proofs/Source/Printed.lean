import FetchKit.Proofs.Source.Word
import FetchKit.Proofs.Text.Quoted
import FetchKit.Source.Print
import Mathlib.Data.Nat.Digits.Defs

/-!
# Printed trees are scanned as the same trees

Each tree that is printed is read back whatever is printed after it, as long as that does not go on
with a word or a literal. Only the places of the trees, and which punctuation characters touch, can
differ.
-/

namespace FetchKit.Source

open FetchKit.Text

/-! ## Quoted texts -/

theorem scanQuoted_digit {value count d : Nat} (hd : d < 16) (hcount : count < 6) (cs : List Char) :
    scanQuoted .text (.digits value count) (d.digitChar :: cs) =
      (scanQuoted .text (.digits (16 * value + d) (count + 1)) cs).map
        (Split.after [d.digitChar]) := by
  obtain ⟨hbrace, hlow⟩ := digitChar_ne hd
  have hne : count ≠ 6 := Nat.ne_of_lt hcount
  simp [scanQuoted, Quoting.closes, Quoting.step, hbrace, hlow, hexValue_digitChar hd, hne]

theorem Split.after_after (a b : List Char) (s : Split) :
    Split.after a (Split.after b s) = Split.after (a ++ b) s := by
  simp [Split.after]

theorem map_after_after (a b : List Char) (s : Option Split) :
    (s.map (Split.after b)).map (Split.after a) = s.map (Split.after (a ++ b)) := by
  cases s with
  | none => rfl
  | some s => simp [Split.after_after]

theorem scanQuoted_hexDigits {n e : Nat} (he : e < 6) (hn : n < 16 ^ (e + 1)) (cs : List Char) :
    scanQuoted .text (.digits 0 0) (hexDigits n ++ cs) =
      (scanQuoted .text (.digits n (hexDigits n).length) cs).map (Split.after (hexDigits n)) := by
  induction n using Nat.strongRecOn generalizing e cs with
  | ind n ih =>
    unfold hexDigits at ih ⊢
    rw [Nat.toDigits_eq_if (by decide)]
    split
    · next hlt =>
      rw [List.singleton_append, scanQuoted_digit hlt (by decide), Nat.mul_zero, Nat.zero_add]
      rfl
    · next hge =>
      obtain ⟨k, rfl⟩ : ∃ k, e = k + 1 := by
        cases e with
        | zero => omega
        | succ k => exact ⟨k, rfl⟩
      have hdiv : n / 16 < 16 ^ (k + 1) := by
        rw [Nat.div_lt_iff_lt_mul (by decide), ← Nat.pow_succ]
        exact hn
      have hlength := Nat.toDigits_length 16 (n / 16) (k + 1) (by omega) hdiv
      rw [List.append_assoc, ih (n / 16) (by omega) (by omega) hdiv, List.singleton_append,
        scanQuoted_digit (Nat.mod_lt n (by decide)) (by omega), map_after_after, Nat.div_add_mod,
        List.length_append, List.length_singleton]

theorem toNat_lt (c : Char) : c.toNat < 16 ^ 6 := by
  have hvalid : c.toNat < 0xD800 ∨ 0xDFFF < c.toNat ∧ c.toNat < 0x110000 := c.valid
  omega

theorem scanQuoted_escapeChar (c : Char) (cs : List Char) :
    scanQuoted .text .plain (escapeChar c ++ cs) =
      (scanQuoted .text .plain cs).map (Split.after (escapeChar c)) := by
  have hpair : ∀ d, Quoting.ofEscape .text d = some .plain →
      scanQuoted .text .plain (['\\', d] ++ cs) =
        (scanQuoted .text .plain cs).map (Split.after ['\\', d]) := by
    intro d hd
    simp [scanQuoted, Quoting.closes, Quoting.step, Quoting.ofPlain, hd, Function.comp_def,
      Split.after_after]
  unfold escapeChar
  split
  · exact hpair 't' rfl
  split
  · exact hpair 'r' rfl
  split
  · exact hpair 'n' rfl
  split
  · exact hpair '\\' rfl
  split
  · exact hpair '"' rfl
  split
  · next htab hcr hnl hback hquote hplain =>
    simp [scanQuoted, Quoting.step, Quoting.ofPlain, hcr, hback, hquote]
  · have hdigits := scanQuoted_hexDigits (by decide) (toNat_lt c) ('}' :: cs)
    have hcount : (hexDigits c.toNat).length ≠ 0 := by simp [hexDigits]
    have hclose : scanQuoted .text (.digits c.toNat (hexDigits c.toNat).length) ('}' :: cs) =
        (scanQuoted .text .plain cs).map (Split.after ['}']) := by
      simp [scanQuoted, Quoting.closes, Quoting.step, hcount, scalar?_toNat]
    rw [hclose, map_after_after] at hdigits
    have hopen : ∀ ds, scanQuoted .text .plain ('\\' :: 'u' :: '{' :: ds) =
        (scanQuoted .text (.digits 0 0) ds).map (Split.after ['\\', 'u', '{']) := by
      intro ds
      simp [scanQuoted, Quoting.closes, Quoting.step, Quoting.ofPlain, Quoting.ofEscape,
        Function.comp_def, Split.after_after]
    simp only [List.cons_append, List.append_assoc, List.nil_append]
    rw [hopen, hdigits, map_after_after]
    rfl

theorem scanQuoted_nul (cs : List Char) :
    scanQuoted .text .plain (['\\', '0'] ++ cs) =
        (scanQuoted .text .plain cs).map (Split.after ['\\', '0']) ∧
      scanQuoted .text .plain (['\\', 'x', '0', '0'] ++ cs) =
        (scanQuoted .text .plain cs).map (Split.after ['\\', 'x', '0', '0']) := by
  constructor
  · cases hs : scanQuoted .text .plain cs <;>
      simp [scanQuoted, Quoting.closes, Quoting.step, Quoting.ofPlain, Quoting.ofEscape, hs,
        Split.after]
  · have hzero : hexValue '0' = some 0 := by decide
    cases hs : scanQuoted .text .plain cs <;>
      simp [scanQuoted, Quoting.closes, Quoting.step, Quoting.ofPlain, Quoting.ofEscape, hs, hzero,
        Split.after]

theorem scanQuoted_escape (s tail : List Char) :
    scanQuoted .text .plain (escape s ++ '"' :: tail) = some (escape s ++ ['"'], tail) := by
  induction s with
  | nil => simp [escape, scanQuoted, Quoting.closes]
  | cons c cs ih =>
    unfold escape
    rw [List.append_assoc]
    split
    · split
      · split
        · rw [(scanQuoted_nul _).2, ih]
          simp [Split.after]
        · rw [(scanQuoted_nul _).1, ih]
          simp [Split.after]
      · rw [(scanQuoted_nul _).1, ih]
        simp [Split.after]
    · rw [scanQuoted_escapeChar, ih]
      simp [Split.after]

/-! ## One lexeme at a time -/

/-- What is printed after a tree that is not joint starts with one of these, or is empty. -/
def afterTree : List Char := [' ', ')', ']']

def EndsTree (tail : List Char) : Prop := ∀ d ∈ tail.head?, d ∈ afterTree

theorem endsTree_nil : EndsTree [] := by
  intro d hd
  cases hd

theorem EndsTree.endsWord {tail : List Char} (h : EndsTree tail) : EndsWord tail := by
  have hall : ∀ d ∈ afterTree, isWordPart d = false ∧ d ∉ openingMarks :=
    forall_mem_of_all (by decide)
  intro d hd
  exact hall d (h d hd)

theorem EndsTree.scanWord_eq {tail : List Char} (h : EndsTree tail) : scanWord tail = none := by
  have hall : ∀ d ∈ afterTree, isWordStart d = false := forall_mem_of_all (by decide)
  cases tail with
  | nil => rfl
  | cons d ds => simp [scanWord, hall d (h d rfl)]

theorem scanLexeme_quote (s : String) {tail : List Char} (htail : EndsTree tail) (p : Position) :
    scanLexeme p ((quote s).toList ++ tail) =
      some ([.leaf (.literal (quote s) ⟨p, p.advance (quote s).toList⟩)],
        (quote s).toList, tail) := by
  have htext : (quote s).toList = '"' :: (escape s.toList ++ ['"']) := by simp [quote]
  have hliteral : scanLiteral ('"' :: (escape s.toList ++ '"' :: tail)) =
      some ((quote s).toList, tail) := by
    rw [scanLiteral, scanOpened, scanQuoted_escape]
    simp [Split.after, withSuffix, htail.scanWord_eq, htext]
  have hsplit : (quote s).toList ++ tail = '"' :: (escape s.toList ++ '"' :: tail) := by
    simp [htext]
  rw [hsplit, scanLexeme_leaf (by decide) (by decide) rfl rfl, scanLeaf, hliteral]
  simp

/-- Punctuation that needs no look at what follows: neither a quote nor a slash. -/
def freePunctuation : List Char := "~!@#$%^&*-=+|;:,<.>?".toList

theorem scanLexeme_punct {c : Char} (hc : c ∈ freePunctuation) (tail : List Char) (p : Position) :
    ∃ joint, scanLexeme p (c :: tail) =
      some ([.leaf (.punct c joint ⟨p, p.advance [c]⟩)], [c], tail) := by
  have hall : ∀ c ∈ freePunctuation, droppedTable.has c = false ∧ c ≠ '/' ∧
      openDelimiter? c = none ∧ closeDelimiter? c = none ∧ c ≠ '\'' ∧ c ∈ punctuation ∧
      isDigit c = false ∧ hexValue c = none ∧ c ∉ ['_', '"', 'r', 'b', 'c', '0'] :=
    forall_mem_of_all (by decide)
  obtain ⟨hblank, hslash, hopen, hclose, hsingle, hpunct, hdigit, hhex, hstart⟩ := hall c hc
  simp only [List.mem_cons, List.not_mem_nil, or_false, not_or] at hstart
  have hliteral : scanLiteral (c :: tail) = none := by
    have hopened : scanOpened (c :: tail) = none := by
      unfold scanOpened
      split <;> simp_all
    have hfloat : scanFloat (c :: tail) = none := by simp [scanFloat, hdigit]
    have hbased : scanBased 10 [] (c :: tail) = none := by
      simp [scanBased, scanDigits, hhex, hstart]
    have hint : scanInt (c :: tail) = none := by
      unfold scanInt
      split <;> simp_all
    simp [scanLiteral, hopened, hfloat, hint]
  have hchar : punctChar? (c :: tail) = some (c, tail) := by
    simp [punctChar?, startsWith, stripLead, hslash.symm, hpunct]
  refine ⟨(punctChar? tail).isSome, ?_⟩
  rw [scanLexeme_leaf hblank hslash hopen hclose, scanLeaf, hliteral]
  simp [scanPunct, hchar, hsingle]

theorem scanLexeme_raw {name : String} (hword : IsWordText name.toList) (hraw : name ∉ neverRaw)
    {tail : List Char} (htail : EndsWord tail) (p : Position) :
    scanLexeme p ('r' :: '#' :: name.toList ++ tail) =
      some ([.leaf (.ident ⟨name, true, ⟨p, p.advance ('r' :: '#' :: name.toList)⟩⟩)],
        'r' :: '#' :: name.toList, tail) := by
  -- A letter follows the mark of a raw word, so it opens no raw text.
  obtain ⟨c, rest, hname, hc, hrest⟩ := hword
  have hr : isWordStart 'r' = true := by decide
  have hquote := ne_of_isWordStart (d := '"') hc (by decide)
  have hmark := ne_of_isWordStart (d := '#') hc (by decide)
  have hnumber : scanFloat ('r' :: '#' :: (c :: (rest ++ tail))) = none ∧
      scanInt ('r' :: '#' :: (c :: (rest ++ tail))) = none := scanNumber_word hr
  have hliteral : scanLiteral ('r' :: '#' :: (c :: (rest ++ tail))) = none := by
    simp [scanLiteral, scanOpened, scanRaw, hquote, hmark, hnumber]
  have hleads : literalLeads.any (startsWith · ('r' :: '#' :: (c :: (rest ++ tail)))) = false := by
    simp [literalLeads, startsWith, stripLead, hquote.symm, hmark.symm]
  have hident : scanIdent ('r' :: '#' :: (c :: (rest ++ tail))) =
      some (name, true, 'r' :: '#' :: c :: rest, tail) := by
    have hofList : String.ofList (c :: rest) = name := by rw [← hname, String.ofList_toList]
    simp [scanIdent, hleads, scanAnyWord, scanWord_word hc hrest htail, hofList, hraw, Split.after]
  rw [hname, List.cons_append, List.cons_append, List.cons_append,
    scanLexeme_leaf (by decide) (by decide) rfl rfl, scanLeaf, hliteral,
    scanPunct_word hr, hident]
  simp

theorem scanLexeme_ident {i : Ident} (h : IsSpelled i) {tail : List Char} (htail : EndsWord tail)
    (p : Position) : ∃ span, scanLexeme p (i.text.toList ++ tail) =
      some ([.leaf (.ident { i with span })], i.text.toList, tail) := by
  obtain ⟨hword, hraw⟩ := h
  cases hi : i.raw with
  | true =>
    have htext : i.text.toList = 'r' :: '#' :: i.name.toList := by simp [Ident.text, hi]
    have hlexeme := scanLexeme_raw hword (hraw hi) htail p
    exact ⟨_, by rw [htext, hlexeme, ← hi]⟩
  | false =>
    have htext : i.text.toList = i.name.toList := by simp [Ident.text, hi]
    obtain ⟨c, rest, hname, hc, hrest⟩ := hword
    have hlexeme := scanLexeme_word hc hrest htail p
    rw [← hname, String.ofList_toList] at hlexeme
    exact ⟨_, by rw [htext, hlexeme, ← hi]⟩

theorem scanLexeme_open {c : Char} {d : Delimiter} (hc : openDelimiter? c = some d)
    {tail : List Char} (htail : tail.head? ≠ some '/') (p : Position) :
    scanLexeme p (c :: tail) = some ([.opens d ⟨p, p.advance [c]⟩], [c], tail) := by
  have hmem : c ∈ ['(', '[', '{'] := by
    unfold openDelimiter? at hc
    split at hc <;> simp_all
  have hall : ∀ c ∈ ['(', '[', '{'], droppedTable.has c = false ∧ c ≠ '/' :=
    forall_mem_of_all (by decide)
  obtain ⟨hblank, hdoc⟩ := scanBlank_scanDoc (hall c hmem).1 (hall c hmem).2 tail
  have herror : startsWith errorLiteral (c :: tail) = false := by
    obtain ⟨more, hmore⟩ : ∃ more, errorLiteral = '(' :: '/' :: more := ⟨_, rfl⟩
    rw [startsWith, hmore]
    cases tail with
    | nil => simp [stripLead]
    | cons e es =>
      have hne : e ≠ '/' := by simpa using htail
      simp [stripLead, hne.symm]
  simp [scanLexeme, hblank, hdoc, hc, herror]

theorem scanLexeme_close {c : Char} {d : Delimiter} (hc : closeDelimiter? c = some d)
    (tail : List Char) (p : Position) :
    scanLexeme p (c :: tail) = some ([.closes d ⟨p, p.advance [c]⟩], [c], tail) := by
  have hmem : c ∈ [')', ']', '}'] := by
    unfold closeDelimiter? at hc
    split at hc <;> simp_all
  have hall : ∀ c ∈ [')', ']', '}'], droppedTable.has c = false ∧ c ≠ '/' ∧
      openDelimiter? c = none := forall_mem_of_all (by decide)
  obtain ⟨hdropped, hslash, hopen⟩ := hall c hmem
  obtain ⟨hblank, hdoc⟩ := scanBlank_scanDoc hdropped hslash tail
  simp [scanLexeme, hblank, hdoc, hc, hopen]

theorem scanLexeme_blank (tail : List Char) (p : Position) :
    scanLexeme p (' ' :: tail) = some ([], [' '], tail) := by
  have hblank : scanBlank (' ' :: tail) = some ([' '], tail) := by simp [scanBlank, isBlank_space]
  simp [scanLexeme, hblank]

/-! ## Trees without places and spacing -/

mutual

def looseTree : Tree → Tree
  | .ident i => .ident { i with span := .callSite }
  | .punct c _ _ => .punct c false .callSite
  | .literal text _ => .literal text .callSite
  | .group d content _ => .group d (looseTrees content) .callSite

/-- The trees without their places, and without which punctuation characters touch. -/
def looseTrees : List Tree → List Tree
  | [] => []
  | t :: ts => looseTree t :: looseTrees ts

end

theorem looseTrees_append (ts us : List Tree) :
    looseTrees (ts ++ us) = looseTrees ts ++ looseTrees us := by
  induction ts with
  | nil => rfl
  | cons t ts ih => simp [looseTrees, ih]

theorem looseTrees_eq_cons {us ts : List Tree} {t : Tree}
    (h : looseTrees us = looseTrees (t :: ts)) :
    ∃ v vs, us = v :: vs ∧ looseTree v = looseTree t ∧ looseTrees vs = looseTrees ts := by
  cases us with
  | nil => simp [looseTrees] at h
  | cons v vs =>
    simp only [looseTrees, List.cons.injEq] at h
    exact ⟨v, vs, rfl, h⟩

theorem looseTree_eq_ident {u : Tree} {i : Ident} (h : looseTree u = looseTree (.ident i)) :
    ∃ j, u = .ident j ∧ j.name = i.name ∧ j.raw = i.raw := by
  cases u <;> simp_all [looseTree]

theorem looseTree_eq_punct {u : Tree} {c : Char} {joint : Bool} {span : Span}
    (h : looseTree u = looseTree (.punct c joint span)) :
    ∃ joint' span', u = .punct c joint' span' := by
  cases u <;> simp_all [looseTree]

theorem looseTree_eq_literal {u : Tree} {text : String} {span : Span}
    (h : looseTree u = looseTree (.literal text span)) : ∃ span', u = .literal text span' := by
  cases u <;> simp_all [looseTree]

theorem looseTree_eq_group {u : Tree} {d : Delimiter} {content : List Tree} {span : Span}
    (h : looseTree u = looseTree (.group d content span)) :
    ∃ content' span', u = .group d content' span' ∧ looseTrees content' = looseTrees content := by
  cases u <;> simp_all [looseTree]

/-! ## Texts that are scanned apart from what follows -/

/-- Before `tail`, this text is scanned as these trees, and nothing of `tail` goes to them. Each
step of the scan takes a character at least. -/
def Rescans (text tail : List Char) (ts : List Tree) : Prop :=
  ∀ p, ∃ k ls us, k ≤ text.length ∧
    (∀ n, scanAll (n + k) p (text ++ tail) =
      (scanAll n (p.advance text) tail).map (ls ++ ·)) ∧
    (∀ frames trees more, nest frames trees (ls ++ more) = nest frames (us.reverse ++ trees) more) ∧
    looseTrees us = looseTrees ts

theorem scanAll_lexeme {p : Position} {text tail : List Char} {ls : List Lexeme}
    (hne : text ≠ []) (h : scanLexeme p (text ++ tail) = some (ls, text, tail)) (n : Nat) :
    scanAll (n + 1) p (text ++ tail) = (scanAll n (p.advance text) tail).map (ls ++ ·) := by
  cases htext : text ++ tail with
  | nil => simp_all
  | cons c cs =>
    rw [htext] at h
    simp [scanAll, h]

theorem Rescans.nil (tail : List Char) : Rescans [] tail [] := by
  intro p
  refine ⟨0, [], [], Nat.le_refl 0, fun n => ?_, fun _ _ _ => rfl, rfl⟩
  cases hs : scanAll n p tail <;> simp [hs]

theorem Rescans.append {a b tail : List Char} {ts us : List Tree} (ha : Rescans a (b ++ tail) ts)
    (hb : Rescans b tail us) : Rescans (a ++ b) tail (ts ++ us) := by
  intro p
  obtain ⟨k, ls, ts', hk, hscan, hnest, hts⟩ := ha p
  obtain ⟨k', ls', us', hk', hscan', hnest', hus⟩ := hb (p.advance a)
  refine ⟨k' + k, ls ++ ls', ts' ++ us', ?_, fun n => ?_, fun frames trees more => ?_, ?_⟩
  · rw [List.length_append]
    omega
  · rw [← Nat.add_assoc, List.append_assoc, hscan, hscan', Position.advance_append, Option.map_map]
    congr 1
    funext more
    simp
  · rw [List.append_assoc, hnest, hnest', List.reverse_append, List.append_assoc]
  · rw [looseTrees_append, looseTrees_append, hts, hus]

theorem Rescans.of_leaf {text tail : List Char} {t : Tree} (hne : text ≠ [])
    (h : ∀ p, ∃ u, scanLexeme p (text ++ tail) = some ([.leaf u], text, tail) ∧
      looseTree u = looseTree t) : Rescans text tail [t] := by
  intro p
  obtain ⟨u, hlexeme, hu⟩ := h p
  refine ⟨1, [.leaf u], [u], List.length_pos_iff.2 hne, scanAll_lexeme hne hlexeme, ?_, ?_⟩
  · intro frames trees more
    simp [nest]
  · simp [looseTrees, hu]

theorem Rescans.blank (tail : List Char) : Rescans [' '] tail [] := by
  intro p
  exact ⟨1, [], [], Nat.le_refl 1, scanAll_lexeme (by simp) (scanLexeme_blank tail p),
    fun _ _ _ => rfl, rfl⟩

theorem Rescans.group {c e : Char} {d : Delimiter} {text tail : List Char} {ts : List Tree}
    (hopen : openDelimiter? c = some d) (hclose : closeDelimiter? e = some d)
    (hslash : (text ++ e :: tail).head? ≠ some '/') (h : Rescans text (e :: tail) ts) (span : Span) :
    Rescans (c :: text ++ [e]) tail [.group d ts span] := by
  intro p
  obtain ⟨k, ls, us, hk, hscan, hnest, hus⟩ := h (p.advance [c])
  let q := (p.advance [c]).advance text
  have hfirst : ∀ n, scanAll (n + 1) p (c :: (text ++ e :: tail)) =
      (scanAll n (p.advance [c]) (text ++ e :: tail)).map ([.opens d ⟨p, p.advance [c]⟩] ++ ·) :=
    scanAll_lexeme (List.cons_ne_nil c []) (scanLexeme_open hopen hslash p)
  have hlast : ∀ n, scanAll (n + 1) q (e :: tail) =
      (scanAll n (q.advance [e]) tail).map ([.closes d ⟨q, q.advance [e]⟩] ++ ·) :=
    scanAll_lexeme (List.cons_ne_nil e []) (scanLexeme_close hclose tail q)
  refine ⟨1 + k + 1, .opens d ⟨p, p.advance [c]⟩ :: ls ++ [.closes d ⟨q, q.advance [e]⟩],
    [.group d us ⟨p, q.advance [e]⟩], ?_, fun n => ?_, fun frames trees more => ?_, ?_⟩
  · simp
    omega
  · have htext : c :: text ++ [e] ++ tail = c :: (text ++ e :: tail) := by simp
    have hplace : p.advance (c :: text ++ [e]) = q.advance [e] := by
      simp [q, Position.advance_append]
    rw [htext, hplace, ← Nat.add_assoc, ← Nat.add_assoc, hfirst, hscan, hlast, Option.map_map,
      Option.map_map]
    congr 1
    funext more
    simp
  · simp [nest, hnest]
  · simp [looseTrees, looseTree, hus]

/-! ## Trees that can be printed -/

mutual

/-- Every identifier in the tree can be written, no punctuation character depends on what follows
it, and the literals are quoted texts. -/
def Tree.Writable : Tree → Prop
  | .ident i => IsSpelled i
  | .punct c _ _ => c ∈ freePunctuation
  | .literal text _ => ∃ s, text = quote s
  | .group _ content _ => Writable content

def Writable : List Tree → Prop
  | [] => True
  | t :: ts => t.Writable ∧ Writable ts

end

theorem writable_append {ts us : List Tree} :
    Writable (ts ++ us) ↔ Writable ts ∧ Writable us := by
  induction ts with
  | nil => simp [Writable]
  | cons t ts ih => simp [Writable, ih, and_assoc]

theorem writable_operator {s : String} (h : s.toList.all freePunctuation.contains = true) :
    Writable (operator s) := by
  have h : ∀ c ∈ s.toList, c ∈ freePunctuation := by simpa using h
  unfold operator
  generalize s.toList = cs at h
  induction cs with
  | nil => trivial
  | cons c cs ih =>
    have hc := h c List.mem_cons_self
    have hcs := ih fun d hd => h d (List.mem_cons_of_mem c hd)
    cases cs with
    | nil => exact ⟨hc, trivial⟩
    | cons d ds => exact ⟨hc, hcs⟩

theorem word_writable {name : String} (h : IsWordText name.toList) : (word name).Writable :=
  ⟨h, fun hraw => by cases hraw⟩

theorem Tree.Writable.print_head {t : Tree} (h : t.Writable) :
    ∃ c cs, t.print = c :: cs ∧ c ≠ '/' ∧ c.toNat ≠ 0xFEFF := by
  cases t with
  | ident i =>
    obtain ⟨⟨c, rest, hname, hc, -⟩, -⟩ : IsSpelled i := h
    have hslash := ne_of_isWordStart (d := '/') hc (by decide)
    cases hraw : i.raw with
    | true => exact ⟨'r', '#' :: c :: rest, by simp [Tree.print, Ident.text, hraw, hname], by decide⟩
    | false =>
      exact ⟨c, rest, by simp [Tree.print, Ident.text, hraw, hname], hslash,
        (of_not_dropped (not_dropped_of_isWordStart hc)).2.2.2⟩
  | punct c joint span =>
    have hall : ∀ c ∈ freePunctuation, c ≠ '/' ∧ c.toNat ≠ 0xFEFF := forall_mem_of_all (by decide)
    exact ⟨c, [], by simp [Tree.print], hall c h⟩
  | literal text span =>
    obtain ⟨s, rfl⟩ : ∃ s, text = quote s := h
    exact ⟨'"', escape s.toList ++ ['"'], by simp [Tree.print, quote], by decide⟩
  | group d content span =>
    cases d with
    | paren => exact ⟨'(', _, by rw [Tree.print, Delimiter.opening]; rfl, by decide⟩
    | bracket => exact ⟨'[', _, by rw [Tree.print, Delimiter.opening]; rfl, by decide⟩
    | brace => exact ⟨'{', _, by rw [Tree.print, Delimiter.opening]; rfl, by decide⟩

theorem Writable.print_head {ts : List Tree} (h : Writable ts) :
    ∀ c ∈ (printTrees ts).head?, c ≠ '/' ∧ c.toNat ≠ 0xFEFF := by
  cases ts with
  | nil =>
    intro c hc
    cases hc
  | cons t ts =>
    obtain ⟨c, cs, hprint, hc⟩ := h.1.print_head
    intro d hd
    rw [printTrees, hprint, List.cons_append, List.head?_cons, Option.mem_some_iff] at hd
    exact hd ▸ hc

theorem rescans_punct {c : Char} (hc : c ∈ freePunctuation) (joint : Bool) (span : Span)
    (tail : List Char) : Rescans [c] tail [.punct c joint span] := by
  refine .of_leaf (List.cons_ne_nil c []) fun p => ?_
  obtain ⟨joint', hlexeme⟩ := scanLexeme_punct hc tail p
  exact ⟨_, hlexeme, rfl⟩

theorem rescans_group {d : Delimiter} {content : List Tree} (span : Span) (tail : List Char)
    (hcontent : Writable content)
    (h : ∀ tail, EndsTree tail → Rescans (printTrees content) tail content) :
    Rescans (Tree.group d content span).print tail [.group d content span] := by
  have hslash : ∀ c cs, c ≠ '/' → (printTrees content ++ c :: cs).head? ≠ some '/' := by
    intro c cs hc hhead
    cases hprint : printTrees content with
    | nil => simp_all
    | cons e es =>
      rw [hprint] at hhead
      exact (hcontent.print_head '/' (by simpa [hprint] using hhead)).1 rfl
  have hends : ∀ c cs, c ∈ afterTree → EndsTree (c :: cs) := by
    rintro c cs hc d hd
    cases hd
    exact hc
  cases d with
  | paren =>
    have hgroup := Rescans.group (c := '(') (e := ')') rfl rfl (hslash ')' tail (by decide))
      (h _ (hends ')' tail (by decide))) span
    simpa [Tree.print, Delimiter.opening, Delimiter.closing] using hgroup
  | bracket =>
    have hgroup := Rescans.group (c := '[') (e := ']') rfl rfl (hslash ']' tail (by decide))
      (h _ (hends ']' tail (by decide))) span
    simpa [Tree.print, Delimiter.opening, Delimiter.closing] using hgroup
  | brace =>
    cases content with
    | nil =>
      have hgroup := Rescans.group (c := '{') (e := '}') rfl rfl (by simp)
        (Rescans.blank ('}' :: tail)) span
      simpa [Tree.print, printTrees, Delimiter.opening, Delimiter.closing] using hgroup
    | cons t ts =>
      have hinner := (h (' ' :: '}' :: tail) (hends ' ' _ (by decide))).append
        (Rescans.blank ('}' :: tail))
      have hspaced := Rescans.append (a := [' ']) (Rescans.blank _) hinner
      have hgroup := Rescans.group (c := '{') (e := '}') rfl rfl (by simp) hspaced span
      simpa [Tree.print, Delimiter.opening, Delimiter.closing] using hgroup

mutual

theorem Tree.Writable.rescans : ∀ {t : Tree}, t.Writable → ∀ {tail : List Char}, EndsTree tail →
    Rescans t.print tail [t]
  | .ident i, h, tail, htail => by
    obtain ⟨c, cs, hprint, -⟩ := Tree.Writable.print_head (t := .ident i) h
    refine .of_leaf (by simp [hprint]) fun p => ?_
    obtain ⟨span, hlexeme⟩ := scanLexeme_ident h htail.endsWord p
    rw [Tree.print]
    exact ⟨_, hlexeme, rfl⟩
  | .punct c joint span, h, tail, _ => by
    simpa [Tree.print] using rescans_punct h joint span tail
  | .literal _ _, ⟨s, rfl⟩, tail, htail => by
    rw [Tree.print]
    exact .of_leaf (by simp [quote]) fun p => ⟨_, scanLexeme_quote s htail p, rfl⟩
  | .group d content span, h, tail, _ =>
    rescans_group span tail h fun _ => Writable.rescans h

theorem Writable.rescans : ∀ {ts : List Tree}, Writable ts → ∀ {tail : List Char}, EndsTree tail →
    Rescans (printTrees ts) tail ts
  | [], _, tail, _ => Rescans.nil tail
  | [t], h, tail, htail => by
    simpa [printTrees] using Tree.Writable.rescans h.1 htail
  | t :: u :: us, h, tail, htail => by
    have hmore := Writable.rescans h.2 htail
    rw [printTrees]
    cases hjoint : t.isJoint with
    | true =>
      obtain ⟨c, span, rfl⟩ : ∃ c span, t = .punct c true span := by
        cases t <;> simp_all [Tree.isJoint]
      simpa [Tree.print] using (rescans_punct h.1 true span _).append hmore
    | false =>
      have hspace : EndsTree (' ' :: (printTrees (u :: us) ++ tail)) := by
        rintro d hd
        cases hd
        decide
      have hfirst := Tree.Writable.rescans h.1 hspace
      simpa using hfirst.append (Rescans.append (a := [' ']) (Rescans.blank _) hmore)

end

/-- Printed trees are scanned as the same trees, but for their places and spacing. -/
theorem scan_textOf {ts : List Tree} (h : Writable ts) :
    ∃ us, scan (textOf ts) = some us ∧ looseTrees us = looseTrees ts := by
  have hmark : splitMark (printTrees ts) = ([], printTrees ts) := by
    have hhead := h.print_head
    cases hprint : printTrees ts with
    | nil => rfl
    | cons c cs => rw [splitMark, if_neg (hhead c (by simp [hprint])).2]
  obtain ⟨k, ls, us, hk, hscan, hnest, hus⟩ := h.rescans endsTree_nil Position.start
  refine ⟨us, ?_, hus⟩
  have hall := hscan ((printTrees ts).length - k)
  rw [Nat.sub_add_cancel hk, List.append_nil] at hall
  rw [scan, textOf, String.toList_ofList, hmark]
  have hdone := hnest [] [] []
  simp [nest] at hdone
  simp [hall, scanAll, hdone]

end FetchKit.Source
