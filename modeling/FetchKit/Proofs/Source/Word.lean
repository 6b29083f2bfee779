import FetchKit.Source.Scan
import Mathlib.Data.List.Basic
import Mathlib.Data.List.TakeWhile

/-!
# Words in source text

Every identifier that is read from a text is a word, and the text of a word is read as that word
alone.
-/

namespace FetchKit.Source

open FetchKit.Text

/-- A letter, and characters that may follow one. -/
def IsWordText (cs : List Char) : Prop :=
  ∃ c rest, cs = c :: rest ∧ isWordStart c = true ∧ ∀ d ∈ rest, isWordPart d = true

instance : DecidablePred IsWordText
  | [] => .isFalse (by simp [IsWordText])
  | c :: rest =>
    decidable_of_iff (isWordStart c = true ∧ rest.all isWordPart = true) (by simp [IsWordText])

/-! ## Characters -/

theorem forall_mem_of_all {α : Type} {P : α → Prop} [DecidablePred P] {as : List α}
    (h : as.all (P ·) = true) : ∀ a ∈ as, P a :=
  fun a ha => of_decide_eq_true (List.all_eq_true.1 h a ha)

theorem has_eq_false_of_disjoint {t u : CharTable}
    (h : ∀ r ∈ t, ∀ q ∈ u, r.2 < q.1 ∨ q.2 < r.1) {c : Char} (hc : t.has c = true) :
    u.has c = false := by
  simp only [CharTable.has, List.any_eq_true, Bool.and_eq_true, decide_eq_true_eq] at hc
  obtain ⟨r, hr, hlo, hhi⟩ := hc
  simp only [CharTable.has, List.any_eq_false, Bool.and_eq_true, decide_eq_true_eq, not_and]
  intro q hq hlo'
  have := h r hr q hq
  omega

/-- Characters that are dropped between two words, or at the front of a text. -/
def droppedTable : CharTable := blankTable ++ [(0x200E, 0x200F), (0xFEFF, 0xFEFF)]

theorem wordStartTable_disjoint :
    ∀ r ∈ wordStartTable, ∀ q ∈ droppedTable, r.2 < q.1 ∨ q.2 < r.1 := by
  decide +kernel

theorem le_toNat_of_isWordStart {c : Char} (hc : isWordStart c = true) : 65 ≤ c.toNat := by
  unfold isWordStart at hc
  split at hc
  · rw [Bool.or_eq_true, beq_iff_eq] at hc
    rcases hc with halpha | rfl
    · have hcases : (c.isUpper || c.isLower) = true := halpha
      rw [Bool.or_eq_true] at hcases
      rcases hcases with hupper | hlower
      · have hbounds : 'A'.val ≤ c.val ∧ c.val ≤ 'Z'.val := of_decide_eq_true hupper
        exact UInt32.le_iff_toNat_le.1 hbounds.1
      · have hbounds : (decide ('a'.val ≤ c.val) && decide (c.val ≤ 'z'.val)) = true := hlower
        rw [Bool.and_eq_true, decide_eq_true_eq] at hbounds
        exact Nat.le_trans (by decide) (UInt32.le_iff_toNat_le.1 hbounds.1)
    · decide
  · omega

theorem of_not_dropped {c : Char} (h : droppedTable.has c = false) :
    isBlank c = false ∧ c.toNat ≠ 0x200E ∧ c.toNat ≠ 0x200F ∧ c.toNat ≠ 0xFEFF := by
  rw [droppedTable, CharTable.has, List.any_append, Bool.or_eq_false_iff] at h
  refine ⟨h.1, ?_⟩
  have hmarks := h.2
  simp at hmarks
  omega

theorem not_dropped_of_isWordStart {c : Char} (hc : isWordStart c = true) :
    droppedTable.has c = false := by
  have hle := le_toNat_of_isWordStart hc
  unfold isWordStart at hc
  split at hc
  · simp [droppedTable, blankTable, CharTable.has]
    omega
  · exact has_eq_false_of_disjoint wordStartTable_disjoint hc

theorem ne_of_isWordStart {c d : Char} (hc : isWordStart c = true) (hd : isWordStart d = false) :
    c ≠ d := by
  rintro rfl
  simp [hc] at hd

theorem isDigit_of_isWordStart {c : Char} (hc : isWordStart c = true) : isDigit c = false := by
  have hle := le_toNat_of_isWordStart hc
  simp only [isDigit, Bool.and_eq_false_iff, decide_eq_false_iff_not, Char.le_def,
    UInt32.le_iff_toNat_le]
  refine .inr fun h => ?_
  have hnine : c.toNat ≤ 57 := h
  omega

/-! ## No word starts another lexeme -/

theorem scanBlank_scanDoc {c : Char} (hdropped : droppedTable.has c = false) (hslash : c ≠ '/')
    (cs : List Char) : scanBlank (c :: cs) = none ∧ scanDoc (c :: cs) = none := by
  obtain ⟨hspace, hleft, hright, -⟩ := of_not_dropped hdropped
  constructor
  · unfold scanBlank
    split
    · simp_all
    · simp_all
    · next h =>
      cases h
      simp [hspace, hleft, hright]
    · rfl
  · unfold scanDoc
    split <;> simp_all

theorem scanLexeme_leaf {c : Char} (hdropped : droppedTable.has c = false) (hslash : c ≠ '/')
    (hopen : openDelimiter? c = none) (hclose : closeDelimiter? c = none) (p : Position)
    (cs : List Char) :
    scanLexeme p (c :: cs) = (scanLeaf p (c :: cs)).map fun r => ([.leaf r.1], r.2) := by
  obtain ⟨hblank, hdoc⟩ := scanBlank_scanDoc hdropped hslash cs
  simp [scanLexeme, hblank, hdoc, hopen, hclose]

section

variable {c : Char} (hc : isWordStart c = true) {rest : List Char}
  (hrest : ∀ d ∈ rest, isWordPart d = true)
include hc

theorem scanPunct_word : scanPunct (c :: rest) = none := by
  have hslash := ne_of_isWordStart (d := '/') hc (by decide)
  have hpunct : c ∉ punctuation := by
    intro hmem
    have hnone : punctuation.all (!isWordStart ·) = true := by decide
    have hstart := List.all_eq_true.1 hnone c hmem
    simp [hc] at hstart
  have hchar : punctChar? (c :: rest) = none := by
    simp [punctChar?, startsWith, stripLead, hslash.symm, hpunct]
  rw [scanPunct, hchar]

theorem scanBased_word : scanBased 10 [] (c :: rest) = none := by
  have hdigit := isDigit_of_isWordStart hc
  unfold scanBased scanDigits
  by_cases hmark : c = '_'
  · -- A number has a digit, and none of base ten starts with a mark.
    subst hmark
    cases scanDigits 10 rest with
    | none => simp
    | some s => simp [Split.after]
  · have hlarge : ∀ d, hexValue c = some d → ¬d < 10 := by
      intro d hd hlt
      simp only [isDigit, Bool.and_eq_false_iff, decide_eq_false_iff_not] at hdigit
      unfold hexValue at hd
      split at hd
      · next h => exact hdigit.elim (· h.1) (· h.2)
      · split at hd
        · cases hd
          omega
        · split at hd
          · cases hd
            omega
          · cases hd
    cases hhex : hexValue c with
    | none => simp [hmark]
    | some d => simp [hmark, hlarge d hhex, hdigit]

theorem scanNumber_word : scanFloat (c :: rest) = none ∧ scanInt (c :: rest) = none := by
  have hdigit := isDigit_of_isWordStart hc
  have hzero := ne_of_isWordStart (d := '0') hc (by decide)
  have hbased : scanBased 10 [] (c :: rest) = none := scanBased_word hc
  constructor
  · simp [scanFloat, hdigit]
  · unfold scanInt
    split <;> simp_all

/-! ### What comes after a word -/

/-- Characters that no word has and that make it the opening of a literal. -/
def openingMarks : List Char := ['"', '\'', '#']

/-- What can come after a word: nothing that goes on with it or opens a literal. -/
def EndsWord (tail : List Char) : Prop :=
  ∀ d ∈ tail.head?, isWordPart d = false ∧ d ∉ openingMarks

variable {tail : List Char} (htail : EndsWord tail)

omit hc
include hrest htail

theorem head_not_mem_openingMarks : ∀ d ∈ (rest ++ tail).head?, d ∉ openingMarks := by
  intro d hd hmark
  cases rest with
  | nil => exact (htail d hd).2 hmark
  | cons e rest =>
    obtain rfl : e = d := by simpa using hd
    have hparts : ∀ e ∈ openingMarks, isWordPart e = false := forall_mem_of_all (by decide)
    simp [hparts e hmark] at hrest

theorem stripLead_parts {letters more : List Char} {mark : Char}
    (hletters : ∀ d ∈ letters, isWordPart d = true) (hmark : mark ∈ openingMarks) :
    stripLead (letters ++ mark :: more) (rest ++ tail) = none := by
  induction letters generalizing rest with
  | nil =>
    have hhead := head_not_mem_openingMarks hrest htail
    cases hall : rest ++ tail with
    | nil => rfl
    | cons d ds =>
      have hne : mark ≠ d := by
        rintro rfl
        exact hhead mark (by simp [hall]) hmark
      simp [stripLead, hne]
  | cons l letters ih =>
    cases rest with
    | nil =>
      cases tail with
      | nil => rfl
      | cons d ds =>
        have hne : l ≠ d := by
          rintro rfl
          have hend := (htail l rfl).1
          simp [hletters l List.mem_cons_self] at hend
        simp [stripLead, hne]
    | cons d rest =>
      have hmore := ih (fun e he => hrest e (List.mem_cons_of_mem d he))
        (fun e he => hletters e (List.mem_cons_of_mem l he))
      simp [stripLead, hmore]

theorem scanRaw_parts (f : Flavour) : scanRaw f (rest ++ tail) = none := by
  have hhead := head_not_mem_openingMarks hrest htail
  cases hall : rest ++ tail with
  | nil => rfl
  | cons d ds =>
    have hd := hhead d (by simp [hall])
    simp only [openingMarks, List.mem_cons, List.not_mem_nil, or_false, not_or] at hd
    simp [scanRaw, hd]

theorem literalLeads_parts :
    ∀ lead ∈ literalLeads, startsWith lead (c :: (rest ++ tail)) = false := by
  have hleads : ∀ lead ∈ literalLeads, ∃ l letters mark more, lead = l :: (letters ++ mark :: more) ∧
      (∀ d ∈ letters, isWordPart d = true) ∧ mark ∈ openingMarks := by
    have hall : literalLeads.all (fun lead => lead.head?.isSome &&
        (lead.tail.dropWhile isWordPart).head?.any openingMarks.contains) = true := by decide
    intro lead hlead
    have hlead := List.all_eq_true.1 hall lead hlead
    rw [Bool.and_eq_true, Option.isSome_iff_exists, Option.any_eq_true] at hlead
    obtain ⟨⟨l, hl⟩, mark, hmark, hopening⟩ := hlead
    have hopening := List.contains_iff_mem.1 hopening
    refine ⟨l, lead.tail.takeWhile isWordPart, mark, (lead.tail.dropWhile isWordPart).tail, ?_,
      fun d hd => List.mem_takeWhile_imp hd, hopening⟩
    rw [List.cons_head?_tail hmark, List.takeWhile_append_dropWhile, List.cons_head?_tail hl]
  intro lead hlead
  obtain ⟨l, letters, mark, more, rfl, hletters, hmark⟩ := hleads lead hlead
  have hstrip : stripLead (letters ++ mark :: more) (rest ++ tail) = none :=
    stripLead_parts hrest htail hletters hmark
  simp [startsWith, stripLead, hstrip]

theorem parts_of_cons {d : Char} {ds : List Char} (hd : isWordPart d = true)
    (h : rest ++ tail = d :: ds) : ∃ more, (∀ e ∈ more, isWordPart e = true) ∧ ds = more ++ tail := by
  cases rest with
  | nil =>
    have hend := (htail d (by simp [List.nil_append] at h; simp [h])).1
    simp [hd] at hend
  | cons e rest =>
    cases h
    exact ⟨rest, fun e he => hrest e (List.mem_cons_of_mem _ he), rfl⟩

include hc

theorem scanOpened_word : scanOpened (c :: (rest ++ tail)) = none := by
  have hhead := head_not_mem_openingMarks hrest htail
  unfold scanOpened
  split
  · next h =>
    cases h
    exact absurd hc (by decide)
  · next h =>
    cases h
    simp [scanRaw_parts hrest htail]
  · next h =>
    injection h with _ h
    exact absurd (hhead '"' (by simp [h])) (by decide)
  · next h =>
    injection h with _ h
    obtain ⟨more, hmore, rfl⟩ := parts_of_cons hrest htail (by decide) h
    simp [scanRaw_parts hmore htail]
  · next h =>
    injection h with _ h
    exact absurd (hhead '\'' (by simp [h])) (by decide)
  · next h =>
    injection h with _ h
    exact absurd (hhead '"' (by simp [h])) (by decide)
  · next h =>
    injection h with _ h
    obtain ⟨more, hmore, rfl⟩ := parts_of_cons hrest htail (by decide) h
    simp [scanRaw_parts hmore htail]
  · next h =>
    cases h
    exact absurd hc (by decide)
  · rfl

theorem scanLiteral_word : scanLiteral (c :: (rest ++ tail)) = none := by
  have hopened := scanOpened_word hc hrest htail
  obtain ⟨hfloat, hint⟩ : scanFloat (c :: (rest ++ tail)) = none ∧
      scanInt (c :: (rest ++ tail)) = none := scanNumber_word hc
  simp [scanLiteral, hopened, hfloat, hint]

omit hc in
theorem span_parts : (rest ++ tail).takeWhile isWordPart = rest ∧
    (rest ++ tail).dropWhile isWordPart = tail := by
  have hend : tail.takeWhile isWordPart = [] ∧ tail.dropWhile isWordPart = tail := by
    cases tail with
    | nil => exact ⟨rfl, rfl⟩
    | cons d ds =>
      have hd := (htail d rfl).1
      simp [hd]
  rw [List.takeWhile_append_of_pos hrest, List.dropWhile_append_of_pos hrest, hend.1, hend.2]
  exact ⟨List.append_nil rest, rfl⟩

theorem scanWord_word : scanWord (c :: (rest ++ tail)) = some (c :: rest, tail) := by
  obtain ⟨htake, hdrop⟩ := span_parts hrest htail
  simp [scanWord, hc, htake, hdrop]

theorem scanIdent_word : scanIdent (c :: (rest ++ tail)) =
    some (String.ofList (c :: rest), false, c :: rest, tail) := by
  have hhead := head_not_mem_openingMarks hrest htail
  have hleads : literalLeads.any (startsWith · (c :: (rest ++ tail))) = false := by
    simpa using literalLeads_parts hrest htail
  have hword : scanAnyWord (c :: (rest ++ tail)) =
      (scanWord (c :: (rest ++ tail))).map fun s => (String.ofList s.1, false, s) := by
    unfold scanAnyWord
    split
    · next h =>
      injection h with _ h
      exact absurd (hhead '#' (by simp [h])) (by decide)
    · rfl
  rw [scanIdent, hleads, hword, scanWord_word hc hrest htail]
  rfl

omit hrest htail in
theorem delimiters_word : openDelimiter? c = none ∧ closeDelimiter? c = none := by
  constructor
  · unfold openDelimiter?
    split <;> first | rfl | exact absurd hc (by decide)
  · unfold closeDelimiter?
    split <;> first | rfl | exact absurd hc (by decide)

theorem scanLexeme_word (p : Position) : scanLexeme p (c :: rest ++ tail) =
    some ([.leaf (.ident ⟨String.ofList (c :: rest), false, ⟨p, p.advance (c :: rest)⟩⟩)],
      c :: rest, tail) := by
  obtain ⟨hopen, hclose⟩ := delimiters_word hc
  have hslash := ne_of_isWordStart (d := '/') hc (by decide)
  rw [List.cons_append, scanLexeme_leaf (not_dropped_of_isWordStart hc) hslash hopen hclose]
  simp [scanLeaf, scanLiteral_word hc hrest htail, scanPunct_word hc, scanIdent_word hc hrest htail]

end

theorem endsWord_nil : EndsWord [] := by
  intro d hd
  cases hd

theorem scan_word {text : String} (h : IsWordText text.toList) :
    scan text =
      some [.ident ⟨text, false, ⟨Position.start, Position.start.advance text.toList⟩⟩] := by
  obtain ⟨c, rest, htext, hc, hrest⟩ := h
  have hmark : splitMark text.toList = ([], text.toList) := by
    rw [htext, splitMark, if_neg (of_not_dropped (not_dropped_of_isWordStart hc)).2.2.2]
  have hlexeme := scanLexeme_word hc hrest endsWord_nil Position.start
  rw [List.append_nil] at hlexeme
  have hlength : text.toList.length = rest.length + 1 := by simp [htext]
  have hall : scanAll text.toList.length Position.start text.toList =
      some [.leaf (.ident ⟨text, false, ⟨Position.start, Position.start.advance text.toList⟩⟩)] := by
    rw [hlength, htext, scanAll, hlexeme, ← htext, String.ofList_toList]
    · simp [scanAll]
    · simp
  rw [scan, hmark]
  simp [hall, nest]

/-! ## Identifiers are words -/

/-- An identifier that can be written: a word, and not one without a raw form where it is raw. -/
def IsSpelled (i : Ident) : Prop :=
  IsWordText i.name.toList ∧ (i.raw = true → i.name ∉ neverRaw)

theorem scanWord_isWordText {cs : List Char} {s : Split} (h : scanWord cs = some s) :
    IsWordText s.1 := by
  cases cs with
  | nil => simp [scanWord] at h
  | cons c cs =>
    simp only [scanWord] at h
    split at h
    · next hc =>
      cases h
      exact ⟨c, cs.takeWhile isWordPart, rfl, hc, fun d hd => List.mem_takeWhile_imp hd⟩
    · cases h

theorem scanIdent_isSpelled {cs : List Char} {name : String} {raw : Bool} {s : Split}
    (h : scanIdent cs = some (name, raw, s)) (span : Span) : IsSpelled ⟨name, raw, span⟩ := by
  unfold scanIdent at h
  split at h
  · cases h
  · unfold scanAnyWord at h
    split at h
    · split at h
      · next hword =>
        simp only at h
        split at h
        · cases h
        · next hraw =>
          cases h
          exact ⟨by simpa using scanWord_isWordText hword, fun _ hmem => hraw (by simpa using hmem)⟩
      · cases h
    · simp only [Option.map_eq_some_iff] at h
      obtain ⟨s, hword, h⟩ := h
      cases h
      exact ⟨by simpa using scanWord_isWordText hword, fun hraw => by cases hraw⟩

theorem nest_mem {frames : List Frame} {trees out : List Tree} {ls : List Lexeme}
    (h : nest frames trees ls = some out) {i : Ident} (hi : .ident i ∈ out) :
    .ident i ∈ trees ∨ (∃ f ∈ frames, .ident i ∈ f.before) ∨ .leaf (.ident i) ∈ ls := by
  -- A delimiter moves trees between the frames and the front, so both vary.
  induction ls generalizing frames trees with
  | nil =>
    cases frames with
    | nil =>
      simp only [nest, Option.some.injEq] at h
      rw [← h, List.mem_reverse] at hi
      exact .inl hi
    | cons f frames => simp [nest] at h
  | cons l ls ih =>
    cases l with
    | leaf t =>
      rcases ih (by simpa [nest] using h) with hmem | hmem | hmem
      · rcases List.mem_cons.1 hmem with rfl | hmem
        · exact .inr (.inr List.mem_cons_self)
        · exact .inl hmem
      · exact .inr (.inl hmem)
      · exact .inr (.inr (List.mem_cons_of_mem _ hmem))
    | opens d span =>
      rcases ih (by simpa [nest] using h) with hmem | ⟨f, hf, hmem⟩ | hmem
      · simp at hmem
      · rcases List.mem_cons.1 hf with rfl | hf
        · exact .inl hmem
        · exact .inr (.inl ⟨f, hf, hmem⟩)
      · exact .inr (.inr (List.mem_cons_of_mem _ hmem))
    | closes d span =>
      cases frames with
      | nil => simp [nest] at h
      | cons f frames =>
        simp only [nest] at h
        split at h
        · rcases ih h with hmem | ⟨f', hf', hmem⟩ | hmem
          · refine .inr (.inl ⟨f, List.mem_cons_self, ?_⟩)
            simpa using hmem
          · exact .inr (.inl ⟨f', List.mem_cons_of_mem _ hf', hmem⟩)
          · exact .inr (.inr (List.mem_cons_of_mem _ hmem))
        · cases h

theorem docTrees_ident {inner : Bool} {text : List Char} {span : Span} {i : Ident} :
    .ident i ∉ docTrees inner text span := by
  cases inner <;> simp [docTrees]

theorem scanLeaf_isSpelled {p : Position} {cs : List Char} {i : Ident} {s : Split}
    (h : scanLeaf p cs = some (.ident i, s)) : IsSpelled i := by
  unfold scanLeaf at h
  split at h
  · cases h
  · split at h
    · cases h
    · split at h
      · next hident =>
        cases h
        exact scanIdent_isSpelled hident _
      · split at h
        · cases h
        · cases h

theorem scanLexeme_isSpelled {p : Position} {cs : List Char} {found : List Lexeme} {s : Split}
    (h : scanLexeme p cs = some (found, s)) {i : Ident} (hi : .leaf (.ident i) ∈ found) :
    IsSpelled i := by
  have hleaf : ((scanLeaf p cs).map fun r => ([Lexeme.leaf r.1], r.2)) = some (found, s) →
      IsSpelled i := by
    intro h
    rw [Option.map_eq_some_iff] at h
    obtain ⟨r, hleaf, h⟩ := h
    cases h
    rw [List.mem_singleton, Lexeme.leaf.injEq] at hi
    exact scanLeaf_isSpelled (hleaf.trans (by rw [hi]))
  unfold scanLexeme at h
  split at h
  · cases h
    simp at hi
  · split at h
    · split at h
      · cases h
        simp [docTrees_ident] at hi
      · cases h
    · split at h
      · cases h
      · simp only at h
        split at h
        · split at h
          · exact hleaf h
          · cases h
            simp at hi
        · cases h
          simp at hi
        · exact hleaf h

theorem scanAll_isSpelled {n : Nat} {p : Position} {cs : List Char} {ls : List Lexeme}
    (h : scanAll n p cs = some ls) {i : Ident} (hi : .leaf (.ident i) ∈ ls) :
    IsSpelled i := by
  induction n generalizing p cs ls with
  | zero =>
    cases cs with
    | nil =>
      cases h
      simp at hi
    | cons c cs => cases h
  | succ n ih =>
    cases cs with
    | nil =>
      cases h
      simp at hi
    | cons c cs =>
      simp only [scanAll] at h
      split at h
      · next found taken rest hlexeme =>
        rw [Option.map_eq_some_iff] at h
        obtain ⟨more, hmore, rfl⟩ := h
        rcases List.mem_append.1 hi with hi | hi
        · exact scanLexeme_isSpelled hlexeme hi
        · exact ih hmore hi
      · cases h

/-- Every identifier of a text that is no part of a group can be written. -/
theorem scan_isSpelled {text : String} {ts : List Tree} (h : scan text = some ts) {i : Ident}
    (hi : .ident i ∈ ts) : IsSpelled i := by
  unfold scan at h
  match hm : splitMark text.toList with
  | (mark, cs) =>
    rw [hm] at h
    simp only [Option.bind_eq_some_iff] at h
    obtain ⟨ls, hall, hnest⟩ := h
    rcases nest_mem hnest hi with hmem | ⟨f, hf, -⟩ | hmem
    · simp at hmem
    · simp at hf
    · exact scanAll_isSpelled hall hmem

end FetchKit.Source
