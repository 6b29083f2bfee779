import FetchKit.Proofs.Request.Arguments

/-!
# Which fault is reported

The first bad entry is reported as if it stood alone. Good entries before it make no difference, and
neither does what comes after it, unless the fault is that the arguments end too early.
-/

namespace FetchKit.Request

open FetchKit.Source FetchKit.Grammar

/-! ## Faults at the end -/

/-- Whether arguments that end too early can make this mistake. -/
def Mistake.isOfEnd : Mistake → Bool
  | .endsBeforeKey => true
  | .cutKey atEnd => atEnd
  | .noEquals => true
  | .notText atEnd => atEnd
  | _ => false

/-- The arguments end too early: the fault is of the end, and has no place in them. -/
def Fault.AtEnd (f : Fault) : Prop := f.mistake.isOfEnd = true ∧ f.span = .callSite

/-! ## One entry

A comma is no part of an entry: each stage reads in front of one what it reads at the end. -/

section Entry

variable {ts left : List Tree} {f : Fault} {joint : Bool} {span : Span} {more : List Tree}

theorem readMore_comma {is : List Ident} (h : readMore ts = .ok (is, left)) :
    readMore (ts ++ .punct ',' joint span :: more) =
      .ok (is, left ++ .punct ',' joint span :: more) := by
  fun_induction readMore ts generalizing is left with
  | case1 _ _ _ i ts is' left' hmore ih =>
    cases h
    simp [readMore, ih hmore]
  | case2 => cases h
  | case3 => cases h
  | case4 ts hts =>
    cases h
    rw [readMore]
    intro s joint' s' rest heq
    -- The comma is no colon, so both colons would stand in `ts`.
    rcases ts with _ | ⟨_, _ | ⟨_, _⟩⟩
    · cases heq
    · cases heq
    · cases heq
      exact hts _ _ _ _ rfl

theorem readMore_error_comma (h : readMore ts = .error f) (hf : ¬ f.AtEnd) :
    readMore (ts ++ .punct ',' joint span :: more) = .error f := by
  fun_induction readMore ts with
  | case1 => cases h
  | case2 _ _ _ i ts f' hmore ih =>
    cases h
    simp [readMore, ih hmore]
  | case3 _ _ _ rest hrest =>
    cases h
    cases rest with
    | nil => exact absurd ⟨rfl, rfl⟩ hf
    | cons t rest =>
      rw [List.cons_append, List.cons_append, List.cons_append, readMore]
      · rfl
      · intro i us heq
        cases heq
        exact hrest _ _ rfl
  | case4 => cases h

theorem readLeading_comma : readLeading (ts ++ .punct ',' joint span :: more) =
    ((readLeading ts).1, (readLeading ts).2 ++ .punct ',' joint span :: more) := by
  fun_cases readLeading ts with
  | case1 => rfl
  | case2 =>
    rename_i hts
    rw [readLeading]
    intro s joint' s' rest heq
    rcases ts with _ | ⟨_, _ | ⟨_, _⟩⟩
    · cases heq
    · cases heq
    · cases heq
      exact hts _ _ _ _ rfl

theorem startsLiteral_comma (t : Tree) (rest : List Tree) :
    Rule.startsLiteral (t :: (rest ++ .punct ',' joint span :: more)) =
      Rule.startsLiteral (t :: rest) := by
  match t, rest with
  | .literal _ _, _ | .ident _, _ | .group _ _ _, _ => rfl
  | .punct _ _ _, [] => simp [Rule.startsLiteral]
  | .punct c _ _, u :: _ =>
    by_cases hc : c = '-'
    · subst hc
      cases u <;> rfl
    · simp [Rule.startsLiteral, hc]

theorem readKey_comma {key : Key} (h : readKey ts = .ok (key, left)) :
    readKey (ts ++ .punct ',' joint span :: more) =
      .ok (key, left ++ .punct ',' joint span :: more) := by
  unfold readKey at h ⊢
  rw [readLeading_comma]
  match hts : (readLeading ts).2 with
  | .ident first :: rest =>
    simp only [hts] at h
    cases hmore : readMore rest with
    | error f => simp [hmore] at h
    | ok p =>
      simp only [hmore] at h
      cases h
      simp only [List.cons_append, readMore_comma hmore]
  | [] => simp [hts] at h
  | .punct _ _ _ :: _ | .literal _ _ :: _ | .group _ _ _ :: _ =>
    simp only [hts] at h
    split at h <;> cases h

theorem readKey_error_comma (h : readKey ts = .error f) (hf : ¬ f.AtEnd) :
    readKey (ts ++ .punct ',' joint span :: more) = .error f := by
  unfold readKey at h ⊢
  rw [readLeading_comma]
  match hts : (readLeading ts).2 with
  | .ident first :: rest =>
    simp only [hts] at h
    cases hmore : readMore rest with
    | error f' =>
      simp only [hmore] at h
      cases h
      simp only [List.cons_append, readMore_error_comma hmore hf]
    | ok p => simp [hmore] at h
  | [] =>
    simp only [hts] at h
    cases h
    exact absurd ⟨rfl, rfl⟩ hf
  | .punct _ _ _ :: _ | .literal _ _ :: _ | .group _ _ _ :: _ =>
    simp only [hts] at h
    simp only [List.cons_append, startsLiteral_comma]
    exact h

theorem readText_comma {value : String} {place : Span} (h : readText ts = .ok (value, place, left)) :
    readText (ts ++ .punct ',' joint span :: more) =
      .ok (value, place, left ++ .punct ',' joint span :: more) := by
  obtain ⟨joint', place', text, rfl, htext⟩ := readText_sound h
  simp [readText, Text.unquote_eq_some_iff.2 htext]

theorem readText_error_comma (h : readText ts = .error f) (hf : ¬ f.AtEnd) :
    readText (ts ++ .punct ',' joint span :: more) = .error f := by
  fun_cases readText ts with
  | case1 _ _ _ _ _ _ htext => simp [readText, htext] at h
  | case2 _ _ _ _ _ htext =>
    simp only [readText, htext] at h
    simp only [List.cons_append, readText, htext, h]
  | case3 joint' place rest hrest =>
    rw [readText] at h
    · cases h
      cases rest with
      | nil => exact absurd ⟨rfl, rfl⟩ hf
      | cons t rest =>
        rw [List.cons_append, List.cons_append, readText]
        · rfl
        · intro text s left heq
          cases heq
          exact hrest _ _ _ rfl
    · exact hrest
  | case4 =>
    rename_i hts
    rw [readText] at h
    · cases h
      cases ts with
      | nil => exact absurd ⟨rfl, rfl⟩ hf
      | cons t ts =>
        rw [List.cons_append, readText]
        · rfl
        · intro joint' s rest heq
          cases heq
          exact hts _ _ _ rfl
    · exact hts

theorem readEntry_comma {e : Entry} (h : readEntry ts = .ok (e, left)) (more : List Tree) :
    readEntry (ts ++ more) = .ok (e, left ++ more) := by
  obtain ⟨piece, rfl, hentry⟩ := readEntry_sound h
  rw [List.append_assoc, hentry.readEntry_eq]

theorem readEntry_error_comma (h : readEntry ts = .error f) (hf : ¬ f.AtEnd) :
    readEntry (ts ++ .punct ',' joint span :: more) = .error f := by
  fun_cases readEntry ts with
  | case1 f' hkey =>
    simp only [readEntry, hkey] at h
    cases h
    simp only [readEntry, readKey_error_comma hkey hf]
  | case2 key rest hkey hplain =>
    simp only [readEntry, hkey, hplain, if_true] at h
    simp only [readEntry, readKey_comma hkey, hplain, if_true, h]
  | case3 key rest hkey hplain hurl value s left htext =>
    simp [readEntry, hkey, hplain, hurl, htext] at h
  | case4 key rest hkey hplain hurl f' htext =>
    simp only [readEntry, hkey, hplain, hurl, htext, if_true, if_false, Bool.false_eq_true] at h
    cases h
    simp only [readEntry, readKey_comma hkey, hplain, hurl, readText_error_comma htext hf, if_true,
      if_false, Bool.false_eq_true]
  | case5 key rest hkey hplain hurl hname value s left htext i hi =>
    simp [readEntry, hkey, hplain, hurl, hname, htext, hi] at h
  | case6 key rest hkey hplain hurl hname value s left htext hi =>
    simp only [readEntry, hkey, hplain, hurl, hname, htext, hi, if_true, if_false,
      Bool.false_eq_true] at h
    simp only [readEntry, readKey_comma hkey, hplain, hurl, hname, readText_comma htext, hi, h, if_true,
      if_false, Bool.false_eq_true]
  | case7 key rest hkey hplain hurl hname f' htext =>
    simp only [readEntry, hkey, hplain, hurl, hname, htext, if_true, if_false,
      Bool.false_eq_true] at h
    cases h
    simp only [readEntry, readKey_comma hkey, hplain, hurl, hname, readText_error_comma htext hf,
      if_true, if_false, Bool.false_eq_true]
  | case8 key rest hkey hplain hurl hname =>
    simp only [readEntry, hkey, hplain, hurl, hname, if_false, Bool.false_eq_true] at h
    simp only [readEntry, readKey_comma hkey, hplain, hurl, hname, if_false, Bool.false_eq_true, h]

end Entry

/-! ## All entries -/

theorem readEntries_error_comma {ts : List Tree} {f : Fault} (h : readEntries ts = .error f)
    (hf : ¬ f.AtEnd) (joint : Bool) (span : Span) (more : List Tree) :
    readEntries (ts ++ .punct ',' joint span :: more) = .error f := by
  have hne (ts : List Tree) : (ts ++ .punct ',' joint span :: more).isEmpty = false := by simp
  fun_induction readEntries ts with
  | case1 => cases h
  | case2 ts hts f' hentry =>
    cases h
    rw [readEntries, hne, readEntry_error_comma hentry hf]
    rfl
  | case3 => cases h
  | case4 => cases h
  | case5 ts hts e joint' span' left hentry hlt f' hleft ih =>
    cases h
    rw [readEntries, hne, readEntry_comma hentry]
    simp [hlt, ih hleft]
  | case6 => cases h
  | case7 ts hts e t left ht hentry =>
    cases h
    rw [readEntries, hne, readEntry_comma hentry]
    simp

theorem Entries.readEntries_error {ts bad : List Tree} {es : List Entry} {f : Fault}
    (h : Entries ts es) (hne : ts ≠ []) (hlast : ∀ joint span, ts.getLast? ≠ some (.punct ',' joint span))
    (hbad : readEntries bad = .error f) (joint : Bool) (span : Span) :
    readEntries (ts ++ .punct ',' joint span :: bad) = .error f := by
  induction h with
  | nil => exact absurd rfl hne
  | @last piece e he =>
    rw [readEntries, he.isEmpty_append, he.readEntry_eq]
    simp [hbad]
    omega
  | @more piece e joint' span' rest es he hes ih =>
    have hrest : rest ≠ [] := by
      rintro rfl
      exact hlast joint' span' (by simp)
    have hlast' : ∀ joint span, rest.getLast? ≠ some (.punct ',' joint span) := by
      intro joint span hr
      refine hlast joint span ?_
      simp [List.getLast?_append, List.getLast?_cons, hr]
    rw [List.append_assoc, List.cons_append, readEntries, he.isEmpty_append, he.readEntry_eq]
    simp [ih hrest hlast']
    omega

theorem entries_of_parse {ts : List Tree} {a : Arguments} (h : Arguments.parse ts = .ok a) :
    ∃ es, Entries ts es := by
  unfold Arguments.parse at h
  split at h
  · next es hes => exact ⟨es, readEntries_sound hes⟩
  · cases h

theorem parse_eq_error {ts : List Tree} {f : Fault} :
    Arguments.parse ts = .error f ↔ readEntries ts = .error f := by
  unfold Arguments.parse
  cases readEntries ts <;> simp

/-- A bad entry is reported as if it stood alone: entries before it make no difference, and neither
does what comes after it, unless the arguments ended too early. -/
theorem parse_first_fault {entries bad : List Tree} {a : Arguments} {f : Fault}
    (hentries : Arguments.parse entries = .ok a) (hne : entries ≠ [])
    (hlast : ∀ joint span, entries.getLast? ≠ some (.punct ',' joint span))
    (hbad : Arguments.parse bad = .error f) (joint : Bool) (span : Span) :
    Arguments.parse (entries ++ .punct ',' joint span :: bad) = .error f ∧
      (¬ f.AtEnd → ∀ joint' span' more, Arguments.parse
        (entries ++ .punct ',' joint span :: (bad ++ .punct ',' joint' span' :: more)) = .error f) := by
  obtain ⟨es, hes⟩ := entries_of_parse hentries
  simp only [parse_eq_error] at hbad ⊢
  refine ⟨hes.readEntries_error hne hlast hbad joint span, fun hf joint' span' more => ?_⟩
  exact hes.readEntries_error hne hlast (readEntries_error_comma hbad hf joint' span' more) joint span

/-- A second value stands where a comma should: the fault has a place, and what follows, here an
unknown key, is not reported. -/
theorem parse_first_fault_comma :
    let ident (name : String) : Tree := .ident { name }
    let punct (c : Char) : Tree := .punct c false .callSite
    let entries := [ident "url", punct '=', .literal "\"/a\"" .callSite]
    let second : Span := ⟨⟨1, 30⟩, ⟨1, 33⟩⟩
    let bad := [ident "url", punct '=', .literal "\"b\"" .callSite, .literal "\"c\"" second]
    Arguments.parse entries = .ok { url := "/a" } ∧
      Arguments.parse bad = .error ⟨.noComma, second⟩ ∧
      Arguments.parse (entries ++ punct ',' :: (bad ++ punct ',' :: [ident "timeout"])) =
        .error ⟨.noComma, second⟩ := by
  intro ident punct entries second bad
  have hentries : Arguments.parse entries = .ok { url := "/a" } := by cbv
  have hbad : Arguments.parse bad = .error ⟨.noComma, second⟩ := by cbv
  have hlast : ∀ joint span, entries.getLast? ≠ some (.punct ',' joint span) := by simp [entries]
  obtain ⟨-, hmore⟩ :=
    parse_first_fault hentries (List.cons_ne_nil _ _) hlast hbad false .callSite
  exact ⟨hentries, hbad, hmore (by simp [Fault.AtEnd, Mistake.isOfEnd]) _ _ _⟩

end FetchKit.Request
