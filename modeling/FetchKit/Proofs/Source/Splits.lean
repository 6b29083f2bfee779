import FetchKit.Source.Scan

/-!
# Nothing of a text is lost

Every scanner splits its text: what it takes and what it leaves, one after the other, are the text.
-/

namespace FetchKit.Source

open FetchKit.Text

/-- What was taken and what is left are this text. -/
def Split.Of (s : Split) (cs : List Char) : Prop := s.1 ++ s.2 = cs

theorem Split.Of.after {s : Split} {cs : List Char} (h : s.Of cs) (taken : List Char) :
    (s.after taken).Of (taken ++ cs) := by
  rw [Split.Of, Split.after, List.append_assoc, h]

theorem of_map_after {o : Option Split} {taken cs : List Char} {s : Split}
    (h : o.map (Split.after taken) = some s) (ho : ∀ t, o = some t → t.Of cs) :
    s.Of (taken ++ cs) := by
  obtain ⟨t, ht, rfl⟩ := Option.map_eq_some_iff.1 h
  exact (ho t ht).after taken

theorem stripLead_eq_some {lead cs rest : List Char} (h : stripLead lead cs = some rest) :
    cs = lead ++ rest := by
  induction lead generalizing cs with
  | nil =>
    cases h
    rfl
  | cons l ls ih =>
    cases cs with
    | nil => cases h
    | cons c cs =>
      simp only [stripLead] at h
      split at h
      · next hlc => rw [hlc, ih h, List.cons_append]
      · cases h

theorem startsWith_eq_true {lead cs : List Char} (h : startsWith lead cs = true) :
    cs = lead ++ cs.drop lead.length := by
  obtain ⟨rest, hrest⟩ := Option.isSome_iff_exists.1 h
  rw [stripLead_eq_some hrest]
  simp

/-! ## Literals -/

theorem scanWord_of {cs : List Char} {s : Split} (h : scanWord cs = some s) : s.Of cs := by
  cases cs with
  | nil => cases h
  | cons c cs =>
    simp only [scanWord] at h
    split at h
    · cases h
      rw [Split.Of, List.cons_append, List.takeWhile_append_dropWhile]
    · cases h

theorem Split.Of.withSuffix {s : Split} {cs : List Char} (h : s.Of cs) : (withSuffix s).Of cs := by
  unfold Source.withSuffix
  split
  · next t ht =>
    have hmore := (scanWord_of ht).after s.1
    rwa [h] at hmore
  · exact h

theorem scanQuoted_of {f : Flavour} {q : Quoting} {cs : List Char} {s : Split}
    (h : scanQuoted f q cs = some s) : s.Of cs := by
  induction cs generalizing q s with
  | nil => cases h
  | cons c cs ih =>
    simp only [scanQuoted] at h
    split at h
    · next hquote =>
      cases h
      simp only [Bool.and_eq_true, decide_eq_true_eq] at hquote
      rw [hquote.1]
      rfl
    · split at h
      · exact of_map_after h fun t ht => ih ht
      · cases h

theorem scanEscape_of {f : Flavour} {q : Quoting} {cs : List Char} {s : Split}
    (h : scanEscape f q cs = some s) : s.Of cs := by
  induction cs generalizing q s with
  | nil => cases h
  | cons c cs ih =>
    simp only [scanEscape] at h
    split at h
    · cases h
      rfl
    · cases h
    · cases h
    · exact of_map_after h fun t ht => ih ht
    · cases h

theorem scanRawBody_of {f : Flavour} {marks cs : List Char} {s : Split}
    (h : scanRawBody f marks cs = some s) : s.Of cs := by
  induction cs generalizing s with
  | nil => cases h
  | cons c cs ih =>
    simp only [scanRawBody] at h
    split at h
    · next hclose =>
      cases h
      simp only [Bool.and_eq_true, decide_eq_true_eq] at hclose
      rw [Split.Of, List.cons_append, ← startsWith_eq_true hclose.2, hclose.1]
    · split at h
      · split at h
        · exact of_map_after h fun t ht => ih ht
        · cases h
      · split at h
        · exact of_map_after h fun t ht => ih ht
        · cases h

theorem scanRaw_of {f : Flavour} {cs : List Char} {s : Split} (h : scanRaw f cs = some s) :
    s.Of cs := by
  simp only [scanRaw] at h
  split at h
  · next rest hrest =>
    split at h
    · have hbody := of_map_after h fun t ht => scanRawBody_of ht
      rwa [List.append_assoc, List.singleton_append, ← hrest, List.takeWhile_append_dropWhile]
        at hbody
    · cases h
  · cases h

theorem scanSingle_of {f : Flavour} {cs : List Char} {s : Split} (h : scanSingle f cs = some s) :
    s.Of cs := by
  simp only [scanSingle] at h
  split at h
  · next taken rest hbody =>
    cases h
    have hsplit : Split.Of (taken, '\'' :: rest) cs := by
      split at hbody
      · exact of_map_after hbody fun t ht => scanEscape_of ht
      · split at hbody
        · cases hbody
        · cases hbody
          rfl
      · cases hbody
    rw [← hsplit, Split.Of, List.append_assoc]
    rfl
  · cases h

theorem closeNumber_of {s t : Split} {cs : List Char} (h : closeNumber s = some t) (hs : s.Of cs) :
    t.Of cs := by
  unfold closeNumber at h
  split at h
  · cases h
    exact hs
  · split at h
    · cases h
      exact hs.withSuffix
    · split at h
      · cases h
      · cases h
        exact hs

theorem exponent_of {marks sign rest cs : List Char} {s : Split}
    (h : (if (rest.takeWhile isDigitOrMark).any isDigit then
        some (marks ++ sign ++ rest.takeWhile isDigitOrMark, rest.dropWhile isDigitOrMark)
      else none) = some s) (hcs : marks ++ (sign ++ rest) = cs) : s.Of cs := by
  split at h
  · cases h
    rw [Split.Of, List.append_assoc, List.takeWhile_append_dropWhile, List.append_assoc, hcs]
  · cases h

theorem scanExponent_of {cs : List Char} {s : Split} (h : scanExponent cs = some s) : s.Of cs := by
  have hmarks : cs.takeWhile (· == '_') ++ cs.dropWhile (· == '_') = cs :=
    List.takeWhile_append_dropWhile
  simp only [scanExponent] at h
  split at h
  · next rest hrest =>
    rw [hrest] at hmarks
    exact exponent_of h hmarks
  · next rest hrest =>
    rw [hrest] at hmarks
    exact exponent_of h hmarks
  · exact exponent_of h hmarks

theorem scanFloatDigits_of {cs : List Char} {s : Split} (h : scanFloatDigits cs = some s) :
    s.Of cs := by
  have hwhole : cs.takeWhile isDigitOrMark ++ cs.dropWhile isDigitOrMark = cs :=
    List.takeWhile_append_dropWhile
  simp only [scanFloatDigits] at h
  split at h
  · next rest hrest =>
    have hfraction : rest.takeWhile isDigitOrMark ++ rest.dropWhile isDigitOrMark = rest :=
      List.takeWhile_append_dropWhile
    -- The digits before the point, the point, those after it, and what is left.
    have hcs : (cs.takeWhile isDigitOrMark ++ '.' :: rest.takeWhile isDigitOrMark) ++
        rest.dropWhile isDigitOrMark = cs := by
      rw [List.append_assoc, List.cons_append, hfraction, ← hrest, hwhole]
    obtain ⟨-, h⟩ := Option.ite_none_left_eq_some.1 h
    split at h
    · next e more hmore =>
      rw [hmore] at hcs
      split at h
      · split at h
        · next t ht =>
          cases h
          have hexponent := (scanExponent_of ht).after
            (cs.takeWhile isDigitOrMark ++ '.' :: rest.takeWhile isDigitOrMark ++ [e])
          rwa [← List.append_cons, hcs] at hexponent
        · cases h
          exact hcs
      · cases h
        exact hcs
    · next hmore =>
      cases h
      rwa [hmore] at hcs
  · next e more _ hmore =>
    split at h
    · have hexponent := of_map_after h fun t ht => scanExponent_of ht
      rwa [List.append_assoc, List.singleton_append, ← hmore, hwhole] at hexponent
    · cases h
  · cases h

theorem scanFloat_of {cs : List Char} {s : Split} (h : scanFloat cs = some s) : s.Of cs := by
  unfold scanFloat at h
  split at h
  · split at h
    · obtain ⟨t, ht, hclose⟩ := Option.bind_eq_some_iff.1 h
      exact closeNumber_of hclose (scanFloatDigits_of ht)
    · cases h
  · cases h

theorem scanDigits_of {base : Nat} {cs : List Char} {s : Split} (h : scanDigits base cs = some s) :
    s.Of cs := by
  induction cs generalizing s with
  | nil =>
    cases h
    rfl
  | cons c cs ih =>
    simp only [scanDigits] at h
    split at h
    · exact of_map_after h fun t ht => ih ht
    · split at h
      · split at h
        · exact of_map_after h fun t ht => ih ht
        · split at h
          · cases h
          · cases h
            rfl
      · cases h
        rfl

theorem scanBased_of {base : Nat} {lead cs : List Char} {s : Split}
    (h : scanBased base lead cs = some s) : s.Of (lead ++ cs) := by
  unfold scanBased at h
  split at h
  · next t ht =>
    split at h
    · cases h
    · split at h
      · cases h
      · cases h
        exact (scanDigits_of ht).after lead
  · cases h

theorem scanInt_of {cs : List Char} {s : Split} (h : scanInt cs = some s) : s.Of cs := by
  obtain ⟨t, ht, hclose⟩ := Option.bind_eq_some_iff.1 h
  refine closeNumber_of hclose ?_
  split at ht <;> exact scanBased_of ht

theorem scanOpened_of {cs : List Char} {s : Split} (h : scanOpened cs = some s) : s.Of cs := by
  unfold scanOpened at h
  split at h
  · exact of_map_after h fun t ht => scanQuoted_of ht
  · exact of_map_after h fun t ht => scanRaw_of ht
  · exact of_map_after h fun t ht => scanQuoted_of ht
  · exact of_map_after h fun t ht => scanRaw_of ht
  · exact of_map_after h fun t ht => scanSingle_of ht
  · exact of_map_after h fun t ht => scanQuoted_of ht
  · exact of_map_after h fun t ht => scanRaw_of ht
  · exact of_map_after h fun t ht => scanSingle_of ht
  · cases h

theorem scanLiteral_of {cs : List Char} {s : Split} (h : scanLiteral cs = some s) : s.Of cs := by
  unfold scanLiteral at h
  split at h
  · next t ht =>
    cases h
    exact (scanOpened_of ht).withSuffix
  · split at h
    · next t ht =>
      cases h
      exact scanFloat_of ht
    · exact scanInt_of h

/-! ## Comments -/

theorem scanBlock_of {depth : Nat} {cs : List Char} {s : Split} (h : scanBlock depth cs = some s) :
    s.Of cs := by
  fun_induction scanBlock depth cs generalizing s with
  | case1 => cases h
  | case2 => cases h
  | case3 depth cs ih => exact of_map_after h fun t ht => ih ht
  | case4 depth cs hdepth =>
    cases h
    rfl
  | case5 depth cs hdepth ih => exact of_map_after h fun t ht => ih ht
  | case6 depth c d cs _ _ ih => exact of_map_after h fun t ht => ih ht

theorem scanLine_of (cs : List Char) : (scanLine cs).2.Of cs := by
  induction cs with
  | nil => rfl
  | cons c cs ih =>
    unfold scanLine
    split
    · rfl
    · split
      · rfl
      · exact ih.after [c]

theorem scanDoc_of {cs text : List Char} {inner : Bool} {s : Split}
    (h : scanDoc cs = some (inner, text, s)) : s.Of cs := by
  unfold scanDoc at h
  split at h
  · cases h
    exact (scanLine_of _).after _
  · obtain ⟨t, ht, h⟩ := Option.map_eq_some_iff.1 h
    cases h
    exact scanBlock_of ht
  · split at h
    · cases h
    · cases h
      exact (scanLine_of _).after _
  · split at h
    · cases h
    · obtain ⟨t, ht, h⟩ := Option.map_eq_some_iff.1 h
      cases h
      exact scanBlock_of ht
  · cases h

theorem scanBlank_of {cs : List Char} {s : Split} (h : scanBlank cs = some s) : s.Of cs := by
  unfold scanBlank at h
  split at h
  · split at h
    · cases h
    · cases h
      exact (scanLine_of _).after _
  · split at h
    · next hempty =>
      cases h
      rw [Split.Of, startsWith_eq_true hempty]
      rfl
    · split at h
      · cases h
      · exact scanBlock_of h
  · split at h
    · cases h
      rfl
    · cases h
  · cases h

end FetchKit.Source
