import FetchKit.Text.Quoted

/-!
# Which literals are read

A literal has a value exactly where it is a string literal, plain or raw, and then the value is what
its characters and escapes stand for. A text that was quoted reads as itself.
-/

namespace FetchKit.Text

/-! ## Hexadecimal digits -/

theorem hexValue_digitChar {d : Nat} (h : d < 16) : hexValue d.digitChar = some d := by
  revert d
  decide

theorem digitChar_ne {d : Nat} (h : d < 16) : d.digitChar ≠ '}' ∧ d.digitChar ≠ '_' := by
  revert d
  decide

theorem unescape_digit (value : Nat) {d : Nat} (h : d < 16) (cs : List Char) :
    unescape (.digits value) (d.digitChar :: cs) = unescape (.digits (16 * value + d)) cs := by
  obtain ⟨hbrace, hlow⟩ := digitChar_ne h
  rw [unescape, if_neg hbrace, if_neg hlow, hexValue_digitChar h]

theorem unescape_hexDigits (n : Nat) (cs : List Char) :
    unescape (.digits 0) (hexDigits n ++ cs) = unescape (.digits n) cs := by
  induction n using Nat.strongRecOn generalizing cs with
  | ind n ih =>
    unfold hexDigits at ih ⊢
    rw [Nat.toDigits_eq_if (by decide)]
    split
    · next h =>
      rw [List.singleton_append, unescape_digit 0 h, Nat.mul_zero, Nat.zero_add]
    · next h =>
      rw [List.append_assoc, ih (n / 16) (by omega), List.singleton_append,
        unescape_digit _ (Nat.mod_lt n (by decide)), Nat.div_add_mod]

theorem scalar?_toNat (c : Char) : scalar? c.toNat = some c := by
  have h : c.toNat.isValidChar := c.valid
  rw [scalar?, dif_pos h]
  rfl

/-! ## Characters -/

theorem unescape_escapeChar (c : Char) (cs : List Char) :
    unescape .plain (escapeChar c ++ cs) = (unescape .plain cs).map (c :: ·) := by
  unfold escapeChar
  split
  · next h => subst h; rfl
  split
  · next h => subst h; rfl
  split
  · next h => subst h; rfl
  split
  · next h => subst h; rfl
  split
  · next h => subst h; rfl
  split
  · next htab hcr hnl hback hquote hplain =>
    rw [List.singleton_append, unescape, if_neg hquote, if_neg hback, if_neg hcr]
  · simp only [List.cons_append, List.append_assoc, List.nil_append]
    change unescape (.digits 0) (hexDigits c.toNat ++ '}' :: cs) = _
    rw [unescape_hexDigits, unescape, if_pos rfl, scalar?_toNat]

theorem unescape_nul (cs : List Char) :
    unescape .plain (['\\', '0'] ++ cs) = (unescape .plain cs).map (Char.ofNat 0 :: ·) ∧
      unescape .plain (['\\', 'x', '0', '0'] ++ cs) =
        (unescape .plain cs).map (Char.ofNat 0 :: ·) :=
  ⟨rfl, rfl⟩

theorem unescape_escape (s rest : List Char) :
    unescape .plain (escape s ++ '"' :: rest) = some s := by
  induction s with
  | nil => rfl
  | cons c cs ih =>
    unfold escape
    rw [List.append_assoc]
    split
    · next h =>
      obtain rfl : c = Char.ofNat 0 := Char.toNat_inj.1 h
      split
      · split
        · rw [(unescape_nul _).2, ih]
          rfl
        · rw [(unescape_nul _).1, ih]
          rfl
      · rw [(unescape_nul _).1, ih]
        rfl
    · rw [unescape_escapeChar, ih]
      rfl

/-- A quoted text is a literal of the text. -/
theorem unquote_quote (s : String) : unquote (quote s) = some s := by
  unfold unquote quote
  rw [String.toList_ofList]
  simp only [List.cons_append]
  rw [unescape_escape]
  simp

/-! ## The grammar of string literals -/

/-- What hexadecimal digits are worth, `_` left out. -/
def hexNumber (value : Nat) (ds : List Char) : Nat :=
  (ds.filterMap hexValue).foldl (fun n d => 16 * n + d) value

/-- What can follow a backslash, and the character that it stands for. -/
inductive IsEscape : List Char → Char → Prop
  | newline : IsEscape ['n'] '\n'
  | carriage : IsEscape ['r'] '\r'
  | tab : IsEscape ['t'] '\t'
  | nul : IsEscape ['0'] (Char.ofNat 0)
  | backslash : IsEscape ['\\'] '\\'
  | single : IsEscape ['\''] '\''
  | double : IsEscape ['"'] '"'
  | hex {h l high low} (hhigh : hexValue h = some high) (hlow : hexValue l = some low) :
    IsEscape ['x', h, l] (Char.ofNat (16 * high + low))
  | unicode {ds c} (hdigits : ∀ d ∈ ds, d = '_' ∨ (hexValue d).isSome)
    (hvalue : scalar? (hexNumber 0 ds) = some c) : IsEscape ('u' :: '{' :: (ds ++ ['}'])) c

/-- The characters that a backslash at the end of a line takes with it. -/
def isSkipped (c : Char) : Bool := c = ' ' || c = '\t' || c = '\n' || c = '\r'

/-- What stands between the quotes of a plain literal, and its value. -/
inductive IsBody : List Char → List Char → Prop
  | nil : IsBody [] []
  | char {c cs value} (hquote : c ≠ '"') (hback : c ≠ '\\') (hreturn : c ≠ '\r')
    (h : IsBody cs value) : IsBody (c :: cs) (c :: value)
  | lineEnd {cs value} (h : IsBody cs value) : IsBody ('\r' :: '\n' :: cs) ('\n' :: value)
  | escape {e c cs value} (he : IsEscape e c) (h : IsBody cs value) :
    IsBody ('\\' :: (e ++ cs)) (c :: value)
  | continued {c skipped cs value} (hend : c = '\n' ∨ c = '\r')
    (hskipped : ∀ d ∈ skipped, isSkipped d = true) (hnext : ∀ d ∈ cs.head?, isSkipped d = false)
    (h : IsBody cs value) : IsBody ('\\' :: c :: (skipped ++ cs)) value

/-- The text is a literal of this value, plain or raw. What follows the last quote does not count:
the `#` that close a raw literal, and a suffix. -/
inductive IsStringLiteral : String → String → Prop
  | plain {body value rest} (h : IsBody body value) :
    IsStringLiteral (String.ofList ('"' :: (body ++ '"' :: rest))) (String.ofList value)
  | raw {hashes value rest} (hhashes : ∀ c ∈ hashes, c = '#') (hrest : '"' ∉ rest) :
    IsStringLiteral (String.ofList ('r' :: (hashes ++ '"' :: (value ++ '"' :: rest))))
      (String.ofList value)

/-! ## Plain literals -/

theorem unescape_digits {ds : List Char} (h : ∀ d ∈ ds, d = '_' ∨ (hexValue d).isSome) (value : Nat)
    (cs : List Char) : unescape (.digits value) (ds ++ '}' :: cs) =
      unescape (.digits (hexNumber value ds)) ('}' :: cs) := by
  induction ds generalizing value with
  | nil => rfl
  | cons d ds ih =>
    obtain ⟨hd, hds⟩ := List.forall_mem_cons.1 h
    rw [List.cons_append, unescape]
    rcases hd with rfl | hd
    · exact ih hds value
    · obtain ⟨n, hn⟩ := Option.isSome_iff_exists.1 hd
      have hbrace : d ≠ '}' := by
        rintro rfl
        cases hn
      have hlow : d ≠ '_' := by
        rintro rfl
        cases hn
      rw [if_neg hbrace, if_neg hlow, hn]
      simpa [hexNumber, hn] using ih hds (16 * value + n)

theorem unescape_digits_sound {value : Nat} {cs v : List Char}
    (h : unescape (.digits value) cs = some v) :
    ∃ ds c rest w, cs = ds ++ '}' :: rest ∧ (∀ d ∈ ds, d = '_' ∨ (hexValue d).isSome) ∧
      scalar? (hexNumber value ds) = some c ∧ unescape .plain rest = some w ∧ v = c :: w := by
  induction cs generalizing value with
  | nil => cases h
  | cons d cs ih =>
    rw [unescape] at h
    split at h
    · next hd =>
      split at h
      · next c hc =>
        obtain ⟨w, hw, rfl⟩ := Option.map_eq_some_iff.1 h
        exact ⟨[], c, cs, w, by rw [hd]; rfl, by simp, hc, hw, rfl⟩
      · cases h
    split at h
    · next hd =>
      obtain ⟨ds, c, rest, w, rfl, hds, hc, hw, rfl⟩ := ih h
      refine ⟨d :: ds, c, rest, w, rfl, List.forall_mem_cons.2 ⟨.inl hd, hds⟩, ?_, hw, rfl⟩
      rw [hd]
      exact hc
    · split at h
      · next n hn =>
        obtain ⟨ds, c, rest, w, rfl, hds, hc, hw, rfl⟩ := ih h
        refine ⟨d :: ds, c, rest, w, rfl, List.forall_mem_cons.2 ⟨.inr (by simp [hn]), hds⟩, ?_, hw,
          rfl⟩
        simpa [hexNumber, hn] using hc
      · cases h

theorem unescape_isEscape {e : List Char} {c : Char} (h : IsEscape e c) (cs : List Char) :
    unescape .plain ('\\' :: (e ++ cs)) = (unescape .plain cs).map (c :: ·) := by
  cases h with
  | newline => rfl
  | carriage => rfl
  | tab => rfl
  | nul => rfl
  | backslash => rfl
  | single => rfl
  | double => rfl
  | hex hhigh hlow => simp [unescape, hhigh, hlow]
  | @unicode ds c hdigits hvalue =>
    change unescape (.digits 0) (ds ++ ['}'] ++ cs) = _
    rw [List.append_assoc, List.singleton_append, unescape_digits hdigits, unescape, if_pos rfl,
      hvalue]

theorem unescape_skipped {skipped : List Char} (h : ∀ d ∈ skipped, isSkipped d = true)
    (cs : List Char) : unescape .newline (skipped ++ cs) = unescape .newline cs := by
  induction skipped with
  | nil => rfl
  | cons d skipped ih =>
    obtain ⟨hd, hskipped⟩ := List.forall_mem_cons.1 h
    have hd : (d = ' ' || d = '\t' || d = '\n' || d = '\r') = true := hd
    rw [List.cons_append, unescape, if_pos hd, ih hskipped]

theorem unescape_newline_cons {c : Char} (h : isSkipped c = false) (cs : List Char) :
    unescape .newline (c :: cs) = unescape .plain (c :: cs) := by
  have hc : (c = ' ' || c = '\t' || c = '\n' || c = '\r') = false := h
  have hreturn : c ≠ '\r' := by
    rintro rfl
    cases hc
  rw [unescape, unescape, hc, if_neg hreturn]
  simp

theorem IsBody.unescape_eq {body value : List Char} (h : IsBody body value) (rest : List Char) :
    unescape .plain (body ++ '"' :: rest) = some value := by
  induction h with
  | nil => rfl
  | char hquote hback hreturn h ih =>
    rw [List.cons_append, unescape, if_neg hquote, if_neg hback, if_neg hreturn, ih]
    rfl
  | @lineEnd cs value h ih =>
    change (unescape .plain (cs ++ '"' :: rest)).map _ = _
    rw [ih]
    rfl
  | escape he h ih =>
    rw [List.cons_append, List.append_assoc, unescape_isEscape he, ih]
    rfl
  | @continued c skipped cs value hend hskipped hnext h ih =>
    have hline : unescape .plain ('\\' :: c :: (skipped ++ cs) ++ '"' :: rest) =
        unescape .newline (skipped ++ (cs ++ '"' :: rest)) := by
      rw [← List.append_assoc]
      rcases hend with rfl | rfl
      · rfl
      · rfl
    rw [hline, unescape_skipped hskipped, ← ih]
    cases cs with
    | nil => exact unescape_newline_cons (by decide) rest
    | cons d cs => exact unescape_newline_cons (hnext d rfl) _

theorem unescape_hexHigh_sound {cs v : List Char} (h : unescape .hexHigh cs = some v) :
    ∃ high low a b rest w, cs = high :: low :: rest ∧ hexValue high = some a ∧
      hexValue low = some b ∧ unescape .plain rest = some w ∧
      v = Char.ofNat (16 * a + b) :: w := by
  match cs, h with
  | high :: cs, h =>
    rw [unescape] at h
    split at h
    · next a ha =>
      match cs, h with
      | low :: rest, h =>
        rw [unescape] at h
        split at h
        · next b hb =>
          obtain ⟨w, hw, rfl⟩ := Option.map_eq_some_iff.1 h
          exact ⟨high, low, a, b, rest, w, rfl, ha, hb, hw, rfl⟩
        · cases h
    · cases h

theorem unescape_brace_sound {cs v : List Char} (h : unescape .brace cs = some v) :
    ∃ ds c rest w, cs = '{' :: (ds ++ '}' :: rest) ∧ (∀ d ∈ ds, d = '_' ∨ (hexValue d).isSome) ∧
      scalar? (hexNumber 0 ds) = some c ∧ unescape .plain rest = some w ∧ v = c :: w := by
  match cs, h with
  | c :: cs, h =>
    rw [unescape] at h
    split at h
    · next hc =>
      obtain ⟨ds, u, rest, w, rfl, hparts⟩ := unescape_digits_sound h
      exact ⟨ds, u, rest, w, by rw [hc], hparts⟩
    · cases h

theorem unescape_escape_sound {cs v : List Char} (h : unescape .escape cs = some v) :
    (∃ e c rest w, cs = e ++ rest ∧ IsEscape e c ∧ unescape .plain rest = some w ∧ v = c :: w) ∨
      ∃ c rest, cs = c :: rest ∧ (c = '\n' ∨ c = '\r') ∧ unescape .newline rest = some v := by
  cases cs with
  | nil => cases h
  | cons c cs =>
    have hone {d : Char} (he : IsEscape [c] d) (h : (unescape .plain cs).map (d :: ·) = some v) :
        ∃ e d rest w, c :: cs = e ++ rest ∧ IsEscape e d ∧ unescape .plain rest = some w ∧
          v = d :: w := by
      obtain ⟨w, hw, rfl⟩ := Option.map_eq_some_iff.1 h
      exact ⟨[c], d, cs, w, rfl, he, hw, rfl⟩
    rw [unescape] at h
    split at h
    · next hc =>
      obtain ⟨high, low, a, b, rest, w, rfl, ha, hb, hw, rfl⟩ := unescape_hexHigh_sound h
      exact .inl ⟨_, _, rest, w, by rw [hc]; rfl, .hex ha hb, hw, rfl⟩
    split at h
    · next hc =>
      obtain ⟨ds, u, rest, w, rfl, hds, hu, hw, rfl⟩ := unescape_brace_sound h
      exact .inl ⟨_, _, rest, w, by rw [hc]; simp, .unicode hds hu, hw, rfl⟩
    split at h
    · next hc => exact .inl (hone (hc ▸ .newline) h)
    split at h
    · next hc => exact .inl (hone (hc ▸ .carriage) h)
    split at h
    · next hc => exact .inl (hone (hc ▸ .tab) h)
    split at h
    · next hc => exact .inl (hone (hc ▸ .nul) h)
    split at h
    · next hc =>
      simp only [Bool.or_eq_true, decide_eq_true_eq] at hc
      rcases hc with (rfl | rfl) | rfl
      · exact .inl (hone .backslash h)
      · exact .inl (hone .single h)
      · exact .inl (hone .double h)
    split at h
    · next hc => exact .inr ⟨c, cs, rfl, by simpa using hc, h⟩
    · cases h

theorem unescape_newline_sound {cs v : List Char} (h : unescape .newline cs = some v) :
    ∃ skipped rest, cs = skipped ++ rest ∧ (∀ d ∈ skipped, isSkipped d = true) ∧
      (∀ d ∈ rest.head?, isSkipped d = false) ∧ unescape .plain rest = some v := by
  induction cs with
  | nil => cases h
  | cons c cs ih =>
    by_cases hc : isSkipped c = true
    · rw [← List.singleton_append, unescape_skipped (by simpa using hc)] at h
      obtain ⟨skipped, rest, rfl, hskipped, hnext, hrest⟩ := ih h
      exact ⟨c :: skipped, rest, rfl, List.forall_mem_cons.2 ⟨hc, hskipped⟩, hnext, hrest⟩
    · rw [Bool.not_eq_true] at hc
      rw [unescape_newline_cons hc] at h
      exact ⟨[], c :: cs, rfl, by simp, by simpa using hc, h⟩

theorem unescape_sound {cs v : List Char} (h : unescape .plain cs = some v) :
    ∃ body rest, cs = body ++ '"' :: rest ∧ IsBody body v := by
  induction hn : cs.length using Nat.strongRecOn generalizing cs v with
  | ind n ih =>
    subst hn
    cases cs with
    | nil => cases h
    | cons c cs =>
      rw [unescape] at h
      split at h
      · next hquote =>
        cases h
        exact ⟨[], cs, by rw [hquote]; rfl, .nil⟩
      split at h
      · next hback =>
        subst hback
        obtain ⟨e, d, rest, w, rfl, he, hw, rfl⟩ | ⟨d, rest, rfl, hd, hw⟩ := unescape_escape_sound h
        · obtain ⟨body, rest, rfl, hbody⟩ := ih _ (by simp only [List.length_append, List.length_cons]; omega) hw rfl
          exact ⟨'\\' :: (e ++ body), rest, by simp, .escape he hbody⟩
        · obtain ⟨skipped, rest, rfl, hskipped, hnext, hw⟩ := unescape_newline_sound hw
          obtain ⟨body, rest, rfl, hbody⟩ := ih _ (by simp only [List.length_append, List.length_cons]; omega) hw rfl
          refine ⟨'\\' :: d :: (skipped ++ body), rest, by simp, .continued hd hskipped ?_ hbody⟩
          intro x hx
          cases body with
          | nil => cases hx
          | cons y body => exact hnext x hx
      split at h
      · next hreturn =>
        match cs, h with
        | d :: cs, h =>
          rw [unescape] at h
          split at h
          · next hd =>
            obtain ⟨w, hw, rfl⟩ := Option.map_eq_some_iff.1 h
            obtain ⟨body, rest, rfl, hbody⟩ := ih _ (by simp only [List.length_cons]; omega) hw rfl
            exact ⟨c :: d :: body, rest, rfl, hreturn ▸ hd ▸ .lineEnd hbody⟩
          · cases h
      · next hquote hback hreturn =>
        obtain ⟨w, hw, rfl⟩ := Option.map_eq_some_iff.1 h
        obtain ⟨body, rest, rfl, hbody⟩ := ih _ (by simp) hw rfl
        exact ⟨c :: body, rest, rfl, .char hquote hback hreturn hbody⟩

/-! ## Raw literals -/

theorem beforeLastQuote_eq_some {cs value : List Char} :
    beforeLastQuote cs = some value ↔ ∃ rest, cs = value ++ '"' :: rest ∧ '"' ∉ rest := by
  have hsplit := List.takeWhile_append_dropWhile (p := (· != '"')) (l := cs.reverse)
  unfold beforeLastQuote
  constructor
  · intro h
    split at h
    · next c body hbody =>
      cases h
      have hc := List.head?_dropWhile_not (· != '"') cs.reverse
      rw [hbody] at hsplit hc
      obtain rfl : c = '"' := by simpa using hc
      refine ⟨(cs.reverse.takeWhile (· != '"')).reverse, ?_, ?_⟩
      · simpa using congrArg List.reverse hsplit.symm
      · intro hmem
        simpa using List.all_eq_true.1 List.all_takeWhile _ (List.mem_reverse.1 hmem)
    · cases h
  · rintro ⟨rest, rfl, hrest⟩
    have hrest' : ∀ c ∈ rest.reverse, (c != '"') = true := by
      intro c hc
      simp only [bne_iff_ne, ne_eq]
      rintro rfl
      exact hrest (List.mem_reverse.1 hc)
    simp [List.dropWhile_append_of_pos hrest']

theorem unquoteRaw_eq_some {cs value : List Char} : unquoteRaw cs = some value ↔
    ∃ hashes rest, cs = hashes ++ '"' :: (value ++ '"' :: rest) ∧ (∀ c ∈ hashes, c = '#') ∧
      '"' ∉ rest := by
  unfold unquoteRaw
  constructor
  · intro h
    split at h
    · next left hleft =>
      obtain ⟨rest, rfl, hrest⟩ := beforeLastQuote_eq_some.1 h
      refine ⟨cs.takeWhile (· == '#'), rest, ?_, ?_, hrest⟩
      · rw [← hleft, List.takeWhile_append_dropWhile]
      · intro c hc
        simpa using List.all_eq_true.1 List.all_takeWhile _ hc
    · cases h
  · rintro ⟨hashes, rest, rfl, hhashes, hrest⟩
    have hdrop : (hashes ++ '"' :: (value ++ '"' :: rest)).dropWhile (· == '#') =
        '"' :: (value ++ '"' :: rest) := by
      rw [List.dropWhile_append_of_pos (by simpa using hhashes)]
      rfl
    rw [hdrop]
    exact beforeLastQuote_eq_some.2 ⟨rest, rfl, hrest⟩

/-! ## All literals -/

/-- Exactly the string literals have a value. -/
theorem unquote_eq_some_iff {text value : String} :
    unquote text = some value ↔ IsStringLiteral text value := by
  constructor
  · intro h
    rw [← String.ofList_toList (s := text)]
    unfold unquote at h
    split at h
    · next cs hcs =>
      obtain ⟨v, hv, rfl⟩ := Option.map_eq_some_iff.1 h
      obtain ⟨body, rest, rfl, hbody⟩ := unescape_sound hv
      exact hcs ▸ .plain hbody
    · next cs hcs =>
      obtain ⟨v, hv, rfl⟩ := Option.map_eq_some_iff.1 h
      obtain ⟨hashes, rest, rfl, hhashes, hrest⟩ := unquoteRaw_eq_some.1 hv
      exact hcs ▸ .raw hhashes hrest
    · cases h
  · intro h
    cases h with
    | plain hbody => simp [unquote, hbody.unescape_eq]
    | raw hhashes hrest => simp [unquote, unquoteRaw_eq_some.2 ⟨_, _, rfl, hhashes, hrest⟩]

end FetchKit.Text
