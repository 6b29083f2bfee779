import FetchKit.Proofs.Text.Quoted
import FetchKit.Request.Arguments

/-!
# Which arguments are read

Arguments are accepted exactly when they are a list of well-formed entries, and the last entry of a
key gives its value.
-/

namespace FetchKit.Request

open FetchKit.Source FetchKit.Grammar

/-! ## Entries -/

/-- The trees of one entry, and what the entry says. -/
inductive IsEntry : List Tree → Entry → Prop
  | url {key joint place text span value} (hkey : key.isWord "url" = true)
    (htext : Text.IsStringLiteral text value) :
    IsEntry [.ident key, .punct '=' joint place, .literal text span] (.url value)
  | name {key joint place text span value i} (hkey : key.isWord "name" = true)
    (htext : Text.IsStringLiteral text value) (hscan : scan value = some [.ident i])
    (hname : i.isName = true) :
    IsEntry [.ident key, .punct '=' joint place, .literal text span] (.name { i with span })

/-- Entries with commas between them, and maybe after the last. -/
inductive Entries : List Tree → List Entry → Prop
  | nil : Entries [] []
  | last {piece e} (he : IsEntry piece e) : Entries piece [e]
  | more {piece e joint span rest es} (he : IsEntry piece e) (hes : Entries rest es) :
    Entries (piece ++ .punct ',' joint span :: rest) (e :: es)

def Entry.url? : Entry → Option String
  | url value => some value
  | name _ => none

def Entry.name? : Entry → Option Ident
  | url _ => none
  | name i => some i

/-! ## Reading one entry -/

theorem readLeading_false {ts rest : List Tree} (h : readLeading ts = (false, rest)) : ts = rest := by
  unfold readLeading at h
  split at h
  · cases h
  · cases h
    rfl

theorem readMore_nil {ts left : List Tree} (h : readMore ts = .ok ([], left)) : ts = left := by
  unfold readMore at h
  split at h
  · split at h
    · split at h
      · cases h
      · cases h
    · cases h
  · cases h
    rfl

theorem readKey_sound {ts left : List Tree} {key : Key} (h : readKey ts = .ok (key, left))
    (hleading : key.leading = false) (hmore : key.more = []) : ts = .ident key.first :: left := by
  unfold readKey at h
  match hl : readLeading ts with
  | (leading, rest) =>
    rw [hl] at h
    simp only at h
    split at h
    · next first rest =>
      split at h
      · next more left hm =>
        cases h
        simp only at hleading hmore
        subst hleading hmore
        rw [readLeading_false hl, readMore_nil hm]
      · cases h
    · cases h
    · split at h
      · cases h
      · cases h

theorem readText_sound {ts left : List Tree} {value : String} {span : Span}
    (h : readText ts = .ok (value, span, left)) :
    ∃ joint place text, ts = .punct '=' joint place :: .literal text span :: left ∧
      Text.IsStringLiteral text value := by
  unfold readText at h
  split at h
  · next joint place rest =>
    split at h
    · next text span left =>
      split at h
      · next value htext =>
        cases h
        exact ⟨joint, place, text, rfl, Text.unquote_eq_some_iff.1 htext⟩
      · cases h
    · cases h
  · cases h

theorem functionName_eq_some {value : String} {i : Ident} :
    functionName value = some i ↔ scan value = some [.ident i] ∧ i.isName = true := by
  unfold functionName
  constructor
  · intro h
    split at h
    · next hscan =>
      split at h
      · next hname =>
        cases h
        exact ⟨hscan, hname⟩
      · cases h
    · cases h
  · rintro ⟨hscan, hname⟩
    simp [hscan, hname]

theorem readEntry_sound {ts left : List Tree} {e : Entry} (h : readEntry ts = .ok (e, left)) :
    ∃ piece, ts = piece ++ left ∧ IsEntry piece e := by
  unfold readEntry at h
  split at h
  · cases h
  next key rest hkey =>
  split at h
  · cases h
  next hplain =>
  simp only [Bool.or_eq_true, Bool.not_eq_true', List.isEmpty_eq_false_iff, not_or,
    Bool.not_eq_true, ne_eq, Decidable.not_not] at hplain
  have hts := readKey_sound hkey hplain.1 hplain.2
  split at h
  · next hurl =>
    split at h
    · next value span left htext =>
      cases h
      obtain ⟨joint, place, text, rfl, hvalue⟩ := readText_sound htext
      exact ⟨[_, _, _], hts, .url hurl hvalue⟩
    · cases h
  · split at h
    · next hname =>
      split at h
      · next value span left htext =>
        split at h
        · next i hi =>
          cases h
          obtain ⟨joint, place, text, rfl, hvalue⟩ := readText_sound htext
          obtain ⟨hscan, hi⟩ := functionName_eq_some.1 hi
          exact ⟨[_, _, _], hts, .name hname hvalue hscan hi⟩
        · cases h
      · cases h
    · cases h

theorem isWord_of_isWord {i : Ident} {v : String} (h : i.isWord v = true) (w : String) :
    i.isWord w = (v == w) := by
  simp only [Ident.isWord, Bool.and_eq_true, beq_iff_eq] at h
  simp [Ident.isWord, h.1, h.2]

theorem IsEntry.readEntry_eq {piece : List Tree} {e : Entry} (h : IsEntry piece e)
    (left : List Tree) : readEntry (piece ++ left) = .ok (e, left) := by
  cases h with
  | url hkey htext =>
    have hvalue := Text.unquote_eq_some_iff.2 htext
    simp [readEntry, readKey, readLeading, readMore, readText, hkey, hvalue]
  | name hkey htext hscan hname =>
    have hurl := isWord_of_isWord hkey "url"
    have hvalue := Text.unquote_eq_some_iff.2 htext
    simp [readEntry, readKey, readLeading, readMore, readText, hkey, hurl, hvalue,
      functionName_eq_some.2 ⟨hscan, hname⟩]

theorem IsEntry.isEmpty_append {piece : List Tree} {e : Entry} (h : IsEntry piece e)
    (left : List Tree) : (piece ++ left).isEmpty = false := by
  cases h with
  | url => rfl
  | name => rfl

/-! ## Reading all entries -/

theorem readEntries_sound {ts : List Tree} {es : List Entry} (h : readEntries ts = .ok es) :
    Entries ts es := by
  fun_induction readEntries ts generalizing es with
  | case1 ts hts =>
    cases h
    rw [List.isEmpty_iff.1 hts]
    exact .nil
  | case2 => cases h
  | case3 ts hts e he =>
    cases h
    obtain ⟨piece, hpiece, hentry⟩ := readEntry_sound he
    rw [hpiece, List.append_nil]
    exact .last hentry
  | case4 ts hts e joint span left he hlt es' hes ih =>
    cases h
    obtain ⟨piece, rfl, hentry⟩ := readEntry_sound he
    exact .more hentry (ih hes)
  | case5 => cases h
  | case6 ts hts e joint span left he hlt =>
    -- An entry is never empty, so what is left is shorter.
    obtain ⟨piece, rfl, hentry⟩ := readEntry_sound he
    simp at hlt
    omega
  | case7 => cases h

theorem Entries.readEntries_eq {ts : List Tree} {es : List Entry} (h : Entries ts es) :
    readEntries ts = .ok es := by
  induction h with
  | nil =>
    rw [readEntries]
    rfl
  | @last piece e he =>
    have hread := he.readEntry_eq []
    have hne := he.isEmpty_append []
    rw [List.append_nil] at hread hne
    rw [readEntries, hne, hread]
    rfl
  | @more piece e joint span rest es he hes ih =>
    have hlt : rest.length < (piece ++ .punct ',' joint span :: rest).length := by
      simp
      omega
    rw [readEntries, he.isEmpty_append, he.readEntry_eq]
    simp only [Bool.false_eq_true, if_false, hlt, if_true, ih]

/-! ## The last entry of a key -/

theorem foldl_apply_url (es : List Entry) (a : Arguments) :
    (es.foldl Entry.apply a).url = (es.filterMap Entry.url?).getLast?.getD a.url := by
  induction es generalizing a with
  | nil => rfl
  | cons e es ih =>
    rw [List.foldl_cons, ih]
    cases e with
    | url value => simp [Entry.apply, Entry.url?, List.getLast?_cons]
    | name i => simp [Entry.apply, Entry.url?]

theorem foldl_apply_name (es : List Entry) (a : Arguments) :
    (es.foldl Entry.apply a).name = (es.filterMap Entry.name?).getLast?.getD a.name := by
  induction es generalizing a with
  | nil => rfl
  | cons e es ih =>
    rw [List.foldl_cons, ih]
    cases e with
    | url value => simp [Entry.apply, Entry.name?]
    | name i => simp [Entry.apply, Entry.name?, List.getLast?_cons]

theorem ofEntries_eq (es : List Entry) : Arguments.ofEntries es =
    { url := (es.filterMap Entry.url?).getLast?.getD "https://api/get"
      name := (es.filterMap Entry.name?).getLast?.getD ⟨"get_request", false, .callSite⟩ } := by
  have hurl := foldl_apply_url es {}
  have hname := foldl_apply_name es {}
  unfold Arguments.ofEntries
  generalize es.foldl Entry.apply {} = a at hurl hname
  cases a
  simp_all

/-- Arguments are read exactly when they are a list of entries. The last entry of a key counts, and
a key without an entry has its default. -/
theorem parse_eq_ok_iff (ts : List Tree) (a : Arguments) :
    Arguments.parse ts = .ok a ↔ ∃ es, Entries ts es ∧ a =
      { url := (es.filterMap Entry.url?).getLast?.getD "https://api/get"
        name := (es.filterMap Entry.name?).getLast?.getD ⟨"get_request", false, .callSite⟩ } := by
  unfold Arguments.parse
  constructor
  · intro h
    cases hes : readEntries ts with
    | error f => simp [hes] at h
    | ok es =>
      rw [hes] at h
      cases h
      exact ⟨es, readEntries_sound hes, ofEntries_eq es⟩
  · rintro ⟨es, hes, rfl⟩
    rw [hes.readEntries_eq, ← ofEntries_eq]

end FetchKit.Request
