import FetchKit.Address.Parse
import Mathlib.Tactic.SplitIfs

/-!
# What a scheme decides

An address with a scheme is read without its base, unless the base has the same scheme, that scheme
is special and fewer than two slashes follow it. Then it is read as what stands after its colon.
-/

namespace FetchKit.Address

/-! ## Query and fragment come last -/

theorem withTail_cases (u : Url) (rest : List Char) :
    ∃ query fragment, withTail u rest = { u with query, fragment } := by
  unfold withTail
  split
  · dsimp only
    split
    · exact ⟨_, _, rfl⟩
    · exact ⟨_, _, rfl⟩
  · exact ⟨_, _, rfl⟩
  · exact ⟨_, _, rfl⟩

@[simp]
theorem withTail_scheme (u : Url) (rest : List Char) : (withTail u rest).scheme = u.scheme := by
  obtain ⟨query, fragment, h⟩ := withTail_cases u rest
  rw [h]

@[simp]
theorem withTail_authority (u : Url) (rest : List Char) :
    (withTail u rest).authority = u.authority := by
  obtain ⟨query, fragment, h⟩ := withTail_cases u rest
  rw [h]

@[simp]
theorem withTail_path (u : Url) (rest : List Char) : (withTail u rest).path = u.path := by
  obtain ⟨query, fragment, h⟩ := withTail_cases u rest
  rw [h]

/-! ## The scheme is kept -/

theorem eq_of_ofText_file {scheme : List Char} (h : SchemeKind.ofText scheme = .file) :
    scheme = "file".toList := by
  unfold SchemeKind.ofText at h
  split at h <;> cases h
  next hscheme => rw [← hscheme, String.toList_ofList]

theorem readAuthority_eq_ok {scheme cs : List Char} {u : Url} (h : readAuthority scheme cs = .ok u) :
    ∃ authority rest, u = withTail
      { scheme, authority := some authority
        path := .segments (pathAfterAuthority (.ofText scheme) rest) } (afterPath rest) := by
  unfold readAuthority at h
  dsimp only at h
  split_ifs at h
  split at h
  · cases h
  · split_ifs at h
    cases h
    exact ⟨_, _, rfl⟩

theorem readOther_scheme {scheme cs : List Char} {u : Url} (h : readOther scheme cs = .ok u) :
    u.scheme = scheme := by
  unfold readOther at h
  split at h
  · obtain ⟨authority, rest, rfl⟩ := readAuthority_eq_ok h
    simp
  · cases h
    simp
  · cases h
    simp

theorem fileUrl_scheme (authority : Authority) (path : List (List Char)) (rest : List Char) :
    (fileUrl authority path rest).scheme = "file".toList := by
  simp [fileUrl]

theorem readFileAuthority_scheme {cs : List Char} {u : Url} (h : readFileAuthority cs = .ok u) :
    u.scheme = "file".toList := by
  unfold readFileAuthority at h
  split at h
  · cases h
  · cases h
    exact fileUrl_scheme _ _ _
  · cases h
    exact fileUrl_scheme _ _ _

theorem readRootedFile_none_scheme (cs : List Char) :
    (readRootedFile none cs).scheme = "file".toList := by
  simp [readRootedFile, fileUrl_scheme]

theorem readFile_none_scheme {cs : List Char} {u : Url} (h : readFile none cs = .ok u) :
    u.scheme = "file".toList := by
  unfold readFile at h
  split at h
  · split at h
    · split at h
      · split at h
        · exact readFileAuthority_scheme h
        · cases h
          exact readRootedFile_none_scheme _
      · cases h
        exact readRootedFile_none_scheme _
    · cases h
      exact fileUrl_scheme _ _ _
  · cases h
    exact fileUrl_scheme _ _ _

theorem readWithScheme_none_scheme {scheme raw : List Char} {u : Url}
    (h : readWithScheme none scheme raw = .ok u) : u.scheme = scheme := by
  unfold readWithScheme at h
  split at h
  · next hfile => rw [readFile_none_scheme h, eq_of_ofText_file hfile]
  · exact readOther_scheme h
  · obtain ⟨authority, rest, rfl⟩ := readAuthority_eq_ok h
    simp

/-! ## Two slashes lead away from the base -/

/-- How many slashes stand at the front, where tabs and ends of lines do not count. -/
def leadingSlashes (raw : List Char) : Nat := ((clean raw).takeWhile isSlash).length

theorem dropWhile_of_clean {raw cs : List Char} {c : Char} (h : clean raw = c :: cs) :
    ∃ rest, raw.dropWhile isSkipped = c :: rest ∧ clean rest = cs := by
  obtain ⟨skipped, rest, rfl, hskipped, hc, hrest⟩ := List.filter_eq_cons_iff.1 h
  refine ⟨rest, ?_, hrest⟩
  rw [List.dropWhile_append_of_pos (by simpa using hskipped), List.dropWhile_cons_of_neg (by simpa using hc)]

theorem two_le_leadingSlashes {raw : List Char} (h : 2 ≤ leadingSlashes raw) :
    ∃ c d rest more, raw.dropWhile isSkipped = c :: rest ∧ isSlash c = true ∧
      rest.dropWhile isSkipped = d :: more ∧ isSlash d = true := by
  unfold leadingSlashes at h
  cases hraw : clean raw with
  | nil => simp [hraw] at h
  | cons c cs =>
    obtain ⟨rest, hdrop, hrest⟩ := dropWhile_of_clean hraw
    cases hcs : cs with
    | nil =>
      rw [hraw, hcs, List.takeWhile_cons] at h
      split at h <;> simp at h
    | cons d ds =>
      obtain ⟨more, hdrop', -⟩ := dropWhile_of_clean (hrest.trans hcs)
      rw [hraw, hcs, List.takeWhile_cons, List.takeWhile_cons] at h
      split at h
      · split at h
        · exact ⟨c, d, rest, more, hdrop, ‹_›, hdrop', ‹_›⟩
        · simp at h
      · simp at h

theorem readFile_base {raw : List Char} (h : 2 ≤ leadingSlashes raw) (base : Option Url) :
    readFile base raw = readFile none raw := by
  obtain ⟨c, d, rest, more, hraw, hc, hrest, hd⟩ := two_le_leadingSlashes h
  simp [readFile, hraw, hc, hrest, hd]

theorem readWithScheme_base {base : Url} {scheme raw : List Char}
    (h : base.scheme ≠ scheme ∨ SchemeKind.ofText scheme = .other ∨ 2 ≤ leadingSlashes raw) :
    readWithScheme (some base) scheme raw = readWithScheme none scheme raw := by
  unfold readWithScheme
  cases hkind : SchemeKind.ofText scheme with
  | other => rfl
  | file =>
    rcases h with h | h | h
    · simp [Option.filter, h]
    · simp [hkind] at h
    · exact readFile_base h _
  | special port =>
    have hcond : (leadingSlashes raw < 2 && base.scheme = scheme) = false := by
      rcases h with h | h | h
      · simp [h]
      · simp [hkind] at h
      · simp [Nat.not_lt.2 h]
    exact if_neg (ne_true_of_eq_false hcond)

/-! ## One slash or none stays with the base -/

theorem readRelative_authority {cs : List Char} (h : (cs.takeWhile isSlash).length < 2)
    (base : Url) : ∃ u, readRelative base cs = .ok u ∧ u.scheme = base.scheme ∧
      u.authority = base.authority := by
  unfold readRelative
  dsimp only
  split
  · exact ⟨_, rfl, rfl, rfl⟩
  · next c rest =>
    split_ifs with hquery hfragment hslash
    · exact ⟨_, rfl, by simp⟩
    · exact ⟨_, rfl, rfl, rfl⟩
    · split
      · next d more =>
        have hd : isSlash d = false := by
          cases hd : isSlash d with
          | false => rfl
          | true =>
            simp only [List.takeWhile_cons, hslash, hd, if_true, List.length_cons] at h
            omega
        simp [hd]
      · exact ⟨_, rfl, by simp⟩
    · exact ⟨_, rfl, by simp⟩

/-! ## Whole addresses -/

/-- What stands after the first colon. -/
def afterScheme (s : String) : List Char := ((trim isTrimmed s.toList).dropWhile (· != ':')).drop 1

theorem join_of_parse {s : String} {w : Url} (h : Url.parse s = .ok w) (base : Url) :
    readWithScheme none w.scheme (afterScheme s) = .ok w ∧
      base.join s = readWithScheme (some base) w.scheme (afterScheme s) := by
  unfold Url.parse read at h
  dsimp only at h
  split at h
  · next scheme rest hsplit =>
    obtain rfl := readWithScheme_none_scheme h
    refine ⟨h, ?_⟩
    simp [Url.join, read, hsplit, afterScheme]
  · cases h

theorem join_of_standing {s : String} {w base : Url} (h : Url.parse s = .ok w)
    (hbase : base.scheme ≠ w.scheme ∨ w.kind = .other ∨ 2 ≤ leadingSlashes (afterScheme s)) :
    base.join s = .ok w := by
  obtain ⟨hread, hjoin⟩ := join_of_parse h base
  rw [hjoin, readWithScheme_base hbase, hread]

theorem join_of_leaning {s : String} {w base : Url} {port : Nat} (h : Url.parse s = .ok w)
    (hscheme : base.scheme = w.scheme) (hkind : w.kind = .special port)
    (hslashes : leadingSlashes (afterScheme s) < 2) :
    ∃ u, base.join s = .ok u ∧ u.scheme = base.scheme ∧ u.authority = base.authority := by
  obtain ⟨-, hjoin⟩ := join_of_parse h base
  have hspecial : SchemeKind.ofText w.scheme = .special port := hkind
  unfold leadingSlashes at hslashes
  have hrelative : base.join s = readRelative base (clean (afterScheme s)) := by
    rw [hjoin]
    simp [readWithScheme, hspecial, hslashes, hscheme]
  rw [hrelative]
  exact readRelative_authority hslashes base

end FetchKit.Address
