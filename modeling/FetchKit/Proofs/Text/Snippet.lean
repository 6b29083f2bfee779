import FetchKit.Text.Snippet

/-!
# How much of a text a snippet shows

A text within the limit is shown whole. Of a longer one the first characters are shown and the mark
after them, so a snippet has at most one character more than its limit. That one character is why a
snippet is cut again at its own limit, where it gets back the mark that it loses. A snippet of a
snippet is thus the snippet of the text at the smaller limit.
-/

namespace FetchKit.Text

theorem snippet_of_le {cs : List Char} {limit : Nat} (h : cs.length ≤ limit) :
    snippet cs limit = cs := if_pos h

theorem snippet_of_lt {cs : List Char} {limit : Nat} (h : limit < cs.length) :
    snippet cs limit = cs.take limit ++ [ellipsis] := if_neg (Nat.not_le.2 h)

theorem length_snippet_of_lt {cs : List Char} {limit : Nat} (h : limit < cs.length) :
    (snippet cs limit).length = limit + 1 := by
  rw [snippet_of_lt h, List.length_append, List.length_take_of_le (Nat.le_of_lt h)]
  rfl

theorem length_snippet_le (cs : List Char) (limit : Nat) :
    (snippet cs limit).length ≤ limit + 1 := by
  rcases Nat.lt_or_ge limit cs.length with h | h
  · exact Nat.le_of_eq (length_snippet_of_lt h)
  · rw [snippet_of_le h]
    omega

theorem snippet_append {cs : List Char} {limit : Nat} (h : limit < cs.length) (rest : List Char) :
    snippet (cs ++ rest) limit = cs.take limit ++ [ellipsis] := by
  have hlong : limit < (cs ++ rest).length := by
    rw [List.length_append]
    omega
  rw [snippet_of_lt hlong, List.take_append_of_le_length (Nat.le_of_lt h)]

/-! ## A snippet of a snippet -/

theorem snippet_congr {cs ds : List Char} {limit : Nat}
    (hmore : limit < cs.length ↔ limit < ds.length) (htake : cs.take limit = ds.take limit) :
    snippet cs limit = snippet ds limit := by
  rcases Nat.lt_or_ge limit cs.length with h | h
  · rw [snippet_of_lt h, snippet_of_lt (hmore.1 h), htake]
  · have hds : ds.length ≤ limit := by omega
    rw [List.take_of_length_le h, List.take_of_length_le hds] at htake
    rw [htake]

theorem take_snippet (cs : List Char) {m n : Nat} (h : n ≤ m) :
    (snippet cs m).take n = cs.take n := by
  rcases Nat.lt_or_ge m cs.length with hcut | hwhole
  · have hbefore : n ≤ (cs.take m).length := by
      rw [List.length_take_of_le (Nat.le_of_lt hcut)]
      exact h
    rw [snippet_of_lt hcut, List.take_append_of_le_length hbefore, List.take_take,
      Nat.min_eq_left h]
  · rw [snippet_of_le hwhole]

theorem lt_length_snippet_iff (cs : List Char) {m n : Nat} (h : n ≤ m) :
    n < (snippet cs m).length ↔ n < cs.length := by
  rcases Nat.lt_or_ge m cs.length with hcut | hwhole
  · -- Both sides hold, at `n = m` because of the mark alone.
    rw [length_snippet_of_lt hcut]
    omega
  · rw [snippet_of_le hwhole]

theorem snippet_snippet_of_le (cs : List Char) {m n : Nat} (h : n ≤ m) :
    snippet (snippet cs m) n = snippet cs n :=
  snippet_congr (lt_length_snippet_iff cs h) (take_snippet cs h)

theorem snippet_snippet_of_ge (cs : List Char) {m n : Nat} (h : m ≤ n) :
    snippet (snippet cs m) n = snippet cs m := by
  rcases Nat.eq_or_lt_of_le h with rfl | hlt
  · exact snippet_snippet_of_le cs (Nat.le_refl m)
  · apply snippet_of_le
    exact Nat.le_trans (length_snippet_le cs m) hlt

theorem snippet_snippet (cs : List Char) (m n : Nat) :
    snippet (snippet cs m) n = snippet cs (min m n) := by
  rcases Nat.le_total m n with h | h
  · rw [Nat.min_eq_left h, snippet_snippet_of_ge cs h]
  · rw [Nat.min_eq_right h, snippet_snippet_of_le cs h]

/-- A snippet of a snippet is the snippet of the text at the smaller limit. So a snippet stays as it
is at its own limit and at every larger one, and a text that was cut has one mark after what is left
of it, at every limit. -/
theorem snippets_compose (cs : List Char) (m n : Nat) :
    snippet (snippet cs m) n = snippet cs (min m n) ∧
      snippet (snippet cs m) m = snippet cs m ∧
      (m ≤ n → snippet (snippet cs m) n = snippet cs m) ∧
      (m < cs.length → snippet (snippet cs m) n = cs.take (min m n) ++ [ellipsis]) := by
  refine ⟨snippet_snippet cs m n, snippet_snippet_of_le cs (Nat.le_refl m),
    snippet_snippet_of_ge cs, ?_⟩
  intro hcut
  have hshort : min m n < cs.length := Nat.lt_of_le_of_lt (Nat.min_le_left m n) hcut
  rw [snippet_snippet, snippet_of_lt hshort]

/-- A text with the mark in it, cut after two characters, then at the largest limit of 64 bits and at
none. -/
theorem snippets_compose_marked :
    let cs := ['a', '…', 'b', 'c']
    snippet (snippet cs 2) 0xFFFFFFFFFFFFFFFF = snippet cs 2 ∧
      snippet (snippet cs 2) 0xFFFFFFFFFFFFFFFF = ['a', '…', '…'] ∧
      snippet (snippet cs 2) 0 = ['…'] := by
  intro cs
  have hcut : 2 < cs.length := by decide
  obtain ⟨-, -, hkept, hlast⟩ := snippets_compose cs 2 0xFFFFFFFFFFFFFFFF
  obtain ⟨-, -, -, hfirst⟩ := snippets_compose cs 2 0
  exact ⟨hkept (by decide), hlast hcut, hfirst hcut⟩

end FetchKit.Text
