import Mathlib.Data.Nat.Digits.Defs
import FetchKit.Proofs.Source.Splits

/-!
# The value of a whole number

A whole number is written with digits of some base, and marks among them that count for nothing.
-/

namespace FetchKit.Source

open FetchKit.Text

/-- What a whole number starts with tells its base. -/
def bases : List (Nat × List Char) := [(16, ['0', 'x']), (8, ['0', 'o']), (2, ['0', 'b']), (10, [])]

/-- The digits, marks apart, in this base. -/
def IsDigits (base : Nat) (digits : List Char) (ds : List Nat) : Prop :=
  (digits.filter (· != '_')).map hexValue = ds.map some ∧ ∀ d ∈ ds, d < base

/-- The text is that of a whole number without a suffix, and this is its value. -/
def Denotes (text : String) (n : Nat) : Prop :=
  ∃ base lead digits ds, (base, lead) ∈ bases ∧ text.toList = lead ++ digits ∧
    IsDigits base digits ds ∧ ds ≠ [] ∧ n = Nat.ofDigits base ds.reverse

theorem scanDigits_isDigits {base : Nat} {cs : List Char} {s : Split}
    (h : scanDigits base cs = some s) : ∃ ds, IsDigits base s.1 ds := by
  induction cs generalizing s with
  | nil =>
    cases h
    exact ⟨[], rfl, by simp⟩
  | cons c cs ih =>
    simp only [scanDigits] at h
    split at h
    · next hmark =>
      obtain ⟨t, ht, rfl⟩ := Option.map_eq_some_iff.1 h
      obtain ⟨ds, hds, hlt⟩ := ih ht
      exact ⟨ds, by simpa [Split.after, hmark] using hds, hlt⟩
    · next hmark =>
      split at h
      · next d hd =>
        split at h
        · next hbase =>
          obtain ⟨t, ht, rfl⟩ := Option.map_eq_some_iff.1 h
          obtain ⟨ds, hds, hlt⟩ := ih ht
          refine ⟨d :: ds, ?_, List.forall_mem_cons.2 ⟨hbase, hlt⟩⟩
          simpa [Split.after, hmark, hd] using hds
        · split at h
          · cases h
          · cases h
            exact ⟨[], rfl, by simp⟩
      · cases h
        exact ⟨[], rfl, by simp⟩

theorem valueOfDigits_eq {base : Nat} {digits : List Char} {ds : List Nat}
    (h : (digits.filter (· != '_')).map hexValue = ds.map some) :
    valueOfDigits base digits = Nat.ofDigits base ds.reverse := by
  rw [Nat.ofDigits_eq_foldr, List.foldr_reverse]
  unfold valueOfDigits
  generalize 0 = value
  induction digits generalizing ds value with
  | nil =>
    cases ds with
    | nil => rfl
    | cons d ds => simp at h
  | cons c digits ih =>
    rw [List.foldl_cons]
    by_cases hmark : c = '_'
    · subst hmark
      exact ih (by simpa using h) value
    · cases ds with
      | nil => simp [hmark] at h
      | cons d ds =>
        obtain ⟨hd, hds⟩ : hexValue c = some d ∧
            (digits.filter (· != '_')).map hexValue = ds.map some := by simpa [hmark] using h
        rw [hd, ih hds]
        simp [Nat.add_comm]

theorem denotes_of_scanDigits {text : String} {n base : Nat} {lead rest digits suffix : List Char}
    (hbase : (base, lead) ∈ bases) (htext : text.toList = lead ++ rest)
    (hscan : scanDigits base rest = some (digits, suffix))
    (h : (if digits.any (· != '_') then some (valueOfDigits base digits, String.ofList suffix)
      else none) = some (n, "")) : Denotes text n := by
  split at h
  · next hsome =>
    obtain ⟨hvalue, hsuffix⟩ : valueOfDigits base digits = n ∧ suffix = [] := by simpa using h
    obtain ⟨ds, hds⟩ := scanDigits_isDigits hscan
    have hsplit : digits ++ suffix = rest := scanDigits_of hscan
    refine ⟨base, lead, digits, ds, hbase, ?_, hds, ?_, ?_⟩
    · rw [htext, ← hsplit, hsuffix, List.append_nil]
    · rintro rfl
      obtain ⟨c, hc, hmark⟩ := List.any_eq_true.1 hsome
      have hnone : digits.filter (· != '_') = [] := List.map_eq_nil_iff.1 hds.1
      exact List.filter_eq_nil_iff.1 hnone c hc hmark
    · rw [← hvalue, valueOfDigits_eq hds.1]
  · cases h

theorem integer?_denotes {text : String} {n : Nat} (h : integer? text = some (n, "")) :
    Denotes text n := by
  unfold integer? at h
  dsimp only at h
  split at h
  · next rest htext =>
    split at h
    · next hscan => exact denotes_of_scanDigits (by decide : (16, ['0', 'x']) ∈ bases) htext hscan h
    · cases h
  · next rest htext =>
    split at h
    · next hscan => exact denotes_of_scanDigits (by decide : (8, ['0', 'o']) ∈ bases) htext hscan h
    · cases h
  · next rest htext =>
    split at h
    · next hscan => exact denotes_of_scanDigits (by decide : (2, ['0', 'b']) ∈ bases) htext hscan h
    · cases h
  · split at h
    · split at h
      · next hscan => exact denotes_of_scanDigits (by decide : (10, []) ∈ bases) rfl hscan h
      · cases h
    · cases h
  · cases h

end FetchKit.Source
