import FetchKit.Address.Parse
import Mathlib.Data.List.Basic

/-!
# Walking along a path

Outside of files, a walk leaves segments behind that have no slash in them, and it never ends with
none. A segment that is written as it stands is put behind those that came before it.
-/

namespace FetchKit.Address

/-! ## Encoded characters -/

theorem percentEncode_eq_self {inSet : Char → Bool} {cs : List Char}
    (h : ∀ c ∈ cs, inSet c = false) : percentEncode inSet cs = cs := by
  induction cs with
  | nil => rfl
  | cons c cs ih =>
    have hrest := ih fun d hd => h d (List.mem_cons_of_mem c hd)
    unfold percentEncode at hrest ⊢
    rw [List.flatMap_cons, hrest, h c List.mem_cons_self]
    rfl

theorem upperHexDigit_ne_slash {n : Nat} (h : n < 16) : upperHexDigit n ≠ '/' := by
  revert n
  decide

theorem slash_not_mem_encodeByte (b : UInt8) : '/' ∉ encodeByte b := by
  have hb : b.toNat < 256 := b.toNat_lt
  have hhigh := upperHexDigit_ne_slash (n := b.toNat / 16) (by omega)
  have hlow := upperHexDigit_ne_slash (n := b.toNat % 16) (by omega)
  simp [encodeByte, hhigh.symm, hlow.symm]

theorem slash_not_mem_percentEncode {inSet : Char → Bool} {cs : List Char} (h : '/' ∉ cs) :
    '/' ∉ percentEncode inSet cs := by
  intro hmem
  obtain ⟨c, hc, hmem⟩ := List.mem_flatMap.1 hmem
  split at hmem
  · obtain ⟨b, -, hb⟩ := List.mem_flatMap.1 hmem
    exact slash_not_mem_encodeByte b hb
  · exact h (List.mem_singleton.1 hmem ▸ hc)

/-! ## Segments of a text -/

theorem forall_mem_splitOnP {α : Type} (p : α → Bool) (xs : List α) :
    ∀ s ∈ xs.splitOnP p, ∀ x ∈ s, p x = false := by
  induction xs with
  | nil => simp
  | cons x xs ih =>
    rw [List.splitOnP_cons_eq_if_modifyHead]
    split
    · simpa using ih
    · next hx =>
      cases hsplit : xs.splitOnP p with
      | nil => simp
      | cons s more =>
        rw [hsplit] at ih
        simp only [List.modifyHead_cons, List.forall_mem_cons] at ih ⊢
        exact ⟨⟨by simpa using hx, ih.1⟩, ih.2⟩

theorem slash_not_mem_rawSegments {k : SchemeKind} {cs raw : List Char} (h : raw ∈ rawSegments k cs) :
    '/' ∉ raw := by
  intro hslash
  have hends := forall_mem_splitOnP (endsSegment k) cs raw h '/' hslash
  simp [endsSegment] at hends

/-! ## One segment, then many -/

/-- Nothing stands in the place of the next segment, and no segment has a slash in it. -/
structure Trail.Clear (t : Trail) : Prop where
  stem : t.stem = []
  behind : ∀ s ∈ t.behind, '/' ∉ s

namespace Trail

theorem clear_start : ({} : Trail).Clear := ⟨rfl, by simp⟩

theorem settle_of_stem {t : Trail} (h : t.stem = []) : t.settle = t := by
  simp [settle, h]

theorem push_of_stem {k : SchemeKind} (hk : k ≠ .file) {t : Trail} (h : t.stem = []) (s : List Char) :
    t.push k s = { t with behind := s :: t.behind } := by
  cases t
  simp_all [push]

theorem goUp_cases (t : Trail) : t.goUp = t ∨ ∃ s more, t.behind = s :: more ∧
    t.goUp = { t with behind := more } := by
  unfold goUp
  split
  · next s more h =>
    split
    · exact .inl rfl
    · exact .inr ⟨s, more, h, rfl⟩
  · exact .inl rfl

theorem Clear.goUp {t : Trail} (h : t.Clear) : t.goUp.Clear := by
  rcases t.goUp_cases with hup | ⟨s, more, hbehind, hup⟩
  · rwa [hup]
  · rw [hup]
    exact ⟨h.stem, fun r hr => h.behind r (by simp [hbehind, hr])⟩

theorem Clear.push {k : SchemeKind} (hk : k ≠ .file) {t : Trail} (h : t.Clear) {s : List Char}
    (hs : '/' ∉ s) : (t.push k s).Clear := by
  rw [push_of_stem hk h.stem]
  refine ⟨h.stem, ?_⟩
  simpa using ⟨hs, h.behind⟩

theorem push_behind_ne_nil {k : SchemeKind} (t : Trail) (s : List Char) :
    (t.push k s).behind ≠ [] := by
  unfold Trail.push
  split <;> simp

end Trail

theorem pushSegment_cases {k : SchemeKind} (hk : k ≠ .file) {t : Trail} (ht : t.stem = [])
    (raw : List Char) (isLast : Bool) :
    (∃ u, (u = t ∨ u = t.goUp) ∧
      (isLast = false ∧ pushSegment k t raw isLast = u ∨ pushSegment k t raw isLast = u.push k [])) ∨
      pushSegment k t raw isLast = t.push k (percentEncode inPathSet (clean raw)) := by
  unfold pushSegment
  dsimp only
  split
  · left
    refine ⟨t, .inl rfl, ?_⟩
    cases isLast <;> simp [Trail.settle_of_stem ht]
  · left
    refine ⟨t.goUp, .inr rfl, ?_⟩
    cases isLast <;> simp [ht]
  · right
    simp [hk]

theorem pushSegment_clear {k : SchemeKind} (hk : k ≠ .file) {t : Trail} (ht : t.Clear)
    {raw : List Char} (hraw : '/' ∉ raw) (isLast : Bool) :
    (pushSegment k t raw isLast).Clear ∧
      (isLast = true → (pushSegment k t raw isLast).behind ≠ []) := by
  rcases pushSegment_cases hk ht.stem raw isLast with ⟨u, hu, hstep⟩ | hstep
  · have hclear : u.Clear := by
      rcases hu with rfl | rfl
      · exact ht
      · exact ht.goUp
    rcases hstep with ⟨hlast, hstep⟩ | hstep
    · rw [hstep]
      exact ⟨hclear, by simp [hlast]⟩
    · rw [hstep]
      exact ⟨hclear.push hk (by simp), fun _ => Trail.push_behind_ne_nil _ _⟩
  · rw [hstep]
    have hclean : '/' ∉ clean raw := fun h => hraw (List.mem_of_mem_filter h)
    exact ⟨ht.push hk (slash_not_mem_percentEncode hclean), fun _ => Trail.push_behind_ne_nil _ _⟩

theorem pushSegments_clear {k : SchemeKind} (hk : k ≠ .file) {t : Trail} (ht : t.Clear)
    {raws : List (List Char)} (hraws : ∀ raw ∈ raws, '/' ∉ raw) (hne : raws ≠ []) :
    (pushSegments k t raws).Clear ∧ (pushSegments k t raws).behind ≠ [] := by
  induction raws generalizing t with
  | nil => exact absurd rfl hne
  | cons raw more ih =>
    have hraw := hraws raw List.mem_cons_self
    have hmore : ∀ r ∈ more, '/' ∉ r := fun r hr => hraws r (List.mem_cons_of_mem raw hr)
    cases more with
    | nil =>
      obtain ⟨hclear, hlast⟩ := pushSegment_clear hk ht hraw true
      exact ⟨hclear, hlast rfl⟩
    | cons next more =>
      exact ih (pushSegment_clear hk ht hraw false).1 hmore (by simp)

theorem path_of_not_file {k : SchemeKind} (hk : k ≠ .file) (t : Trail) :
    t.path k = t.behind.reverse := by
  simp [Trail.path, tidy, hk]

theorem walk_clear {k : SchemeKind} (hk : k ≠ .file) {t : Trail} (ht : t.Clear) (cs : List Char) :
    walk k t cs ≠ [] ∧ ∀ s ∈ walk k t cs, '/' ∉ s := by
  obtain ⟨hclear, hne⟩ := pushSegments_clear hk ht (fun _ h => slash_not_mem_rawSegments h)
    (List.splitOnP_ne_nil (endsSegment k) (cs.takeWhile (!endsPath ·)))
  rw [walk, walkOn, path_of_not_file hk]
  exact ⟨by simpa using hne, by simpa using hclear.behind⟩

end FetchKit.Address
