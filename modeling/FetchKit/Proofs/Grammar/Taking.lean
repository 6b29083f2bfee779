import FetchKit.Proofs.Grammar.Reading

/-!
# Rules that take trees

The basic rules take some trees off the front, the same trees whatever comes after them. Trees are
counted with what they hold, and a rule that takes one leaves fewer.
-/

namespace FetchKit.Grammar

open FetchKit.Source

/-! ## Sizes -/

theorem size_pos (t : Tree) : 0 < t.size := by
  cases t <;> simp [Tree.size]

theorem sizeOfTrees_append (ts us : List Tree) :
    sizeOfTrees (ts ++ us) = sizeOfTrees ts + sizeOfTrees us := by
  induction ts with
  | nil => simp [sizeOfTrees]
  | cons t ts ih => simp [sizeOfTrees, ih, Nat.add_assoc]

/-- Trees at the cursor, groups counted with what they hold. -/
def Cursor.size (c : Cursor) : Nat := sizeOfTrees c.rest

theorem Cursor.Leads.size_le {c c' : Cursor} (h : c.Leads c') : c'.size ≤ c.size := by
  obtain ⟨ts, hts⟩ := h.suffix
  simp [Cursor.size, ← hts, sizeOfTrees_append]

namespace Rule

variable {α β σ : Type}

/-! ## Taking a piece -/

/-- When it succeeds, the rule takes at least one tree, and takes the same before any others. -/
class Takes (r : Rule α) : Prop where
  step : ∀ {c a c'}, r c = .ok (a, c') → ∃ t piece out, c.rest = t :: piece ++ c'.rest ∧
    ∀ rest w l, r ⟨t :: piece ++ rest, w, l⟩ = .ok (a, ⟨rest, out ++ w, l⟩)

/-- The characters of an operator: there is at least one. -/
class Operator (s : String) : Prop where
  ne_nil : s.toList ≠ []

instance : Operator "#" := ⟨by decide⟩
instance : Operator "<" := ⟨by decide⟩
instance : Operator ">" := ⟨by decide⟩
instance : Operator ":" := ⟨by decide⟩
instance : Operator "::" := ⟨by decide⟩
instance : Operator "," := ⟨by decide⟩
instance : Operator ";" := ⟨by decide⟩
instance : Operator "+" := ⟨by decide⟩
instance : Operator "-" := ⟨by decide⟩
instance : Operator "*" := ⟨by decide⟩
instance : Operator "&" := ⟨by decide⟩
instance : Operator "|" := ⟨by decide⟩
instance : Operator "!" := ⟨by decide⟩
instance : Operator "?" := ⟨by decide⟩
instance : Operator "@" := ⟨by decide⟩
instance : Operator "=" := ⟨by decide⟩
instance : Operator "=>" := ⟨by decide⟩
instance : Operator "->" := ⟨by decide⟩
instance : Operator "." := ⟨by decide⟩
instance : Operator ".." := ⟨by decide⟩
instance : Operator "..=" := ⟨by decide⟩
instance : Operator "..." := ⟨by decide⟩

theorem startsOperator_split {cs : List Char} {ts : List Tree} (h : startsOperator cs ts = true) :
    ∃ piece rest, ts = piece ++ rest ∧ piece.length = cs.length ∧
      ∀ more, startsOperator cs (piece ++ more) = true := by
  fun_induction startsOperator cs ts with
  | case1 ts => exact ⟨[], ts, rfl, rfl, fun more => by simp [startsOperator]⟩
  | case2 c d joint s ts => exact ⟨[.punct d joint s], ts, rfl, rfl, fun more => by
      simpa [startsOperator] using h⟩
  | case3 c cs d joint s ts hne ih =>
    simp only [Bool.and_eq_true] at h
    obtain ⟨piece, rest, rfl, hlength, hmore⟩ := ih h.2
    refine ⟨.punct d joint s :: piece, rest, rfl, by simp [hlength], fun more => ?_⟩
    obtain ⟨c', cs, rfl⟩ := List.exists_cons_of_ne_nil hne
    simp [startsOperator, h.1.1, h.1.2, hmore]
  | case4 => cases h

instance eatOp_takes (s : String) [hs : Operator s] : Takes (eatOp s) := by
  refine ⟨fun {c a c'} h => ?_⟩
  rw [run_eatOp] at h
  split at h
  · next hstarts =>
    obtain ⟨piece, rest, hrest, hlength, hmore⟩ := startsOperator_split hstarts
    cases piece with
    | nil => exact absurd (List.length_eq_zero_iff.1 hlength.symm) hs.ne_nil
    | cons t piece =>
      cases h
      refine ⟨t, piece, (setOperator (t :: piece)).reverse, ?_, fun more w l => ?_⟩
      · rw [← hlength, hrest, List.drop_left]
      · rw [run_eatOp, if_pos (hmore more), ← hlength, List.drop_left, List.take_left]
  · cases h

instance eatWord_takes (word : String) : Takes (eatWord word) := by
  refine ⟨fun {c a c'} h => ?_⟩
  obtain ⟨ts, w, l⟩ := c
  match ts with
  | .ident i :: ts =>
    rw [run_eatWord_ident] at h
    split at h
    · next hi =>
      cases h
      refine ⟨.ident i, [], [.ident i], rfl, fun rest w l => ?_⟩
      rw [List.cons_append, run_eatWord_ident, if_pos hi]
      rfl
    · cases h
  | [] | .punct _ _ _ :: _ | .literal _ _ :: _ | .group _ _ _ :: _ => cases h

instance eatName_takes : Takes eatName := by
  refine ⟨fun {c i c'} h => ?_⟩
  obtain ⟨hi, ts, hc, rfl⟩ := eatName_eq_ok.1 h
  refine ⟨.ident i, [], [.ident i], hc, fun rest w l => run_eatName hi rest w l⟩

instance eatAnyIdent_takes : Takes eatAnyIdent := by
  refine ⟨fun {c i c'} h => ?_⟩
  obtain ⟨ts, hc, rfl⟩ := eatAnyIdent_eq_ok.1 h
  refine ⟨.ident i, [], [.ident i], hc, fun rest w l => run_eatAnyIdent i rest w l⟩

instance eatLifetime_takes : Takes eatLifetime := by
  refine ⟨fun {c a c'} h => ?_⟩
  obtain ⟨ts, w, l⟩ := c
  rw [eatLifetime, run_bind, run_trees, andThen_ok] at h
  dsimp only at h
  split at h
  · next s i ts =>
    cases h
    exact ⟨.punct '\'' true s, [.ident i], [.ident i, .punct '\'' true s], rfl, fun rest w l => rfl⟩
  · cases h

instance eatLiteral_takes : Takes eatLiteral := by
  refine ⟨fun {c a c'} h => ?_⟩
  obtain ⟨ts, w, l⟩ := c
  rw [eatLiteral, run_bind, run_trees, andThen_ok] at h
  dsimp only at h
  split at h
  · next text s ts =>
    cases h
    exact ⟨.literal text s, [], [.literal text s], rfl, fun rest w l => rfl⟩
  · next i ts =>
    rw [run_ite] at h
    split at h
    · next hi =>
      cases h
      refine ⟨.ident i, [], [.ident i], rfl, fun rest w l => ?_⟩
      simp [eatLiteral, hi]
    · cases h
  · next joint s text t ts =>
    rw [run_ite] at h
    split at h
    · next ht =>
      cases h
      refine ⟨.punct '-' joint s, [.literal text t], [.literal text t, .punct '-' false s], rfl,
        fun rest w l => ?_⟩
      simp [eatLiteral, ht]
    · cases h
  · cases h

instance eatGroup_takes : Takes eatGroup := by
  refine ⟨fun {c d c'} h => ?_⟩
  obtain ⟨ts, w, l⟩ := c
  rw [eatGroup, run_bind, run_trees, andThen_ok] at h
  dsimp only at h
  split at h
  · next d content s ts =>
    cases h
    exact ⟨.group d content s, [], [.group d content s], rfl, fun rest w l => rfl⟩
  · cases h

/-! ## Fewer trees -/

/-- When it succeeds, the rule leaves fewer trees. -/
class Eats (r : Rule α) : Prop where
  step : ∀ {c a c'}, r c = .ok (a, c') → c'.size < c.size

instance Takes.eats (r : Rule α) [hr : Takes r] : Eats r := by
  refine ⟨fun {c a c'} h => ?_⟩
  obtain ⟨t, piece, out, hc, -⟩ := hr.step h
  have hpos := size_pos t
  simp only [Cursor.size, hc, List.cons_append, sizeOfTrees, sizeOfTrees_append]
  omega

instance enter_eats (d : Delimiter) (body : Rule α) : Eats (enter d body) := by
  refine ⟨fun {c a c'} h => ?_⟩
  obtain ⟨content, s, ts, inner, hc, -, -, rfl⟩ := enter_eq_ok.1 h
  have hpos := size_pos (.group d content s)
  simp only [Cursor.size, hc, sizeOfTrees]
  omega

instance bind_eats {x : Rule α} {f : α → Rule β} [hx : Eats x]
    [hf : ∀ a base, Forward base (f a)] : Eats (x >>= f) := by
  refine ⟨fun h => ?_⟩
  obtain ⟨a, c₁, h₁, h₂⟩ := bind_eq_ok.1 h
  have hle := ((hf a c₁).step (.refl c₁) h₂).size_le
  exact Nat.lt_of_le_of_lt hle (hx.step h₁)

instance bind_eats_last {x : Rule α} {f : α → Rule β} [hx : ∀ base, Forward base x]
    [hf : ∀ a, Eats (f a)] : Eats (x >>= f) := by
  refine ⟨fun {c _ _} h => ?_⟩
  obtain ⟨a, c₁, h₁, h₂⟩ := bind_eq_ok.1 h
  have hle := ((hx c).step (.refl c) h₁).size_le
  exact Nat.lt_of_lt_of_le ((hf a).step h₂) hle

instance fail_eats (e : Complaint) : Eats (fail e : Rule α) := by
  refine ⟨fun h => ?_⟩
  cases h

instance ite_eats {p : Prop} [Decidable p] {x y : Rule α} [hx : Eats x] [hy : Eats y] :
    Eats (if p then x else y) := by
  split
  · exact hx
  · exact hy

instance unmet_eats (ps : List Probe) : Eats (unmet ps : Rule α) := by
  unfold unmet; infer_instance
instance complain_eats (text : String) : Eats (complain text : Rule α) := by
  unfold complain; infer_instance

instance within_eats (d : Delimiter) (body : Rule α) : Eats (within d body) := by
  unfold within; infer_instance

instance withhold_eats (r : Rule α) [hr : Eats r] : Eats (withhold r) := by
  refine ⟨fun {c a c'} h => ?_⟩
  unfold withhold at h
  split at h
  · cases h
  · next hi =>
    have hlt := hr.step hi
    cases h
    exact hlt

instance held_eats (r : Rule α) [Eats r] : Eats (held r) := by
  unfold held; infer_instance

end Rule

end FetchKit.Grammar
