import FetchKit.Proofs.Grammar.Parts
import FetchKit.Request.Dispatch
import FetchKit.Source.Print
import FetchKit.Source.Scan

/-!
# The code that makes a type conform

For each type that can be read, one `impl` with the parameters of the type declared and used, and
with its conditions and the one on itself. It depends on the name, the generics and the conditions of
the type and on nothing else.
-/

namespace FetchKit.Request

open FetchKit.Source FetchKit.Grammar FetchKit.Grammar.Rule

/-! ## What stands in the source -/

/-- The generics of a type: none, or parameters between angle brackets. -/
inductive Parameters : List Tree → List Param → Prop
  | none : Parameters [] []
  | some {joint s ts ps joint' s' next}
    (h : Listing Param.comma (IsParam .type) (.punct '>' joint' s' :: next) ts ps) :
    Parameters (.punct '<' joint s :: ts ++ [.punct '>' joint' s']) ps

/-- The conditions of a type: none, or a list of them after `where`, in front of the body. -/
inductive Conditions : List Tree → List Predicate → Prop
  | none : Conditions [] []
  | some {k ts qs body} (hk : k.isWord "where" = true) (hbody : opensBody body = true)
    (h : Listing Predicate.comma (IsPredicate .type) body ts qs) : Conditions (.ident k :: ts) qs

/-! ## What is generated -/

/-- Lifetimes before the other parameters, otherwise in their order. -/
def lifetimesFirst (ps : List Param) : List Param :=
  ps.filter (·.kind == .lifetime) ++ ps.filter (!·.kind == .lifetime)

/-- Texts between angle brackets, with commas; nothing for none. -/
inductive Angled : List (List Tree) → List Tree → Prop
  | none : Angled [] []
  | some {texts out s s'} (hne : texts ≠ []) (h : Commas texts out) :
    Angled texts (.punct '<' false s :: out ++ [.punct '>' false s'])

/-- Texts with single commas between them and none after the last. -/
inductive Joined : List (List Tree) → List Tree → Prop
  | last (t : List Tree) : Joined [t] t
  | more {ts out} (t : List Tree) (s : Span) (h : Joined ts out) :
    Joined (t :: ts) (t ++ .punct ',' false s :: out)

/-- `Self: ::netreq::serde::Serialize + ::netreq::serde::de::DeserializeOwned` -/
def onSelf : List Tree :=
  [word "Self"] ++ operator ":" ++
    operator "::" ++ [word "netreq"] ++ operator "::" ++ [word "serde"] ++
      operator "::" ++ [word "Serialize"] ++
    operator "+" ++
    operator "::" ++ [word "netreq"] ++ operator "::" ++ [word "serde"] ++
      operator "::" ++ [word "de"] ++ operator "::" ++ [word "DeserializeOwned"]

/-- `impl<P> ::netreq::Codable for I<A> where W {}` -/
def IsImpl (i : Ident) (ps : List Param) (conditions : List (List Tree)) (out : List Tree) : Prop :=
  ∃ declared used k conditioned,
    out = [word "impl"] ++ declared ++ operator "::" ++ [word "netreq"] ++ operator "::" ++
      [word "Codable"] ++ [word "for", .ident i] ++ used ++ [.ident k] ++ conditioned ++
      [group .brace []] ∧
    Angled ((lifetimesFirst ps).map (·.declared)) declared ∧
    Angled ((lifetimesFirst ps).map (·.used)) used ∧
    k.isWord "where" = true ∧ Joined (conditions ++ [onSelf]) conditioned

/-! ## From the source to its parts -/

theorem parameters_of_holds {piece : List Tree} {found : Generics} (h : HoldsGenerics piece found) :
    Parameters piece found.params := by
  obtain ⟨next, hin⟩ := h.sound
  cases hin with
  | none => exact .none
  | some hps => exact .some hps

/-- The conditions of a clause, if there is one. -/
def predicatesOf : Option Where → List Predicate
  | some w => w.predicates
  | none => []

theorem conditions_of_holds {piece : List Tree} {found : Option Where}
    (h : HoldsConditions piece found) : Conditions piece (predicatesOf found) := by
  obtain ⟨body, hbody, hin⟩ := h.sound
  cases hin with
  | none => exact .none
  | some hk hqs => exact .some hk hbody hqs

/-! ## From the parts to the code -/

theorem selfCondition_eq : selfCondition = onSelf := rfl

theorem mem_lifetimesFirst {p : Param} {ps : List Param} : p ∈ lifetimesFirst ps ↔ p ∈ ps := by
  unfold lifetimesFirst
  rw [List.mem_append, List.mem_filter, List.mem_filter, ← and_or_left, and_iff_left_iff_imp]
  intro _
  cases p.kind == .lifetime <;> simp

theorem lifetimesFirst_ne_nil {ps : List Param} (h : ps ≠ []) : lifetimesFirst ps ≠ [] := by
  obtain ⟨p, hp⟩ := List.exists_mem_of_ne_nil ps h
  exact List.ne_nil_of_mem (mem_lifetimesFirst.2 hp)

theorem angled_generics {next piece : List Tree} {found : Generics}
    (h : GenericsIn .type next piece found)
    (text : Param → List Tree) : Angled ((lifetimesFirst found.params).map text) (found.angled text) := by
  cases h with
  | none => exact .none
  | @some joint s ts ps joint' s' hps =>
    unfold Generics.angled
    dsimp only
    split
    · next hnone =>
      rw [List.isEmpty_iff.1 hnone]
      exact .none
    · next hsome =>
      have hne := lifetimesFirst_ne_nil (mt List.isEmpty_iff.2 hsome)
      have hcommas := commas_arrange <|
        hps.punctuated (f := fun p : Param => ⟨p.kind == .lifetime, text p, p.comma⟩) fun _ => rfl
      refine .some (by simpa using hne) ?_
      simpa [lifetimesFirst, List.filter_map, Function.comp_def] using hcommas

theorem joined_conditions {next ts : List Tree} {qs : List Predicate}
    (h : Listing Predicate.comma (IsPredicate .type) next ts qs) :
    Joined (qs.map (·.text) ++ [onSelf]) (conditionsTokens qs ++ selfCondition) := by
  rw [selfCondition_eq]
  induction h with
  | nil => exact .last onSelf
  | @last piece q hq hcomma =>
    have hjoined := Joined.more q.text .callSite (.last onSelf)
    simpa [conditionsTokens, hcomma, operator, operator.go] using hjoined
  | @more piece q joint s ts qs hq hcomma _ ih =>
    have hjoined := Joined.more q.text s ih
    simpa [conditionsTokens, hcomma] using hjoined

theorem isImpl_conformance {p : Parts} {d : DataType} (h : p.Of d) :
    IsImpl p.ident d.generics.params ((predicatesOf d.conditions).map (·.text)) (conformance d) := by
  obtain ⟨next, hgenerics⟩ := h.generics.sound
  have hdeclared := angled_generics hgenerics (·.declared)
  have hused := angled_generics hgenerics (·.used)
  rw [h.ident]
  cases hconditions : d.conditions with
  | none =>
    refine ⟨_, _, ⟨"where", false, .callSite⟩, onSelf, ?_, hdeclared, hused, rfl, .last _⟩
    simp [conformance, whereTokens, hconditions, rooted, word, selfCondition_eq]
  | some clause =>
    obtain ⟨body, -, hwhere⟩ := h.conditions.sound
    rw [hconditions] at hwhere
    generalize p.conditions = piece at hwhere
    cases hwhere with
    | @some k ts qs hk hqs =>
      refine ⟨_, _, k, _, ?_, hdeclared, hused, hk, joined_conditions hqs⟩
      simp [conformance, whereTokens, predicatesOf, hconditions, rooted]

theorem conform_eq_ok {item out : List Tree} :
    conform item = .ok out ↔ ∃ d, DataType.parse item = .ok d ∧ conformance d = out := by
  unfold conform
  cases DataType.parse item <;> simp [Except.map]

theorem conformance_eq {p : Parts} {d d' : DataType} (h : p.Of d) (h' : p.Of d') :
    conformance d = conformance d' := by
  obtain ⟨hident, hgenerics, hconditions⟩ := h.unique h'
  unfold conformance
  rw [hident, hgenerics, hconditions]

/-- What a type in a source text is given, as text. -/
def conformText (source : String) : Option String := do
  let item ← scan source
  let out ← (conform item).toOption
  return textOf out

theorem conformText_eq_some {source text : String} (h : conformText source = some text) :
    ∃ item out, scan source = some item ∧ conform item = .ok out ∧ textOf out = text := by
  unfold conformText at h
  cases hscan : scan source with
  | none => simp [hscan] at h
  | some item =>
    cases hconform : conform item with
    | error c => simp [hscan, hconform, Except.toOption] at h
    | ok out => exact ⟨item, out, rfl, hconform, by simpa [hscan, hconform, Except.toOption] using h⟩

end FetchKit.Request
