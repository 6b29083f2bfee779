import FetchKit.Http.Options
import Mathlib.Data.List.Basic

/-!
# What counts of the settings

Of the endpoint and of each timeout the last setting counts, of the headers every one. So a bad
endpoint is forgiven when another one follows, and settings of different kinds can be given in any
order.
-/

namespace FetchKit.Http

open FetchKit.Address FetchKit.Text

/-! ## Parts of a setting -/

namespace Setting

def endpoint? : Setting → Option String
  | endpoint url => some url
  | _ => none

def timeout? : Setting → Option Duration
  | timeout d => some d
  | _ => none

def connectTimeout? : Setting → Option Duration
  | connectTimeout d => some d
  | _ => none

def readTimeout? : Setting → Option Duration
  | readTimeout d => some d
  | _ => none

def header? : Setting → Option (String × String)
  | header name value => some (name, value)
  | _ => none

inductive Kind where
  | endpoint
  | timeout
  | connectTimeout
  | readTimeout
  | header
  deriving Repr, DecidableEq

def kind : Setting → Kind
  | endpoint _ => .endpoint
  | timeout _ => .timeout
  | connectTimeout _ => .connectTimeout
  | readTimeout _ => .readTimeout
  | header _ _ => .header

end Setting

/-- The last of the settings that have such a part. -/
def lastGiven {α : Type} (part : Setting → Option α) (settings : List Setting) : Option α :=
  (settings.filterMap part).getLast?

/-! ## One setting, then many -/

theorem field_foldl_set {α : Type} (field : Draft → Option α) (part : Setting → Option α)
    (hset : ∀ d s, field (d.set s) = (part s).or (field d)) (settings : List Setting) (d : Draft) :
    field (settings.foldl Draft.set d) = (lastGiven part settings).or (field d) := by
  induction settings generalizing d with
  | nil => rfl
  | cons s settings ih =>
    rw [List.foldl_cons, ih, hset, lastGiven, lastGiven]
    cases hpart : part s with
    | none => simp [hpart]
    | some a =>
      cases hlast : (settings.filterMap part).getLast? <;>
        simp [hpart, List.getLast?_cons, hlast]

theorem headers_set (d : Draft) (s : Setting) :
    (d.set s).headers = d.headers ++ s.header?.toList := by
  cases s <;> simp [Draft.set, Setting.header?]

theorem headers_foldl_set (settings : List Setting) (d : Draft) :
    (settings.foldl Draft.set d).headers = d.headers ++ settings.filterMap Setting.header? := by
  induction settings generalizing d with
  | nil => simp
  | cons s settings ih =>
    rw [List.foldl_cons, ih, headers_set]
    cases hpart : s.header? <;> simp [hpart]

theorem ofSettings_eq (settings : List Setting) :
    Draft.ofSettings settings =
      { endpoint := lastGiven Setting.endpoint? settings
        timeout := lastGiven Setting.timeout? settings
        connectTimeout := lastGiven Setting.connectTimeout? settings
        readTimeout := lastGiven Setting.readTimeout? settings
        headers := settings.filterMap Setting.header? } := by
  have hendpoint := field_foldl_set Draft.endpoint Setting.endpoint?
    (fun d s => by cases s <;> rfl) settings {}
  have htimeout := field_foldl_set Draft.timeout Setting.timeout?
    (fun d s => by cases s <;> rfl) settings {}
  have hconnect := field_foldl_set Draft.connectTimeout Setting.connectTimeout?
    (fun d s => by cases s <;> rfl) settings {}
  have hread := field_foldl_set Draft.readTimeout Setting.readTimeout?
    (fun d s => by cases s <;> rfl) settings {}
  have hheaders := headers_foldl_set settings {}
  rw [Option.or_none] at hendpoint htimeout hconnect hread
  rw [List.nil_append] at hheaders
  rw [Draft.ofSettings, ← hendpoint, ← htimeout, ← hconnect, ← hread, ← hheaders]

/-- The same settings count in both lists. -/
structure Alike (settings others : List Setting) : Prop where
  endpoint : lastGiven Setting.endpoint? settings = lastGiven Setting.endpoint? others
  timeout : lastGiven Setting.timeout? settings = lastGiven Setting.timeout? others
  connectTimeout :
    lastGiven Setting.connectTimeout? settings = lastGiven Setting.connectTimeout? others
  readTimeout : lastGiven Setting.readTimeout? settings = lastGiven Setting.readTimeout? others
  headers : settings.filterMap Setting.header? = others.filterMap Setting.header?

theorem Alike.ofSettings_eq {settings others : List Setting} (h : Alike settings others) :
    Draft.ofSettings settings = Draft.ofSettings others := by
  rw [Http.ofSettings_eq, Http.ofSettings_eq, h.endpoint, h.timeout, h.connectTimeout,
    h.readTimeout, h.headers]

/-! ## The order of settings -/

/-- The same settings, where neighbours of different kinds have changed places. -/
inductive Reordered : List Setting → List Setting → Prop
  | refl (settings) : Reordered settings settings
  | swap {before after settings x y} (hkind : x.kind ≠ y.kind)
    (h : Reordered (before ++ y :: x :: after) settings) :
    Reordered (before ++ x :: y :: after) settings

theorem set_comm {x y : Setting} (h : x.kind ≠ y.kind) (d : Draft) :
    (d.set x).set y = (d.set y).set x := by
  cases x <;> cases y <;> first | rfl | exact absurd rfl h

theorem Reordered.ofSettings_eq {settings others : List Setting} (h : Reordered settings others) :
    Draft.ofSettings settings = Draft.ofSettings others := by
  induction h with
  | refl settings => rfl
  | swap hkind h ih =>
    rw [← ih, Draft.ofSettings, Draft.ofSettings, List.foldl_append, List.foldl_append]
    simp only [List.foldl_cons]
    rw [set_comm hkind]

/-! ## Building -/

/-- Where no endpoint is given, it is this one. -/
def fallbackEndpoint : String := "http://localhost"

theorem parse_fallbackEndpoint : Url.parse fallbackEndpoint = .ok Options.base.endpoint := by
  decide +kernel

/-- The options of a draft whose endpoint was read. -/
def Draft.optionsAt (d : Draft) (endpoint : Url) : Options where
  endpoint
  timeout := d.timeout.getD ⟨6, 0⟩
  connectTimeout := d.connectTimeout.getD ⟨6, 0⟩
  readTimeout := d.readTimeout.getD ⟨6, 0⟩
  headers := ("User-Agent", "netreq/0.1.0") :: d.headers

/-- The ways a draft can be built. -/
inductive Built (d : Draft) : Except Error Options → Prop
  /-- No endpoint is given. -/
  | fallback (hnone : d.endpoint = none) : Built d (.ok (d.optionsAt Options.base.endpoint))
  /-- The endpoint has nothing but white space in it. -/
  | blank {s} (hsome : d.endpoint = some s) (hblank : ∀ c ∈ s.toList, isBlank c = true) :
    Built d (.error (.badArgument "Endpoint cannot be empty"))
  | unparsable {s cause} (hsome : d.endpoint = some s) (hfilled : ∃ c ∈ s.toList, isBlank c = false)
    (hparse : Url.parse s = .error cause) : Built d (.error (.badUrl cause))
  | given {s url} (hsome : d.endpoint = some s) (hfilled : ∃ c ∈ s.toList, isBlank c = false)
    (hparse : Url.parse s = .ok url) : Built d (.ok (d.optionsAt url))

theorem allBlank_eq_false_iff (s : String) :
    allBlank s = false ↔ ∃ c ∈ s.toList, isBlank c = false := by
  simp [allBlank]

theorem build_built (d : Draft) : Built d d.build := by
  unfold Draft.build
  cases hd : d.endpoint with
  | none => exact .fallback hd
  | some s =>
    cases hblank : allBlank s with
    | true =>
      have hread : Draft.readEndpoint s = .error (.badArgument "Endpoint cannot be empty") := by
        rw [Draft.readEndpoint, hblank]
        rfl
      simp only [hread]
      exact .blank hd (by simpa [allBlank] using hblank)
    | false =>
      have hread : Draft.readEndpoint s = (Url.parse s).mapError .badUrl := by
        rw [Draft.readEndpoint, hblank]
        rfl
      have hfilled := (allBlank_eq_false_iff s).1 hblank
      simp only [hread]
      cases hparse : Url.parse s with
      | error cause => exact .unparsable hd hfilled hparse
      | ok url => exact .given hd hfilled hparse

theorem build_eq_badArgument_iff {d : Draft} {text : String} :
    d.build = .error (.badArgument text) ↔ text = "Endpoint cannot be empty" ∧
      ∃ s, d.endpoint = some s ∧ ∀ c ∈ s.toList, isBlank c = true := by
  have hbuilt := build_built d
  generalize d.build = result at hbuilt ⊢
  cases hbuilt with
  | fallback hnone => simp [hnone]
  | blank hsome hblank =>
    constructor
    · rintro ⟨⟩
      exact ⟨rfl, _, hsome, hblank⟩
    · rintro ⟨rfl, -⟩
      rfl
  | unparsable hsome hfilled hparse => simpa [hsome] using fun _ => hfilled
  | given hsome hfilled hparse => simpa [hsome] using fun _ => hfilled

theorem build_eq_badUrl_iff {d : Draft} {cause : Failure} :
    d.build = .error (.badUrl cause) ↔
      ∃ s, d.endpoint = some s ∧ (∃ c ∈ s.toList, isBlank c = false) ∧
        Url.parse s = .error cause := by
  have hbuilt := build_built d
  generalize d.build = result at hbuilt ⊢
  cases hbuilt with
  | fallback hnone => simp [hnone]
  | blank hsome hblank => simp +contextual [hsome, hblank]
  | unparsable hsome hfilled hparse => simp [hsome, hfilled, hparse]
  | given hsome hfilled hparse => simp [hsome, hparse]

theorem optionsAt_eq_iff {d : Draft} {url : Url} {o : Options} :
    d.optionsAt url = o ↔
      url = o.endpoint ∧ o.timeout = d.timeout.getD ⟨6, 0⟩ ∧
        o.connectTimeout = d.connectTimeout.getD ⟨6, 0⟩ ∧
        o.readTimeout = d.readTimeout.getD ⟨6, 0⟩ ∧
        o.headers = ("User-Agent", "netreq/0.1.0") :: d.headers := by
  cases o
  simp [Draft.optionsAt, eq_comm]

theorem build_eq_ok_iff {d : Draft} {o : Options} :
    d.build = .ok o ↔
      (∀ s, d.endpoint = some s → ∃ c ∈ s.toList, isBlank c = false) ∧
        Url.parse (d.endpoint.getD fallbackEndpoint) = .ok o.endpoint ∧
        o.timeout = d.timeout.getD ⟨6, 0⟩ ∧ o.connectTimeout = d.connectTimeout.getD ⟨6, 0⟩ ∧
        o.readTimeout = d.readTimeout.getD ⟨6, 0⟩ ∧
        o.headers = ("User-Agent", "netreq/0.1.0") :: d.headers := by
  have hbuilt := build_built d
  generalize d.build = result at hbuilt ⊢
  cases hbuilt with
  | fallback hnone => simp [hnone, parse_fallbackEndpoint, optionsAt_eq_iff]
  | blank hsome hblank => simp +contextual [hsome, hblank]
  | unparsable hsome hfilled hparse => simp [hsome, hparse]
  | given hsome hfilled hparse => simp [hsome, hfilled, hparse, optionsAt_eq_iff]

/-- What is built from settings: nothing where the last endpoint is blank or cannot be parsed, and
else options with the last endpoint, the last of each timeout and all headers. Lists in which the
same settings count build the same, and so do lists in which kinds of settings change places. -/
theorem build_ofSettings (settings : List Setting) :
    (∀ text, (Draft.ofSettings settings).build = .error (.badArgument text) ↔
        text = "Endpoint cannot be empty" ∧
          ∃ s, lastGiven Setting.endpoint? settings = some s ∧ ∀ c ∈ s.toList, isBlank c = true) ∧
      (∀ cause, (Draft.ofSettings settings).build = .error (.badUrl cause) ↔
        ∃ s, lastGiven Setting.endpoint? settings = some s ∧
          (∃ c ∈ s.toList, isBlank c = false) ∧ Url.parse s = .error cause) ∧
      (∀ o, (Draft.ofSettings settings).build = .ok o ↔
        (∀ s, lastGiven Setting.endpoint? settings = some s → ∃ c ∈ s.toList, isBlank c = false) ∧
          Url.parse ((lastGiven Setting.endpoint? settings).getD fallbackEndpoint) =
            .ok o.endpoint ∧
          o.timeout = (lastGiven Setting.timeout? settings).getD ⟨6, 0⟩ ∧
          o.connectTimeout = (lastGiven Setting.connectTimeout? settings).getD ⟨6, 0⟩ ∧
          o.readTimeout = (lastGiven Setting.readTimeout? settings).getD ⟨6, 0⟩ ∧
          o.headers = ("User-Agent", "netreq/0.1.0") :: settings.filterMap Setting.header?) ∧
      (∀ others, Alike settings others →
        (Draft.ofSettings settings).build = (Draft.ofSettings others).build) ∧
      ∀ others, Reordered settings others →
        (Draft.ofSettings settings).build = (Draft.ofSettings others).build := by
  refine ⟨fun text => ?_, fun cause => ?_, fun o => ?_, fun others h => ?_, fun others h => ?_⟩
  · rw [build_eq_badArgument_iff, ofSettings_eq]
  · rw [build_eq_badUrl_iff, ofSettings_eq]
  · rw [build_eq_ok_iff, ofSettings_eq]
  · rw [h.ofSettings_eq]
  · rw [h.ofSettings_eq]

end FetchKit.Http
