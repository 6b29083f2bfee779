import FetchKit.Http.Client
import FetchKit.Proofs.Address.Reference
import FetchKit.Proofs.Http.Settings

/-!
# Where requests go

A plain reference leads to the host of the endpoint. A text that is an address on its own leads away
from it, unless it has the scheme of the endpoint without two slashes after it.
-/

namespace FetchKit.Http

open FetchKit.Address

theorem resolve_of_join {c : Client} {s : String} {u : Url} (h : c.endpoint.join s = .ok u) :
    c.resolve s = .ok u := by
  rw [Client.resolve, h]
  rfl

/-! ## Plain references -/

theorem kind_of_http {u : Url} (h : u.scheme = "http".toList ∨ u.scheme = "https".toList) :
    ∃ port, u.kind = .special port := by
  unfold Url.kind
  rcases h with h | h
  · exact ⟨80, by rw [h]; decide⟩
  · exact ⟨443, by rw [h]; decide⟩

theorem endpoint_isRooted {d : Draft} {o : Options} {port : Nat} (hbuild : d.build = .ok o)
    (hkind : o.endpoint.kind = .special port) : o.endpoint.IsRooted := by
  obtain ⟨-, hparse, -⟩ := build_eq_ok_iff.1 hbuild
  exact parse_isRooted hparse hkind

/-- Where the endpoint of a client was built and its scheme is that of the web, a plain reference
leads to the same host in the same way, with neither query nor fragment. The path is the reference
itself after a slash, and else the path of the endpoint up to its last slash, then the reference. -/
theorem resolve_reference {d : Draft} {c : Client} (hbuild : d.build = .ok c.options)
    (hscheme : c.endpoint.scheme = "http".toList ∨ c.endpoint.scheme = "https".toList)
    (rooted : Bool) {segments : List (List Char)} (hs : ∀ s ∈ segments, IsPlainSegment s)
    (hne : referenceText rooted segments ≠ []) :
    ∃ u a, c.resolve (String.ofList (referenceText rooted segments)) = .ok u ∧
      u.scheme = c.endpoint.scheme ∧
      u.authority = some a ∧ c.endpoint.authority = some a ∧
      u.query = none ∧ u.fragment = none ∧
      u.pathChars =
        if rooted then referenceText rooted segments
        else upToLastSlash c.endpoint.pathChars ++ referenceText rooted segments := by
  obtain ⟨port, hkind⟩ := kind_of_http hscheme
  obtain ⟨hauthority, path, hpath, hpathne, hslash⟩ := endpoint_isRooted hbuild hkind
  obtain ⟨a, ha⟩ := Option.isSome_iff_exists.1 hauthority
  change c.endpoint.authority = some a at ha
  change c.endpoint.path = .segments path at hpath
  have hjoin := join_reference hkind (by simp [Url.isWhole, hpath]) hs hne
  refine ⟨_, a, resolve_of_join hjoin, rfl, ha, ha, rfl, rfl, ?_⟩
  have hsegments : c.endpoint.segments = path := by simp [Url.segments, hpath]
  simp only [Url.pathChars, ha, hpath, hsegments, Option.isSome_some, pathText_segments,
    segmentsText_referencePath hpathne hslash hne]

/-- An endpoint with a name, a password, a port, a query and a fragment. -/
theorem resolve_reference_sibling :
    let endpoint : Url :=
      { scheme := "http".toList
        authority := some ⟨['u'], some ['p'], .domain ['h'], some 8080⟩
        path := .segments [['a'], ['b']], query := some ['q'], fragment := some ['f'] }
    let c : Client := ⟨{ Options.base with endpoint }, []⟩
    (Draft.ofSettings [.endpoint "http://u:p@h:8080/a/b?q#f"]).build = .ok c.options ∧
      ∃ u, c.resolve "x/...~" = .ok u ∧ u.authority = endpoint.authority ∧
        u.pathChars = "/a/x/...~".toList := by
  intro endpoint c
  have hbuild : (Draft.ofSettings [.endpoint "http://u:p@h:8080/a/b?q#f"]).build = .ok c.options := by
    refine build_eq_ok_iff.2 ⟨?_, by decide +kernel, rfl, rfl, rfl, rfl⟩
    rintro s ⟨⟩
    exact ⟨'h', by decide, by decide⟩
  have hplain : ∀ s ∈ [['x'], ['.', '.', '.', '~']], IsPlainSegment s := by
    rw [List.forall_mem_cons, List.forall_mem_singleton]
    exact ⟨⟨by decide, Source.forall_mem_of_all (by decide), by decide, by decide⟩,
      ⟨by decide, Source.forall_mem_of_all (by decide), by decide, by decide⟩⟩
  obtain ⟨u, a, hresolve, -, hauthority, hsame, -, -, hpath⟩ :=
    resolve_reference hbuild (.inl rfl) false hplain (by decide)
  exact ⟨hbuild, u, hresolve, hauthority.trans hsame.symm, hpath.trans (by decide)⟩

/-! ## Addresses with a scheme -/

/-- The text says by itself where it leads: its scheme is not that of the base, or is not special,
or has two slashes after it. -/
def StandsAlone (base w : Url) (s : String) : Prop :=
  base.scheme ≠ w.scheme ∨ w.kind = .other ∨ 2 ≤ leadingSlashes (afterScheme s)

/-- A text that is an address on its own is resolved as that address where it stands alone, so all
clients agree on it. Where it does not, and its scheme is not that of files, it leads to the host of
the endpoint. -/
theorem resolve_absolute {s : String} {w : Url} (hw : Url.parse s = .ok w) :
    (∀ c : Client, StandsAlone c.endpoint w s → c.resolve s = .ok w) ∧
      (∀ c c' : Client, StandsAlone c.endpoint w s → StandsAlone c'.endpoint w s →
        c.resolve s = c'.resolve s) ∧
      ∀ (c : Client) port, ¬StandsAlone c.endpoint w s → w.kind = .special port →
        ∃ u, c.resolve s = .ok u ∧ u.authority = c.endpoint.authority := by
  have halone : ∀ c : Client, StandsAlone c.endpoint w s → c.resolve s = .ok w :=
    fun c h => resolve_of_join (join_of_standing hw h)
  refine ⟨halone, fun c c' h h' => by rw [halone c h, halone c' h'], fun c port h hkind => ?_⟩
  simp only [StandsAlone, not_or, not_not, Nat.not_le] at h
  obtain ⟨u, hjoin, -, hauthority⟩ := join_of_leaning hw h.1 hkind h.2.2
  exact ⟨u, resolve_of_join hjoin, hauthority⟩

/-- The scheme is that of the endpoint, and two slashes of both kinds follow it. -/
theorem resolve_absolute_slashes :
    let w : Url :=
      { scheme := "http".toList, authority := some { host := .domain ['x'] }, path := .segments [[]] }
    let c : Client := ⟨Options.base, []⟩
    Url.parse "http:\\/x" = .ok w ∧ c.resolve "http:\\/x" = .ok w := by
  intro w c
  have hparse : Url.parse "http:\\/x" = .ok w := by decide +kernel
  exact ⟨hparse, (resolve_absolute hparse).1 c (.inr (.inr (by decide)))⟩

/-- No slash follows: on its own the text names a host, and for the client it is a path. -/
theorem resolve_leans_on_endpoint :
    let endpoint : Url :=
      { scheme := "http".toList, authority := some { host := .ipv4 0x7F000001, port := some 8080 }
        path := .segments [[]] }
    let c : Client := ⟨{ Options.base with endpoint }, []⟩
    (Draft.ofSettings [.endpoint "http://127.0.0.1:8080"]).build = .ok c.options ∧
      ∃ w u, Url.parse "http:x" = .ok w ∧ c.resolve "http:x" = .ok u ∧ u ≠ w ∧
        w.text = "http://x/" ∧ u.text = "http://127.0.0.1:8080/x" := by
  intro endpoint c
  have hbuild : (Draft.ofSettings [.endpoint "http://127.0.0.1:8080"]).build = .ok c.options := by
    refine build_eq_ok_iff.2 ⟨?_, by decide +kernel, rfl, rfl, rfl, rfl⟩
    rintro s ⟨⟩
    exact ⟨'h', by decide, by decide⟩
  have hparse : Url.parse "http:x" = .ok { endpoint with authority := some { host := .domain ['x'] } } := by
    decide +kernel
  have hjoin : endpoint.join "http:x" = .ok { endpoint with path := .segments [['x']] } := by
    decide +kernel
  exact ⟨hbuild, _, _, hparse, resolve_of_join hjoin, by decide, by decide +kernel, by decide +kernel⟩

end FetchKit.Http
