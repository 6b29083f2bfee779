import FetchKit.Proofs.Http.Ending
import FetchKit.Proofs.Text.Snippet
import FetchKit.Proofs.Text.Utf8

/-!
# What errors show of a body

A body is shown alike, whether its status is no success or it is not of the type that was asked for.
A short text is shown as it is. A long one is cut after 256 characters, whatever bytes come after
the character that is cut off.
-/

namespace FetchKit.Http

open FetchKit.Text FetchKit.Wire

theorem fetch_of_refused {c : Client} {send : Transport} {url : String} {r : Response}
    (h : ∃ u, c.resolve url = .ok u ∧ send (c.request u) = .ok r)
    (hstatus : ¬(200 ≤ r.status.code ∧ r.status.code ≤ 299)) :
    (c.fetch send url).result = .error (.http r.url.text r.status (shownBody r.body)) := by
  obtain ⟨u, hurl, hsend⟩ := h
  rw [← isSuccess_iff] at hstatus
  rw [fetch_of_response hurl hsend]
  simp [Client.success, hstatus, Error.ofStatus, bodySnippet, snippetLimit, shownBody]

theorem length_shownBody_le (b : List UInt8) : (shownBody b).length ≤ 257 := by
  rw [shownBody, String.length_ofList]
  exact length_snippet_le _ 256

theorem shownBody_encode {s : String} (h : s.length ≤ 256) :
    shownBody (Utf8.encode s.toList) = s := by
  rw [← String.length_toList] at h
  rw [shownBody, Utf8.lossy_encode, snippet_of_le h, String.ofList_toList]

theorem shownBody_encode_append {s : String} (h : 257 ≤ s.length) (rest : List UInt8) :
    shownBody (Utf8.encode s.toList ++ rest) =
      String.ofList (s.toList.take 256 ++ ['…']) := by
  rw [← String.length_toList] at h
  rw [shownBody, Utf8.lossy_encode_append, snippet_append h]
  rfl

/-- A body is shown in the same way by both errors that show it, in at most 257 characters. The bytes
of a text of up to 256 characters are shown as the text. Where the bytes start with a text of more,
its first 256 characters are shown with the mark after them, whatever bytes follow. -/
theorem body_shown (b : List UInt8) :
    (∀ c send url r, (∃ u, Client.resolve c url = .ok u ∧ send (c.request u) = .ok r) →
        r.body = b → ¬(200 ≤ r.status.code ∧ r.status.code ≤ 299) →
        (c.fetch send url).result = .error (.http r.url.text r.status (shownBody b))) ∧
      (∀ (α : Type) (op : Operation α) c send r source, Answered op c send r → r.body = b →
        (200 ≤ r.status.code ∧ r.status.code ≤ 299) → decode op.read b = .error source →
        (op.run c send).result = .error (.invalidData r.url.text source (shownBody b))) ∧
      (shownBody b).length ≤ 257 ∧
      (∀ s : String, b = Utf8.encode s.toList → s.length ≤ 256 → shownBody b = s) ∧
      ∀ (s : String) rest, b = Utf8.encode s.toList ++ rest → 257 ≤ s.length →
        shownBody b = String.ofList (s.toList.take 256 ++ ['…']) := by
  refine ⟨?_, ?_, length_shownBody_le b, ?_, ?_⟩
  · rintro c send url r hr rfl hstatus
    exact fetch_of_refused hr hstatus
  · rintro α op c send r source ⟨u, hurl, hsend⟩ rfl hstatus hbody
    have hending : Ending op c send
        ⟨[c.request u], .error (.invalidData r.url.text source (shownBody r.body))⟩ :=
      .undecodable hurl hsend hstatus hbody
    rw [hending.run_eq]
  · rintro s rfl hshort
    exact shownBody_encode hshort
  · rintro s rest rfl hlong
    exact shownBody_encode_append hlong rest

/-- One character too many, and bytes of no character after it: a success that is no record and a
refusal show the same. -/
theorem body_shown_cut :
    let body := Utf8.encode (List.replicate 257 '€') ++ [0xFF, 0xE2, 0x82]
    let cut := String.ofList (List.replicate 256 '€' ++ ['…'])
    let c : Client := ⟨Options.base, []⟩
    let send (status : Status) : Transport := fun request => .ok ⟨request.url, status, body⟩
    let found : Status := ⟨200, by decide, by decide⟩
    let missing : Status := ⟨404, by decide, by decide⟩
    ∃ u source, (c.fetch (send missing) fetchUser.url).result = .error (.http u missing cut) ∧
      (fetchUser.run c (send found)).result = .error (.invalidData u source cut) := by
  intro body cut c send found missing
  obtain ⟨hrefused, hmisread, -, -, hcut⟩ := body_shown body
  have hlong : (String.ofList (List.replicate 257 '€')).length = 257 := by
    rw [String.length_ofList, List.length_replicate]
  have hmissing : ¬(200 ≤ missing.code ∧ missing.code ≤ 299) := by decide
  have hfound : 200 ≤ found.code ∧ found.code ≤ 299 := by decide
  have hshown : shownBody body = cut := by
    rw [hcut _ _ (by rw [String.toList_ofList]) (Nat.le_of_eq hlong.symm), String.toList_ofList,
      List.take_replicate]
    rfl
  rw [hshown] at hrefused hmisread
  have hresolve : (c.resolve fetchUser.url).toOption.isSome = true := by decide +kernel
  have hbody : (decode fetchUser.read body).toOption.isNone = true := by decide +kernel
  cases hurl : c.resolve fetchUser.url with
  | error e => simp [hurl, Except.toOption] at hresolve
  | ok u =>
    cases hdecode : decode fetchUser.read body with
    | ok v => simp [hdecode, Except.toOption] at hbody
    | error source =>
      exact ⟨_, source, hrefused c _ _ ⟨u, missing, body⟩ ⟨u, hurl, rfl⟩ rfl hmissing,
        hmisread _ fetchUser c _ ⟨u, found, body⟩ source ⟨u, hurl, rfl⟩ rfl hfound hdecode⟩

end FetchKit.Http
