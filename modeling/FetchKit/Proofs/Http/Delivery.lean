import FetchKit.Proofs.Http.Ending
import FetchKit.Proofs.Wire.Written

/-!
# What a server writes arrives

The documents that are written for a value are decoded as that value, so an operation whose server
answers with one gives the value back.
-/

namespace FetchKit.Http

open FetchKit.Wire

theorem run_of_spells {α : Type} {op : Operation α} {c : Client} {send : Transport} {r : Response}
    {v : α} (hanswered : Answered op c send r)
    (hstatus : 200 ≤ r.status.code ∧ r.status.code ≤ 299) (hbody : Spells op.read r.body v) :
    (op.run c send).result = .ok v := by
  obtain ⟨url, hurl, hsend⟩ := hanswered
  have hending : Ending op c send ⟨[c.request url], .ok v⟩ :=
    .decoded hurl hsend hstatus hbody.decode_eq
  rw [hending.run_eq]

/-- Every value of these types is decoded from what is written for it, and the two operations give
back the value that a successful response was written for. -/
theorem codable_round_trip :
    (∀ v : NetworkResponse, decode (record NetworkResponse.layout) v.write = .ok v) ∧
      (∀ v : User, decode (record User.layout) v.write = .ok v) ∧
      (∀ v : Page String, decode (record (Page.layout text)) (v.write writeText) = .ok v) ∧
      (∀ v : Page User,
        decode (record (Page.layout (record User.layout))) (v.write User.write) = .ok v) ∧
      (∀ (v : User) c send r, Answered fetchUser c send r →
        200 ≤ r.status.code ∧ r.status.code ≤ 299 → r.body = v.write →
        (fetchUser.run c send).result = .ok v) ∧
      ∀ (v : NetworkResponse) c send r, Answered getResponse c send r →
        200 ≤ r.status.code ∧ r.status.code ≤ 299 → r.body = v.write →
        (getResponse.run c send).result = .ok v := by
  refine ⟨fun v => (networkResponse_spells v).decode_eq, fun v => (user_spells v).decode_eq,
    fun v => (page_spells text_spells v).decode_eq, fun v => (page_spells user_spells v).decode_eq,
    ?_, ?_⟩
  · intro v c send r hanswered hstatus hbody
    have hspells : Spells fetchUser.read r.body v := hbody ▸ user_spells v
    exact run_of_spells hanswered hstatus hspells
  · intro v c send r hanswered hstatus hbody
    have hspells : Spells getResponse.read r.body v := hbody ▸ networkResponse_spells v
    exact run_of_spells hanswered hstatus hspells

/-- The largest id, and a name with a NUL, a quote and a character of four bytes. -/
theorem codable_round_trip_user :
    let c : Client := ⟨Options.base, []⟩
    let v : User := ⟨0xFFFFFFFFFFFFFFFF, "\x00\"😀", none⟩
    let send : Transport := fun request => .ok ⟨request.url, ⟨200, by decide, by decide⟩, v.write⟩
    (fetchUser.run c send).result = .ok v := by
  intro c v send
  have hresolve : (c.resolve fetchUser.url).toOption.isSome = true := by decide +kernel
  cases hurl : c.resolve fetchUser.url with
  | error e => simp [hurl, Except.toOption] at hresolve
  | ok url =>
    have hstatus : 200 ≤ 200 ∧ 200 ≤ 299 := by decide
    exact codable_round_trip.2.2.2.2.1 v c send _ ⟨url, hurl, rfl⟩ hstatus rfl

end FetchKit.Http
