import FetchKit.Http.Operation

/-!
# How an operation ends

Whatever the client, the address, the type and the transport are, an operation ends in one of five
ways. The first thing that goes wrong decides, and what is told of a response is what the response
says: its own address, its status and the start of its body.
-/

namespace FetchKit.Http

open FetchKit.Address FetchKit.Text FetchKit.Wire

variable {α : Type} {op : Operation α} {c : Client} {send : Transport}

/-- What the client asks for when the operation's address stands for `url`. -/
def Client.request (c : Client) (url : Url) : Request := { url, headers := c.headers }

/-- The start of a body as an error shows it: at most 256 characters and a mark for the rest. -/
def shownBody (body : List UInt8) : String := String.ofList (snippet (Utf8.lossy body) 256)

/-- The ways an operation can end: the requests that were sent, and the result. -/
inductive Ending (op : Operation α) (c : Client) (send : Transport) : Exchange α → Prop
  /-- The address does not resolve, and nothing is sent. -/
  | badUrl {cause} (hurl : c.resolve op.url = .error (.badUrl cause)) :
    Ending op c send ⟨[], .error (.badUrl cause)⟩
  /-- The one request that was sent has no response. -/
  | unanswered {url cause} (hurl : c.resolve op.url = .ok url)
    (hsend : send (c.request url) = .error cause) :
    Ending op c send ⟨[c.request url], .error (.transport cause)⟩
  /-- The status is no success, whatever the body is. -/
  | refused {url r} (hurl : c.resolve op.url = .ok url) (hsend : send (c.request url) = .ok r)
    (hstatus : ¬(200 ≤ r.status.code ∧ r.status.code ≤ 299)) :
    Ending op c send ⟨[c.request url], .error (.http r.url.text r.status (shownBody r.body))⟩
  /-- The whole body is not of the type. -/
  | undecodable {url r source} (hurl : c.resolve op.url = .ok url)
    (hsend : send (c.request url) = .ok r)
    (hstatus : 200 ≤ r.status.code ∧ r.status.code ≤ 299)
    (hbody : decode op.read r.body = .error source) :
    Ending op c send
      ⟨[c.request url], .error (.invalidData r.url.text source (shownBody r.body))⟩
  /-- The whole body is a value of the type. -/
  | decoded {url r v} (hurl : c.resolve op.url = .ok url) (hsend : send (c.request url) = .ok r)
    (hstatus : 200 ≤ r.status.code ∧ r.status.code ≤ 299)
    (hbody : decode op.read r.body = .ok v) : Ending op c send ⟨[c.request url], .ok v⟩

/-! ## Each step -/

theorem mapError_ok {ε ε' : Type} (f : ε → ε') (a : α) :
    (Except.ok a : Except ε α).mapError f = .ok a := rfl

theorem mapError_error {ε ε' : Type} (f : ε → ε') (e : ε) :
    (Except.error e : Except ε α).mapError f = .error (f e) := rfl

theorem isSuccess_iff (s : Status) : s.isSuccess = true ↔ 200 ≤ s.code ∧ s.code ≤ 299 := by
  simp only [Status.isSuccess, Bool.and_eq_true, decide_eq_true_eq]
  omega

theorem resolve_eq_error {url : String} {e : Error} (h : c.resolve url = .error e) :
    ∃ cause, e = .badUrl cause := by
  rw [Client.resolve] at h
  cases hjoin : c.endpoint.join url with
  | error cause =>
    rw [hjoin] at h
    cases h
    exact ⟨cause, rfl⟩
  | ok u =>
    rw [hjoin] at h
    cases h

theorem get_of_error {url : String} {e : Error} (h : c.resolve url = .error e) :
    c.get send url = ⟨[], .error e⟩ := by
  simp [Client.get, h]

theorem get_of_ok {url : String} {u : Url} (h : c.resolve url = .ok u) :
    c.get send url = ⟨[c.request u], (send (c.request u)).mapError .transport⟩ := by
  simp [Client.get, h, Client.request]

theorem fetch_of_response {url : String} {u : Url} {r : Response} (hurl : c.resolve url = .ok u)
    (hsend : send (c.request u) = .ok r) :
    c.fetch send url = ⟨[c.request u], Client.success r⟩ := by
  simp [Client.fetch, get_of_ok hurl, hsend, mapError_ok, Except.bind]

/-! ## The whole run -/

theorem Ending.run_eq {x : Exchange α} (h : Ending op c send x) : op.run c send = x := by
  cases h with
  | badUrl hurl => simp [Operation.run, Client.fetch, get_of_error hurl, Except.bind]
  | unanswered hurl hsend =>
    simp [Operation.run, Client.fetch, get_of_ok hurl, hsend, mapError_error, Except.bind]
  | refused hurl hsend hstatus =>
    rw [← isSuccess_iff] at hstatus
    simp [Operation.run, fetch_of_response hurl hsend, Client.success, hstatus, Except.bind,
      Error.ofStatus, bodySnippet, shownBody, snippetLimit]
  | undecodable hurl hsend hstatus hbody =>
    rw [← isSuccess_iff] at hstatus
    simp [Operation.run, fetch_of_response hurl hsend, Client.success, hstatus, Except.bind,
      decodeBody, hbody, mapError_error, Error.ofMisread, bodySnippet, shownBody, snippetLimit]
  | decoded hurl hsend hstatus hbody =>
    rw [← isSuccess_iff] at hstatus
    simp [Operation.run, fetch_of_response hurl hsend, Client.success, hstatus, Except.bind,
      decodeBody, hbody, mapError_ok]

theorem exists_ending (op : Operation α) (c : Client) (send : Transport) :
    ∃ x, Ending op c send x := by
  cases hurl : c.resolve op.url with
  | error e =>
    obtain ⟨cause, rfl⟩ := resolve_eq_error hurl
    exact ⟨_, .badUrl hurl⟩
  | ok url =>
    cases hsend : send (c.request url) with
    | error cause => exact ⟨_, .unanswered hurl hsend⟩
    | ok r =>
      by_cases hstatus : 200 ≤ r.status.code ∧ r.status.code ≤ 299
      · cases hbody : decode op.read r.body with
        | error source => exact ⟨_, .undecodable hurl hsend hstatus hbody⟩
        | ok v => exact ⟨_, .decoded hurl hsend hstatus hbody⟩
      · exact ⟨_, .refused hurl hsend hstatus⟩

theorem run_eq_iff {x : Exchange α} : op.run c send = x ↔ Ending op c send x := by
  constructor
  · rintro rfl
    obtain ⟨x, hx⟩ := exists_ending op c send
    rwa [hx.run_eq]
  · exact Ending.run_eq

/-! ## Kinds of results -/

/-- The address resolves, and this is the response to the request for it. -/
def Answered (op : Operation α) (c : Client) (send : Transport) (r : Response) : Prop :=
  ∃ url, c.resolve op.url = .ok url ∧ send (c.request url) = .ok r

/-- A run ends in one of the ways of `Ending` and in no other, and the kind of its result tells
which: the conditions exclude each other, and each rests on those before it having failed. -/
theorem run_ends (op : Operation α) (c : Client) (send : Transport) :
    (∀ x, op.run c send = x ↔ Ending op c send x) ∧
      ((∃ cause, (op.run c send).result = .error (.badUrl cause)) ↔
        ∃ e, c.resolve op.url = .error e) ∧
      ((∃ cause, (op.run c send).result = .error (.transport cause)) ↔
        ∃ url cause, c.resolve op.url = .ok url ∧ send (c.request url) = .error cause) ∧
      ((∃ url status text, (op.run c send).result = .error (.http url status text)) ↔
        ∃ r, Answered op c send r ∧ ¬(200 ≤ r.status.code ∧ r.status.code ≤ 299)) ∧
      ((∃ url source text, (op.run c send).result = .error (.invalidData url source text)) ↔
        ∃ r, Answered op c send r ∧ (200 ≤ r.status.code ∧ r.status.code ≤ 299) ∧
          ∃ source, decode op.read r.body = .error source) ∧
      ∀ v, (op.run c send).result = .ok v ↔
        ∃ r, Answered op c send r ∧ (200 ≤ r.status.code ∧ r.status.code ≤ 299) ∧
          decode op.read r.body = .ok v := by
  refine ⟨fun x => run_eq_iff, ?_⟩
  obtain ⟨x, hx⟩ := exists_ending op c send
  rw [hx.run_eq]
  cases hx with
  | badUrl hurl => simp [Answered, hurl]
  | unanswered hurl hsend => simp [Answered, hurl, hsend]
  | refused hurl hsend hstatus => simp [Answered, hurl, hsend, hstatus, -not_and]
  | undecodable hurl hsend hstatus hbody => simp [Answered, hurl, hsend, hstatus, hbody]
  | decoded hurl hsend hstatus hbody => simp [Answered, hurl, hsend, hstatus, hbody]

end FetchKit.Http
