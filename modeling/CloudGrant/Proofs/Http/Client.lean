import Mathlib.Logic.Relation
import CloudGrant.Http.Client
import CloudGrant.Proofs.Run.Throughout

/-!
# Requests and redirects

When a request can be made of the text of a URL (`Request.make_eq_ok_iff`), and what is sent for it: the
request itself, and then what redirects make of it. What a redirect keeps holds of all that is sent
(`sends_sendFollowing`): so it is with the headers (`Request.Bears`).
-/

namespace CloudGrant.Http

/-! ## Making requests -/

/-- A request can be made of a URL with a host that HTTP reaches, and headers with fit values. -/
theorem Request.make_eq_ok_iff {method : Method} {url : String} {headers : List (String × String)}
    {body : Option (List UInt8)} {r : Request} : make method url headers body = .ok r ↔
      ∃ u, Url.parse? url = some u ∧ u.hasHost = true ∧ u.isWeb = true ∧
        (∀ h ∈ headers, isFieldValue h.2 = true) ∧
        r = ⟨method, { u with userInfo := none }, loginHeaders u ++ headers, body⟩ := by
  unfold make
  cases Url.parse? url with
  | none => simp
  | some u =>
    have hhost : Url.hasHost { u with userInfo := none } = u.hasHost := rfl
    have hweb : Url.isWeb { u with userInfo := none } = u.isWeb := rfl
    have hvalues : (∀ h ∈ headers, isFieldValue h.2 = true) ↔
        headers.all (fun h => isFieldValue h.2) = true := List.all_eq_true.symm
    simp only [hhost, hweb, hvalues, Option.some.injEq, exists_eq_left']
    cases u.hasHost <;> cases u.isWeb <;> cases headers.all fun h => isFieldValue h.2
    all_goals simp [eq_comm]

/-- A request is sent, and what comes of the answer decides how it goes on. -/
theorem exists_sendFollowing (limit : Duration) (hops : Nat) (request : Request) :
    ∃ follow, request.sendFollowing limit hops =
      askNetwork (.send request limit) >>= request.receive follow := by
  cases hops <;> exact ⟨_, rfl⟩

theorem Response.isSuccess_iff {r : Response} :
    r.isSuccess = true ↔ 200 ≤ r.status ∧ r.status < 300 := by
  simp [Response.isSuccess]

/-! ## Redirects -/

/-- All requests that are sent have a property. -/
def Exchange.Sends (P : Request → Prop) : Exchange → Prop
  | send r _ => P r
  | wait _ => True

section Sends

variable {P : Request → Prop} {limit : Duration} {r : Request}

theorem sends_receive {follow : Request → NetWork (Except Failure Response)}
    (hfollow : ∀ response next, r.next? response = some next →
      (follow next).Throughout (Exchange.Sends P) fun _ => True)
    (answer : Option Response) :
    (r.receive follow answer).Throughout (Exchange.Sends P) fun _ => True := by
  cases answer with
  | none => exact Program.throughout_pure _
  | some response =>
    simp only [Request.receive]
    cases hr : r.next? response with
    | none => exact Program.throughout_pure _
    | some next => exact hfollow response next hr

/-- What every redirect keeps holds of all requests that are sent. -/
theorem sends_sendFollowing (hnext : ∀ r response next, P r → r.next? response = some next → P next)
    (hops : Nat) (h : P r) :
    (r.sendFollowing limit hops).Throughout (Exchange.Sends P) fun _ => True := by
  induction hops generalizing r with
  | zero =>
    refine Program.throughout_bind (Program.throughout_ask h) (sends_receive fun _ next _ => ?_)
    exact Program.throughout_pure _
  | succ hops ih =>
    refine Program.throughout_bind (Program.throughout_ask h) (sends_receive fun _ next hn => ?_)
    split
    · exact ih (hnext r _ next h hn)
    · exact Program.throughout_pure _

end Sends

/-- A request leads to another one by redirects alone. -/
def Request.Leads : Request → Request → Prop :=
  Relation.ReflTransGen fun r next => ∃ response, r.next? response = some next

/-- All that is sent for a request is what it leads to. -/
theorem sends_leads (r : Request) (limit : Duration) :
    (r.send limit).Throughout (Exchange.Sends r.Leads) fun _ => True :=
  sends_sendFollowing (fun _ response _ h hnext => h.tail ⟨response, hnext⟩) Request.maxRedirects .refl

/-- What came of sending a request and following up to so many redirects: until an answer redirects to
nowhere, or does not come, or the next place is out of reach, or there have been too many. -/
inductive Request.Followed (limit : Duration) :
    Nat → Request → List network.Event → Except Failure Response → Prop where
  | unanswered (hops : Nat) (r : Request) :
      Followed limit hops r [⟨.send r limit, none⟩] (.error (.unanswered r.url))
  | answered (hops : Nat) {r : Request} {response : Response} (h : r.next? response = none) :
      Followed limit hops r [⟨.send r limit, some response⟩] (.ok response)
  | tooOften {r next : Request} {response : Response} (h : r.next? response = some next) :
      Followed limit 0 r [⟨.send r limit, some response⟩] (.error (.redirectedTooOften r.url))
  | outOfReach {hops : Nat} {r next : Request} {response : Response}
      (h : r.next? response = some next) (hnext : (next.url.hasHost && next.url.isWeb) = false) :
      Followed limit (hops + 1) r [⟨.send r limit, some response⟩] (.error (.unsupported next.url))
  | redirected {hops : Nat} {r next : Request} {response : Response} {l : List network.Event}
      {o : Except Failure Response} (h : r.next? response = some next)
      (hnext : (next.url.hasHost && next.url.isWeb) = true) (hl : Followed limit hops next l o) :
      Followed limit (hops + 1) r (⟨.send r limit, some response⟩ :: l) o

/-- All headers but that of a body. -/
def withoutContent (headers : List (String × String)) : List (String × String) :=
  headers.filter fun h => h.1 ≠ "content-type"

/-- A request has some headers, perhaps without that of a body. -/
def Request.Bears (headers : List (String × String)) (r : Request) : Prop :=
  r.headers = headers ∨ r.headers = withoutContent headers

theorem withoutContent_idem (headers : List (String × String)) :
    withoutContent (withoutContent headers) = withoutContent headers := by
  simp [withoutContent, List.filter_filter]

theorem Request.Bears.asQuestion {headers : List (String × String)} {r : Request}
    (h : r.Bears headers) : r.asQuestion.Bears headers := by
  refine .inr ?_
  show withoutContent r.headers = _
  rcases h with h | h
  · rw [h]
  · rw [h, withoutContent_idem]

theorem Request.Bears.redirected {headers : List (String × String)} {r r' : Request} {status : Nat}
    (h : r.Bears headers) (hr : r.redirected? status = some r') : r'.Bears headers := by
  unfold Request.redirected? at hr
  split at hr
  · cases hr
    split
    · exact h.asQuestion
    · exact h
  · cases hr
    split
    · exact h.asQuestion
    · exact h
  · cases hr
    split
    · exact h
    · exact h.asQuestion
  · cases hr
    exact h
  · cases hr
    exact h
  · cases hr

/-- A redirect keeps the headers. -/
theorem Request.Bears.next {headers : List (String × String)} {r r' : Request} {response : Response}
    (h : r.Bears headers) (hr : r.next? response = some r') : r'.Bears headers := by
  obtain ⟨again, hagain, hr⟩ := Option.bind_eq_some_iff.mp hr
  obtain ⟨location, -, hr⟩ := Option.bind_eq_some_iff.mp hr
  obtain ⟨url, -, hr⟩ := Option.bind_eq_some_iff.mp hr
  cases hr
  have hbears : again.Bears headers := h.redirected hagain
  exact hbears

end CloudGrant.Http
