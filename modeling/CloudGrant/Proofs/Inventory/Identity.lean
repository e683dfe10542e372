import CloudGrant.Inventory.Client
import CloudGrant.Proofs.Http.Client

/-!
# The headers of requests to the inventory

Every request that is sent for a call to the inventory names the caller of the call, in one of two
ways and never in both: `Settings.Names` says what its headers hold. That is so for the first attempt
and for all that follow it, and also where a redirect is followed (`names_carryOut`).
-/

namespace CloudGrant

namespace Inventory

variable {s : Settings} {caller : Caller}

/-! ## Names of headers -/

/-- The values of a header. -/
def valuesOf (name : String) (headers : List (String × String)) : List String :=
  (headers.filter fun h => h.1 = name).map Prod.snd

theorem valuesOf_append {name : String} {headers headers' : List (String × String)} :
    valuesOf name (headers ++ headers') = valuesOf name headers ++ valuesOf name headers' := by
  unfold valuesOf
  rw [List.filter_append, List.map_append]

theorem valuesOf_cons_self (name value : String) (headers : List (String × String)) :
    valuesOf name ((name, value) :: headers) = value :: valuesOf name headers := by
  simp [valuesOf]

theorem valuesOf_cons_of_ne {name other : String} (h : other ≠ name) (value : String)
    (headers : List (String × String)) :
    valuesOf name ((other, value) :: headers) = valuesOf name headers := by
  simp [valuesOf, h]

theorem valuesOf_of_ne {name : String} {headers : List (String × String)}
    (h : ∀ p ∈ headers, p.1 ≠ name) : valuesOf name headers = [] := by
  unfold valuesOf
  rw [List.filter_eq_nil_iff.mpr, List.map_nil]
  intro p hp
  simpa using h p hp

theorem valuesOf_withoutContent {name : String} {headers : List (String × String)}
    (h : name ≠ "content-type") :
    valuesOf name (Http.withoutContent headers) = valuesOf name headers := by
  unfold valuesOf Http.withoutContent
  rw [List.filter_filter]
  refine congrArg (List.map Prod.snd) (List.filter_congr fun p _ => ?_)
  by_cases hp : p.1 = name
  · simp [hp, h]
  · simp [hp]

/-- The values of an optional header. -/
theorem valuesOf_optionalHeader_self (name value : String) :
    valuesOf name (optionalHeader name value) = if value = "" then [] else [value] := by
  unfold optionalHeader
  split
  · rfl
  · simp [valuesOf]

theorem valuesOf_optionalHeader_of_ne {name other : String} (h : other ≠ name) (value : String) :
    valuesOf name (optionalHeader other value) = [] := by
  unfold optionalHeader
  split
  · rfl
  · simp [valuesOf, h]

/-! ## The two ways to name a caller -/

/-- With a shared key the caller is the organisation and the account. -/
theorem valuesOf_headers_keyed {key : String} (h : s.sharedKey = some key) :
    valuesOf sharedKeyHeader (s.headers caller) = [key] ∧
      valuesOf orgHeader (s.headers caller) = (if caller.orgId = "" then [] else [caller.orgId]) ∧
      valuesOf accountHeader (s.headers caller) =
        (if caller.account = "" then [] else [caller.account]) ∧
      valuesOf identityHeader (s.headers caller) = [] := by
  have hheaders : s.headers caller = (sharedKeyHeader, key) ::
      (optionalHeader orgHeader caller.orgId ++ optionalHeader accountHeader caller.account) := by
    unfold Settings.headers
    rw [h]
    rfl
  rw [hheaders]
  refine ⟨?_, ?_, ?_, ?_⟩
  · rw [valuesOf_cons_self, valuesOf_append, valuesOf_optionalHeader_of_ne (by decide),
      valuesOf_optionalHeader_of_ne (by decide)]
    rfl
  · rw [valuesOf_cons_of_ne (by decide), valuesOf_append, valuesOf_optionalHeader_self,
      valuesOf_optionalHeader_of_ne (by decide), List.append_nil]
  · rw [valuesOf_cons_of_ne (by decide), valuesOf_append,
      valuesOf_optionalHeader_of_ne (by decide), valuesOf_optionalHeader_self, List.nil_append]
  · rw [valuesOf_cons_of_ne (by decide), valuesOf_append,
      valuesOf_optionalHeader_of_ne (by decide), valuesOf_optionalHeader_of_ne (by decide)]
    rfl

/-- Without a key the caller is an identity. -/
theorem valuesOf_headers_unkeyed (h : s.sharedKey = none) :
    valuesOf sharedKeyHeader (s.headers caller) = [] ∧
      valuesOf orgHeader (s.headers caller) = [] ∧
      valuesOf accountHeader (s.headers caller) = [] ∧
      valuesOf identityHeader (s.headers caller) =
        [if caller.identity = "" then synthesizedIdentity caller.account caller.orgId
          else caller.identity] := by
  have hheaders : s.headers caller = [(identityHeader,
      if caller.identity = "" then synthesizedIdentity caller.account caller.orgId
        else caller.identity)] := by
    unfold Settings.headers
    rw [h]
    simp only
    split <;> rfl
  rw [hheaders]
  refine ⟨?_, ?_, ?_, ?_⟩
  · exact valuesOf_cons_of_ne (by decide) ..
  · exact valuesOf_cons_of_ne (by decide) ..
  · exact valuesOf_cons_of_ne (by decide) ..
  · exact valuesOf_cons_self ..

/-- A request names a caller as the settings say: what else its headers hold says of which kind its
body is, or logs in the user that the inventory's URL names. -/
structure Settings.Names (s : Settings) (caller : Caller) (r : Http.Request) : Prop where
  values : ∀ name, name ≠ "content-type" → name ≠ "authorization" →
    valuesOf name r.headers = valuesOf name (s.headers caller)
  others : ∀ h ∈ r.headers, h ∈ s.headers caller ∨ h.1 = "content-type" ∨
    ∃ (c : Call) (u : Http.Url), Http.Url.parse? (s.url c) = some u ∧ h ∈ Http.loginHeaders u

theorem name_of_mem_loginHeaders {u : Http.Url} {h : String × String}
    (hh : h ∈ Http.loginHeaders u) : h.1 = "authorization" := by
  unfold Http.loginHeaders at hh
  split at hh
  · cases hh
  · rw [List.mem_singleton.mp hh]

theorem name_of_mem_contentHeaders {body : Option Json.Value} {h : String × String}
    (hh : h ∈ contentHeaders body) : h.1 = "content-type" := by
  unfold contentHeaders at hh
  split at hh
  · rw [List.mem_singleton.mp hh]
  · cases hh

/-- What a request is made of. -/
theorem request_eq_of_ok {c : Call} {r : Http.Request} (h : s.request caller c = .ok r) :
    ∃ u, Http.Url.parse? (s.url c) = some u ∧ r =
      { method := c.method
        url := { u with userInfo := none }
        headers := Http.loginHeaders u ++ (s.headers caller ++ contentHeaders c.body?)
        body := c.body?.map Json.Value.toBytes } := by
  obtain ⟨u, hu, -, -, -, hr⟩ := Http.Request.make_eq_ok_iff.mp h
  exact ⟨u, hu, hr⟩

theorem headers_of_request {c : Call} {r : Http.Request} (h : s.request caller c = .ok r) :
    ∃ u, Http.Url.parse? (s.url c) = some u ∧
      r.headers = Http.loginHeaders u ++ (s.headers caller ++ contentHeaders c.body?) := by
  obtain ⟨u, hu, rfl⟩ := request_eq_of_ok h
  exact ⟨u, hu, rfl⟩

theorem names_of_bears {c : Call} {u : Http.Url} (hu : Http.Url.parse? (s.url c) = some u)
    {r : Http.Request}
    (h : r.Bears (Http.loginHeaders u ++ (s.headers caller ++ contentHeaders c.body?))) :
    s.Names caller r where
  values name hcontent hlogin := by
    have hvalues : valuesOf name r.headers =
        valuesOf name (Http.loginHeaders u ++ (s.headers caller ++ contentHeaders c.body?)) := by
      rcases h with h | h
      · rw [h]
      · rw [h, valuesOf_withoutContent hcontent]
    have hnologin : valuesOf name (Http.loginHeaders u) = [] :=
      valuesOf_of_ne fun p hp => name_of_mem_loginHeaders hp ▸ hlogin.symm
    have hnocontent : valuesOf name (contentHeaders c.body?) = [] :=
      valuesOf_of_ne fun p hp => name_of_mem_contentHeaders hp ▸ hcontent.symm
    rw [hvalues, valuesOf_append, valuesOf_append, hnologin, hnocontent, List.nil_append,
      List.append_nil]
  others p hp := by
    have hmem : p ∈ Http.loginHeaders u ++ (s.headers caller ++ contentHeaders c.body?) := by
      rcases h with h | h
      · exact h ▸ hp
      · rw [h] at hp
        exact (List.mem_filter.mp hp).1
    rcases List.mem_append.mp hmem with hp | hp
    · exact .inr (.inr ⟨c, u, hu, hp⟩)
    rcases List.mem_append.mp hp with hp | hp
    · exact .inl hp
    · exact .inr (.inl (name_of_mem_contentHeaders hp))

/-! ## All attempts -/

theorem sends_sendAgain {operation : String} {request : Except Http.Failure Http.Request}
    {P : Http.Exchange → Prop} (hwait : ∀ span, P (.wait span))
    (h : ∀ r, request = .ok r → (r.send s.timeout).Throughout P fun _ => True) (again : Nat) :
    (s.sendAgain operation request again).Throughout P fun _ => True := by
  have hexchange : (exchange s.timeout request).Throughout P fun _ => True := by
    cases hr : request with
    | error f => exact Program.throughout_pure _
    | ok r => exact h r hr
  induction again with
  | zero =>
    unfold Settings.sendAgain
    refine Program.throughout_bind hexchange fun result => ?_
    cases verdict operation result <;> exact Program.throughout_pure _
  | succ again ih =>
    unfold Settings.sendAgain
    refine Program.throughout_bind hexchange fun result => ?_
    cases verdict operation result with
    | accepted body => exact Program.throughout_pure _
    | rejected e => exact Program.throughout_pure _
    | failed e => exact Program.throughout_bind (Program.throughout_ask (hwait _)) fun _ => ih

/-- **Every request that is sent for a call names its caller.** -/
theorem names_carryOut (s : Settings) (caller : Caller) (c : Call) :
    (s.carryOut caller c).Throughout (Http.Exchange.Sends (s.Names caller)) fun _ => True := by
  refine Program.throughout_bind ?_ fun _ => Program.throughout_pure _
  refine sends_sendAgain (fun _ => trivial) (fun r hr => ?_) _
  obtain ⟨u, hu, hheaders⟩ := headers_of_request hr
  have hsends : (r.send s.timeout).Throughout (Http.Exchange.Sends (Http.Request.Bears r.headers))
      fun _ => True :=
    Http.sends_sendFollowing (fun _ _ _ hbears => hbears.next) _ (.inl rfl)
  refine Program.Throughout.mono (hheaders ▸ hsends) fun e he => ?_
  cases e with
  | send r' limit => exact names_of_bears hu he
  | wait span => trivial

end Inventory

end CloudGrant
