import Mathlib
import CloudGrant.Proofs.Inventory.Identity
import CloudGrant.Proofs.Run.History

/-!
# The attempts of a call

A call is attempted until an answer settles it, or the attempts are used up. Each attempt is the same
exchange with the network, in the world that the attempts before it have left (`worldOf`). `Attempted`
says which attempts were made and that the last of them decides what comes of the call; it holds of
every run (`attempted_sendAgain`), by induction on how many attempts are left.

Where all answers are complete this is the rule of the inventory: a call is repeated until it succeeds or
is rejected (`fetch_scripted`). An answer that breaks off never settles a call, not even one that says
that the call was rejected (`rejection_final_iff`).
-/

namespace CloudGrant.Inventory

open Interface

namespace Verdict

/-- No further attempt is made. -/
def Settles : Verdict → Prop
  | accepted _ | rejected _ => True
  | failed _ => False

/-- What comes of a call whose last attempt came to this. -/
def result : Verdict → Except InventoryError (List UInt8)
  | accepted body => .ok body
  | rejected e | failed e => .error e

end Verdict

section Attempts

variable {ω : Type} (s : Settings) (request : Except Http.Failure Http.Request)
  (answer : ω → (q : Http.network.Request) → Http.network.Reply q × ω) (w : ω) (n : Nat)

/-- The world after an attempt and the pause that follows it. -/
def afterwards : ω :=
  (answer ((exchange s.timeout request ()).exec answer w).2 (.wait s.retryDelay)).2

/-- The world in which an attempt is made that follows so many others. -/
def worldOf : ω := (afterwards s request answer)^[n] w

/-- What is asked in an attempt, with the answers. -/
def asked : List Http.network.Event :=
  (exchange s.timeout request ()).history answer (worldOf s request answer w n)

/-- What an attempt comes to. -/
def outcome : Except Http.Failure Http.Response :=
  ((exchange s.timeout request ()).exec answer (worldOf s request answer w n)).1.2

/-- The pause between two attempts. -/
def pause : Http.network.Event := ⟨.wait s.retryDelay, ()⟩

/-- A call was attempted until an attempt settled it, or none was left. Attempts are counted from
zero; between any two there was a pause. -/
structure Attempted (operation : String) (again last : Nat) (l : List Http.network.Event)
    (r : Except InventoryError (List UInt8)) : Prop where
  within : last ≤ again
  unsettled : ∀ n < last, ¬ (verdict operation (outcome s request answer w n)).Settles
  ended : (verdict operation (outcome s request answer w last)).Settles ∨ last = again
  history : l = ((List.range last).flatMap fun n => asked s request answer w n ++ [pause s]) ++
    asked s request answer w last
  result : r = (verdict operation (outcome s request answer w last)).result

variable {s request answer w n} {operation : String} {again last : Nat}
  {l : List Http.network.Event} {r : Except InventoryError (List UInt8)}

/-- A call whose first attempt is its last. -/
theorem attempted_once (h : (verdict operation (outcome s request answer w 0)).Settles ∨ again = 0) :
    Attempted s request answer w operation again 0 (asked s request answer w 0)
      (verdict operation (outcome s request answer w 0)).result where
  within := Nat.zero_le again
  unsettled := nofun
  ended := h.imp id Eq.symm
  history := rfl
  result := rfl

/-- A call that is attempted again after its first attempt. -/
theorem Attempted.after_first
    (h : Attempted s request answer (afterwards s request answer w) operation again last l r)
    (hfirst : ¬ (verdict operation (outcome s request answer w 0)).Settles) :
    Attempted s request answer w operation (again + 1) (last + 1)
      (asked s request answer w 0 ++ pause s :: l) r where
  within := Nat.succ_le_succ h.within
  unsettled n hn := by
    cases n with
    | zero => exact hfirst
    | succ n => exact h.unsettled n (Nat.lt_of_succ_lt_succ hn)
  ended := h.ended.imp id (congrArg (· + 1))
  history := by
    rw [h.history, List.range_succ_eq_map, List.flatMap_cons, List.flatMap_map, List.append_assoc,
      List.append_assoc]
    rfl
  result := h.result

/-- The last attempt decides, whatever it comes to. -/
theorem sendAgain_zero : s.sendAgain operation request 0 =
    exchange s.timeout request >>= fun result => pure (verdict operation result).result := by
  unfold Settings.sendAgain
  refine congrArg (exchange s.timeout request >>= ·) (funext fun result => ?_)
  cases verdict operation result <;> rfl

/-- **However it is answered, a call is attempted until an attempt settles it, or none is left.** -/
theorem attempted_sendAgain (again : Nat) (w : ω) : ∃ last,
    Attempted s request answer w operation again last
      ((s.sendAgain operation request again ()).history answer w)
      ((s.sendAgain operation request again ()).exec answer w).1.2 := by
  -- what follows the first attempt and its pause are the same attempts from a later world
  induction again generalizing w with
  | zero =>
    refine ⟨0, ?_⟩
    rw [sendAgain_zero, Program.history_bind, Program.exec_bind]
    have honce : Attempted s request answer w operation 0 0 _ _ := attempted_once (.inr rfl)
    rwa [← List.append_nil (asked s request answer w 0)] at honce
  | succ again ih =>
    unfold Settings.sendAgain
    rw [Program.history_bind, Program.exec_bind]
    -- the first attempt is made in the world `w` itself
    cases hv : verdict operation ((exchange s.timeout request ()).exec answer w).1.2 with
    | accepted _ | rejected _ =>
      have hfirst : verdict operation (outcome s request answer w 0) = _ := hv
      have honce : Attempted s request answer w operation (again + 1) 0 _ _ :=
        attempted_once (.inl (hfirst ▸ trivial))
      rw [hfirst, ← List.append_nil (asked s request answer w 0)] at honce
      exact ⟨0, honce⟩
    | failed e =>
      have hfirst : verdict operation (outcome s request answer w 0) = .failed e := hv
      obtain ⟨last, hlater⟩ := ih (afterwards s request answer w)
      exact ⟨last + 1, hlater.after_first (hfirst ▸ id)⟩

end Attempts

/-! ## Statuses -/

/-- A status that says that a call succeeded. -/
def Accepts (status : Nat) : Prop := 200 ≤ status ∧ status < 300

/-- A status that says that a call was a mistake: of the statuses for that all but two, which say that
the same call may succeed later. -/
def Rejects (status : Nat) : Prop :=
  400 ≤ status ∧ status < 500 ∧ status ≠ 408 ∧ status ≠ 429

instance : DecidablePred Accepts := fun _ => inferInstanceAs (Decidable (_ ∧ _))

instance : DecidablePred Rejects := fun _ => inferInstanceAs (Decidable (_ ∧ _ ∧ _ ∧ _))

theorem isSuccess_iff {response : Http.Response} :
    response.isSuccess = true ↔ Accepts response.status :=
  Http.Response.isSuccess_iff

theorem isFinal_iff {status : Nat} : isFinal status = true ↔ Rejects status := by
  simp [isFinal, Rejects, and_assoc]

variable {operation : String} {response : Http.Response}

/-- What a response comes to that was read to its end. -/
theorem verdict_of_body {body : List UInt8} (h : response.body = some body) :
    verdict operation (.ok response) =
      if Accepts response.status then .accepted body
      else if Rejects response.status then
        .rejected ⟨operation, some response.status, Text.Utf8.decodeLossy body⟩
      else .failed ⟨operation, some response.status, Text.Utf8.decodeLossy body⟩ := by
  unfold verdict Http.Response.read
  simp only [h, isSuccess_iff, isFinal_iff]

theorem verdict_of_rejection {body : List UInt8} (hr : Rejects response.status)
    (h : response.body = some body) : verdict operation (.ok response) =
      .rejected ⟨operation, some response.status, Text.Utf8.decodeLossy body⟩ := by
  have hnot : ¬ Accepts response.status := fun ha =>
    absurd (Nat.lt_of_lt_of_le ha.2 (by decide : 300 ≤ 400)) (Nat.not_lt.mpr hr.1)
  rw [verdict_of_body h, if_neg hnot, if_pos hr]

/-- A response that breaks off is a failure, whatever its status. -/
theorem verdict_of_no_body (operation : String) (h : response.body = none) :
    verdict operation (.ok response) = .failed ⟨operation, some response.status,
      "failed to read response body: " ++ Http.Failure.brokenOff.message⟩ := by
  unfold verdict Http.Response.read
  simp only [h]

/-! ## Answers that are complete -/

/-- An answer that came to its end. -/
structure Answer where
  status : Nat
  headers : List (String × String)
  body : List UInt8

namespace Answer

def toResponse (a : Answer) : Http.Response := ⟨a.status, a.headers, some a.body⟩

/-- What comes of a call that was answered so in the end. -/
def result (operation : String) (a : Answer) : Except InventoryError (List UInt8) :=
  if Accepts a.status then .ok a.body
  else .error ⟨operation, some a.status, Text.Utf8.decodeLossy a.body⟩

end Answer

/-- Whether an attempt is the last: it was answered, by a success or a rejection. -/
def Decisive : Option Answer → Prop
  | none => False
  | some a => Accepts a.status ∨ Rejects a.status

/-- A network that answers one request after another, counting them from one. -/
def scripted (outcomes : Nat → Option Answer) (n : Nat) :
    (q : Http.network.Request) → Http.network.Reply q × Nat
  | .send .. => ((outcomes (n + 1)).map Answer.toResponse, n + 1)
  | .wait _ => ((), n)

/-- A request that was sent, with its answer. -/
def sent (s : Settings) (request : Http.Request) (o : Option Answer) : Http.network.Event :=
  ⟨.send request s.timeout, o.map Answer.toResponse⟩

/-- What a request comes to that is answered so, and not redirected. -/
def answered (request : Http.Request) : Option Answer → Except Http.Failure Http.Response
  | none => .error (.unanswered request.url)
  | some a => .ok a.toResponse

variable {request : Http.Request} {o : Option Answer}

theorem verdict_answered (a : Answer) : verdict operation (answered request (some a)) =
    if Accepts a.status then .accepted a.body
    else if Rejects a.status then
      .rejected ⟨operation, some a.status, Text.Utf8.decodeLossy a.body⟩
    else .failed ⟨operation, some a.status, Text.Utf8.decodeLossy a.body⟩ :=
  have hbody : a.toResponse.body = some a.body := rfl
  verdict_of_body hbody

theorem settles_verdict_answered :
    (verdict operation (answered request o)).Settles ↔ Decisive o := by
  cases o with
  | none => exact Iff.rfl
  | some a =>
    rw [verdict_answered]
    unfold Decisive
    split
    · next ha => exact iff_of_true trivial (.inl ha)
    · next ha =>
      split
      · next hr => exact iff_of_true trivial (.inr hr)
      · next hr => exact iff_of_false id (not_or.mpr ⟨ha, hr⟩)

/-- What comes of a call in the end, by its last answer. -/
def concluded (operation : String) (request : Http.Request) :
    Option Answer → Except InventoryError (List UInt8)
  | none => .error ⟨operation, none, (Http.Failure.unanswered request.url).message⟩
  | some a => a.result operation

theorem result_verdict_answered :
    (verdict operation (answered request o)).result = concluded operation request o := by
  cases o with
  | none => rfl
  | some a =>
    rw [verdict_answered]
    show _ = a.result operation
    unfold Answer.result
    split
    · rfl
    · split <;> rfl

/-- A request that is not redirected is sent once. -/
theorem send_scripted {limit : Duration} {outcomes : Nat → Option Answer} {n : Nat}
    (h : ∀ a, outcomes (n + 1) = some a → request.next? a.toResponse = none) :
    (request.send limit ()).history (scripted outcomes) n =
        [⟨.send request limit, (outcomes (n + 1)).map Answer.toResponse⟩] ∧
      (request.send limit ()).exec (scripted outcomes) n =
        (((), answered request (outcomes (n + 1))), n + 1) := by
  obtain ⟨follow, hsend⟩ :=
    Http.exists_sendFollowing limit Http.Request.maxRedirects request
  have hreceive : request.receive follow ((outcomes (n + 1)).map Answer.toResponse) =
      pure (answered request (outcomes (n + 1))) := by
    cases ho : outcomes (n + 1) with
    | none => rfl
    | some a =>
      simp only [Option.map_some, Http.Request.receive, h a ho]
      rfl
  unfold Http.Request.send
  rw [hsend, Program.history_bind, Program.exec_bind]
  show [_] ++ (request.receive follow ((outcomes (n + 1)).map Answer.toResponse) ()).history _ _ = _ ∧
    (request.receive follow ((outcomes (n + 1)).map Answer.toResponse) ()).exec _ _ = _
  rw [hreceive]
  exact ⟨rfl, rfl⟩

/-- The time that is waited in a history, in nanoseconds. -/
def waited (l : List Http.network.Event) : Nat :=
  (l.map fun e => match e.1 with
    | .wait span => span.nanoseconds
    | .send .. => 0).sum

theorem waited_append (l l' : List Http.network.Event) :
    waited (l ++ l') = waited l + waited l' := by
  simp [waited]

/-- As often as there is a pause. -/
theorem waited_flatMap {f : Nat → List Http.network.Event} {d : Nat} (h : ∀ n, waited (f n) = d)
    (last : Nat) : waited ((List.range last).flatMap f) = last * d := by
  induction last with
  | zero => simp [waited]
  | succ last ih =>
    rw [List.range_succ, List.flatMap_append, waited_append, ih, List.flatMap_singleton, h,
      Nat.succ_mul]

/-! ## Calls that are answered completely -/

section Scripted

variable {s : Settings} {outcomes : Nat → Option Answer}

theorem worldOf_scripted
    (h : ∀ k a, outcomes k = some a → request.next? a.toResponse = none) (n : Nat) :
    worldOf s (.ok request) (scripted outcomes) 0 n = n := by
  have hnext : ∀ n, afterwards s (.ok request) (scripted outcomes) n = n + 1 := by
    intro n
    show (scripted outcomes ((request.send s.timeout ()).exec (scripted outcomes) n).2 _).2 = _
    rw [(send_scripted (h (n + 1))).2]
    rfl
  induction n with
  | zero => rfl
  | succ n ih =>
    unfold worldOf at ih ⊢
    rw [Function.iterate_succ_apply', ih, hnext]

theorem asked_scripted
    (h : ∀ k a, outcomes k = some a → request.next? a.toResponse = none) (n : Nat) :
    asked s (.ok request) (scripted outcomes) 0 n =
      [sent s request (outcomes (n + 1))] := by
  unfold asked
  rw [worldOf_scripted h]
  exact (send_scripted (h (n + 1))).1

theorem outcome_scripted
    (h : ∀ k a, outcomes k = some a → request.next? a.toResponse = none) (n : Nat) :
    outcome s (.ok request) (scripted outcomes) 0 n = answered request (outcomes (n + 1)) := by
  unfold outcome
  rw [worldOf_scripted h]
  exact congrArg (fun p => p.1.2) (send_scripted (h (n + 1))).2

/-- **A call is repeated as long as this may help.** The request of the call is sent again until an answer
is a success or a rejection, or as often as the settings allow; between two times there is a pause and
after the last there is none. What comes of the call is decided by the last answer alone. A request that
cannot be made fails each time. -/
theorem fetch_scripted (s : Settings) (caller : Caller) (c : Call) (outcomes : Nat → Option Answer)
    (hstay : ∀ request, s.request caller c = .ok request →
      ∀ k a, outcomes k = some a → request.next? a.toResponse = none) :
    ∃ l r, (s.fetch caller c ()).history (scripted outcomes) 0 = l ∧
      ((s.fetch caller c ()).exec (scripted outcomes) 0).1.2 = r ∧
      (∀ request, s.request caller c = .ok request →
        (∃ u, Http.Url.parse? (s.url c) = some u ∧ request =
          { method := c.method
            url := { u with userInfo := none }
            headers := Http.loginHeaders u ++ (s.headers caller ++ contentHeaders c.body?)
            body := c.body?.map Json.Value.toBytes }) ∧
        ∃ k, 1 ≤ k ∧ k ≤ max s.attempts 1 ∧
          (∀ j, 1 ≤ j → j < k → ¬ Decisive (outcomes j)) ∧
          (Decisive (outcomes k) ∨ k = max s.attempts 1) ∧
          l = ((List.range (k - 1)).flatMap fun n => [sent s request (outcomes (n + 1)), pause s]) ++
            [sent s request (outcomes k)] ∧
          waited l = (k - 1) * s.retryDelay.nanoseconds ∧
          r = concluded c.operation request (outcomes k)) ∧
      ∀ f, s.request caller c = .error f →
        l = List.replicate (max s.attempts 1 - 1) (pause s) ∧
        waited l = (max s.attempts 1 - 1) * s.retryDelay.nanoseconds ∧
        r = .error ⟨c.operation, none, f.message⟩ := by
  obtain ⟨last, hattempted⟩ : ∃ last, Attempted s (s.request caller c) (scripted outcomes) 0
      c.operation (s.attempts - 1) last ((s.fetch caller c ()).history (scripted outcomes) 0)
      ((s.fetch caller c ()).exec (scripted outcomes) 0).1.2 := attempted_sendAgain _ 0
  have hattempts : s.attempts - 1 = max s.attempts 1 - 1 := by omega
  refine ⟨_, _, rfl, rfl, fun request hrequest => ⟨request_eq_of_ok hrequest, last + 1, ?_⟩,
    fun f hf => ?_⟩
  · rw [hrequest] at hattempted
    obtain ⟨hwithin, hunsettled, hended, hhistory, hresult⟩ := hattempted
    simp only [outcome_scripted (hstay request hrequest), asked_scripted (hstay request hrequest),
      settles_verdict_answered, result_verdict_answered] at hunsettled hended hhistory hresult
    rw [hhistory, hresult]
    refine ⟨Nat.succ_pos last, by omega, fun j hj hlast => ?_, hended.imp id (by omega), rfl, ?_, rfl⟩
    · obtain ⟨n, rfl⟩ := Nat.exists_eq_add_of_le' hj
      exact hunsettled n (by omega)
    · have hpaused : ∀ n, waited ([sent s request (outcomes (n + 1))] ++ [pause s]) =
          s.retryDelay.nanoseconds := fun n => by simp [waited, sent, pause]
      rw [waited_append, waited_flatMap hpaused]
      rfl
  · rw [hf] at hattempted
    obtain ⟨hwithin, hunsettled, hended, hhistory, hresult⟩ := hattempted
    -- an attempt that cannot be made asks nothing and settles nothing
    have hlast : last = max s.attempts 1 - 1 := hattempts ▸ hended.resolve_left id
    have hpauses : (s.fetch caller c ()).history (scripted outcomes) 0 =
        (List.range last).flatMap fun _ => [pause s] := by
      rw [hhistory]
      exact List.append_nil _
    rw [hpauses, hresult, ← hlast, waited_flatMap fun _ => rfl]
    refine ⟨?_, rfl, rfl⟩
    rw [← List.map_eq_flatMap, List.map_const', List.length_range]

/-- The inventory at a host, with three attempts and a second between them. -/
def atHost : Settings := Settings.ofUrl "http://inventory"

/-- A call that is made for nobody. -/
def nobody : Caller := ⟨"", "", ""⟩

/-- An inventory that is overloaded, then does not answer, and then answers. -/
def recovering : Nat → Option Answer
  | 1 => some ⟨503, [], []⟩
  | 2 => none
  | _ => some ⟨200, [], []⟩

/-- A call succeeds at its third attempt, after two pauses. -/
theorem fetch_recovering :
    (∀ request, atHost.request nobody (.checkAvailability "10") = .ok request →
      ∀ k a, recovering k = some a → request.next? a.toResponse = none) ∧
    waited ((atHost.fetch nobody (.checkAvailability "10") ()).history (scripted recovering) 0) =
      2000000000 ∧
    ((atHost.fetch nobody (.checkAvailability "10") ()).exec (scripted recovering) 0).1.2 = .ok [] := by
  have hstay : ∀ request, atHost.request nobody (.checkAvailability "10") = .ok request →
      ∀ k a, recovering k = some a → request.next? a.toResponse = none := by
    intro request _ k a ha
    unfold recovering at ha
    split at ha <;> cases ha <;> rfl
  refine ⟨hstay, ?_⟩
  obtain ⟨l, r, hl, hr, hmade, -⟩ :=
    fetch_scripted atHost nobody (.checkAvailability "10") recovering hstay
  have hok : (atHost.request nobody (.checkAvailability "10")).isOk = true := by decide +kernel
  cases hrequest : atHost.request nobody (.checkAvailability "10") with
  | error f =>
    rw [hrequest] at hok
    cases hok
  | ok request =>
    obtain ⟨-, k, hpos, hmax, -, hended, -, hwaited, hresult⟩ := hmade request hrequest
    have hfirst : ¬ Decisive (recovering 1) := by simp [recovering, Decisive, Accepts, Rejects]
    have hsecond : ¬ Decisive (recovering 2) := id
    have hk : k = 3 := by
      rcases hended with hended | hended
      · have hne : k ≠ 1 ∧ k ≠ 2 := ⟨fun h => hfirst (h ▸ hended), fun h => hsecond (h ▸ hended)⟩
        have hthree : k ≤ 3 := hmax
        omega
      · exact hended
    subst hk
    rw [hl, hr, hresult]
    exact ⟨hwaited, rfl⟩

end Scripted

/-! ## Rejections -/

/-- **A rejection that was read to its end is final, one that broke off is not**: then the call is
attempted again, unless no attempt is left. However the network answers, of all attempts that were
answered with a rejection those decide the call which were read to their end, or are the last that the
settings allow. -/
theorem rejection_final_iff {ω : Type} (s : Settings) (caller : Caller) (c : Call)
    (answer : ω → (q : Http.network.Request) → Http.network.Reply q × ω) (w : ω) :
    ∃ last l r, (s.fetch caller c ()).history answer w = l ∧
      ((s.fetch caller c ()).exec answer w).1.2 = r ∧ last < max s.attempts 1 ∧
      l = ((List.range last).flatMap fun n =>
          asked s (s.request caller c) answer w n ++ [pause s]) ++
        asked s (s.request caller c) answer w last ∧
      ∀ n ≤ last, ∀ response, outcome s (s.request caller c) answer w n = .ok response →
        Rejects response.status →
          ((n = last ∧ ∃ body, r = .error ⟨c.operation, some response.status, body⟩) ↔
            response.body.isSome = true ∨ n + 1 = max s.attempts 1) := by
  obtain ⟨last, hattempted⟩ : ∃ last, Attempted s (s.request caller c) answer w c.operation
      (s.attempts - 1) last ((s.fetch caller c ()).history answer w)
      ((s.fetch caller c ()).exec answer w).1.2 := attempted_sendAgain _ w
  obtain ⟨hwithin, hunsettled, hended, hhistory, hresult⟩ := hattempted
  refine ⟨last, _, _, rfl, rfl, by omega, hhistory, fun n hn response hr hrejects => ?_⟩
  rw [hresult]
  cases hbody : response.body with
  | some body =>
    have hverdict : verdict c.operation (outcome s (s.request caller c) answer w n) =
        .rejected ⟨c.operation, some response.status, Text.Utf8.decodeLossy body⟩ := by
      rw [hr, verdict_of_rejection hrejects hbody]
    have hlast : n = last := by
      refine (Nat.eq_or_lt_of_le hn).resolve_right fun hlt => hunsettled n hlt ?_
      rw [hverdict]
      trivial
    rw [← hlast, hverdict]
    exact iff_of_true ⟨rfl, _, rfl⟩ (.inl rfl)
  | none =>
    have hverdict := verdict_of_no_body c.operation hbody
    rw [← hr] at hverdict
    constructor
    · rintro ⟨rfl, -⟩
      rw [hverdict] at hended
      have hused : n = s.attempts - 1 := hended.resolve_left id
      exact .inr (by omega)
    · rintro (hread | hused)
      · cases hread
      · have hlast : n = last := by omega
        rw [← hlast, hverdict]
        exact ⟨rfl, _, rfl⟩

/-- The statuses with which requests were answered. -/
def statuses (l : List Http.network.Event) : List Nat :=
  l.filterMap fun
    | ⟨.send .., some response⟩ => some response.status
    | _ => none

/-- An inventory that breaks off a rejection, and then accepts. -/
def breakingOff (n : Nat) : (q : Http.network.Request) → Http.network.Reply q × Nat
  | .send .. => (some (if n = 0 then ⟨404, [], none⟩ else ⟨200, [], some []⟩), n + 1)
  | .wait _ => ((), n)

/-- A call that was rejected is repeated, and succeeds. -/
theorem rejected_call_repeated :
    Rejects 404 ∧
      statuses ((atHost.fetch nobody (.patchSource "10" "unavailable") ()).history breakingOff 0) =
        [404, 200] ∧
      ((atHost.fetch nobody (.patchSource "10" "unavailable") ()).exec breakingOff 0).1.2.toOption =
        some [] := by
  decide +kernel

end CloudGrant.Inventory
