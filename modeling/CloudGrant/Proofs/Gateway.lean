import CloudGrant.Gateway
import CloudGrant.Proofs.Cloud.Calls
import CloudGrant.Proofs.Run.Handled

/-!
# The login of an Amazon account

A gateway asks the services of an Amazon account with the login that it holds. The login is that of
the last client that was set up for such an account (`login_of_carried`), so that every request to
the services carries the login of a client of the same task (`login_of_mem`).
-/

namespace CloudGrant.Gateway

open Interface

variable {g : Gateway} {s t : Links}

/-- The login that is held after a question. -/
def loginAfter (login : String × String) : surroundings.Entry → String × String
  | ⟨.build .amazon c, some _⟩ => (c.username, c.secret)
  | _ => login

/-- The login that is held after a log. -/
def loginOf (login : String × String) (log : List surroundings.Entry) : String × String :=
  log.foldl loginAfter login

theorem loginAfter_of_not_builds {login : String × String} {e : surroundings.Entry}
    (h : Question.builds e.1 = false) : loginAfter login e = login := by
  obtain ⟨q, r⟩ := e
  cases q with
  | build cloud c => cases h
  | _ => rfl

theorem loginOf_append {login : String × String} {log log' : List surroundings.Entry} :
    loginOf login (log ++ log') = loginOf (loginOf login log) log' := List.foldl_append

theorem loginOf_of_not_builds {login : String × String} {log : List surroundings.Entry}
    (h : ∀ e ∈ log, Question.builds e.1 = false) : loginOf login log = login := by
  induction log generalizing login with
  | nil => rfl
  | cons e log ih =>
    obtain ⟨he, hlog⟩ := List.forall_mem_cons.mp h
    show loginOf (loginAfter login e) log = login
    rw [loginAfter_of_not_builds he, ih hlog]

/-- If no other client was set up after one then its login is held. -/
theorem loginOf_build {login : String × String} {before after : List surroundings.Entry}
    {c : Credential} (h : ∀ e ∈ after, Question.builds e.1 = false) :
    loginOf login (before ++ ⟨.build .amazon c, some ()⟩ :: after) = (c.username, c.secret) := by
  rw [loginOf_append]
  exact loginOf_of_not_builds h

/-! ## What a question is carried out by -/

/-- A request to the services of an Amazon account. -/
def IsService (d : Demand) : Prop := ∃ keyId secret region op, d = .service keyId secret region op

theorem asks_network {α : Type} {p : Program Http.network Unit α} :
    (p.through networkPart : Errand α).Asks fun d => ¬ IsService d :=
  Program.asks_through fun _ ⟨_, _, _, _, h⟩ => nomatch h

/-- Commands of an Azure session ask nothing but the tool. -/
theorem asks_azureCall {P : Demand → Prop} (h : ∀ q, P (.tool q)) {c : Azure.Call} :
    (g.azureCall c).Asks P := by
  have htool : ∀ {α : Type} {p : Program Azure.tool Unit α},
      (p.through toolPart : Errand α).Asks P := by
    intro α p
    exact Program.asks_through fun q => h q
  have hcommand : ∀ c, (command c).Asks P := by
    intro c
    refine Program.asks_bind Program.asks_get fun links => ?_
    cases links.session with
    | none => exact Program.asks_pure _
    | some session => exact htool
  cases c with
  | openSession =>
    refine Program.asks_bind htool fun r => ?_
    cases r with
    | error e => exact Program.asks_pure _
    | ok session => exact Program.asks_bind (Program.asks_modify _) fun _ => Program.asks_pure _
  | closeSession =>
    refine Program.asks_bind Program.asks_get fun links => ?_
    cases links.session with
    | none => exact Program.asks_pure _
    | some session =>
      refine Program.asks_bind htool fun _ => ?_
      exact Program.asks_bind (Program.asks_modify _) fun _ => Program.asks_pure _
  | login l => exact hcommand _
  | deploy name template => exact hcommand _
  | delete name => exact hcommand _
  | logout => exact hcommand _

theorem keeps_azureCall {c : Azure.Call} : (g.azureCall c).Keeps Links.login := by
  have hcommand : ∀ c, (command c).Keeps Links.login := by
    intro c
    refine Program.keeps_bind Program.keeps_get fun links => ?_
    cases links.session with
    | none => exact Program.keeps_pure _
    | some session => exact Program.keeps_through
  cases c with
  | openSession =>
    refine Program.keeps_bind Program.keeps_through fun r => ?_
    cases r with
    | error e => exact Program.keeps_pure _
    | ok session =>
      exact Program.keeps_bind (Program.keeps_modify fun _ => rfl) fun _ => Program.keeps_pure _
  | closeSession =>
    refine Program.keeps_bind Program.keeps_get fun links => ?_
    cases links.session with
    | none => exact Program.keeps_pure _
    | some session =>
      refine Program.keeps_bind Program.keeps_through fun _ => ?_
      exact Program.keeps_bind (Program.keeps_modify fun _ => rfl) fun _ => Program.keeps_pure _
  | login l => exact hcommand _
  | deploy name template => exact hcommand _
  | delete name => exact hcommand _
  | logout => exact hcommand _

theorem keeps_amazonCall {c : Amazon.Call} : (g.amazonCall c).Keeps Links.login :=
  Program.keeps_bind Program.keeps_get fun _ => Program.keeps_through

/-- The services are asked for a call to an account only, with the login that is held. -/
theorem login_of_stops {q : Question} {l : List outside.Event} {x : Stop outside q.Reply}
    (h : (g.handler q s).Stops l t x) {e : outside.Entry}
    (he : e ∈ l.map Event.entry ++ x.pending) {keyId secret region : String}
    {op : Amazon.Operation} (hd : e.1 = .service keyId secret region op) :
    (∃ c, q = .amazon c) ∧ (keyId, secret) = s.login := by
  have hother : (g.handler q).Asks (fun d => ¬ IsService d) → False := fun hasks =>
    hasks.logged h e he ⟨_, _, _, _, hd⟩
  have hnot : ∀ d, (∀ keyId secret region op, d ≠ .service keyId secret region op) →
      ¬ IsService d := fun _ hne ⟨_, _, _, _, h⟩ => hne _ _ _ _ h
  cases q with
  | amazon c =>
    have hcall : ((Amazon.carryOut g.region c).through
        (servicePart s.login.1 s.login.2 g.region) : Errand _).Asks
          fun d => ∃ op, d = Demand.service s.login.1 s.login.2 g.region op :=
      Program.asks_through fun op => ⟨op, rfl⟩
    obtain ⟨op', hop⟩ := hcall.logged (s := s) h e he
    cases hd.symm.trans hop
    exact ⟨⟨c, rfl⟩, rfl⟩
  | azure c => exact (hother (asks_azureCall fun _ => hnot _ (by simp))).elim
  | inventory caller c => exact (hother asks_network).elim
  | build cloud c =>
    cases cloud with
    | amazon => exact (hother (Program.asks_modify _)).elim
    | azure => exact (hother (Program.asks_pure _)).elim
  | wait ms => exact (hother (Program.asks_ask (hnot _ (by simp)))).elim
  | guid => exact (hother (Program.asks_ask (hnot _ (by simp)))).elim

/-- Setting up a client changes the login that is held, and nothing else does. -/
theorem login_eq_after {q : Question} {l : List outside.Event} {x : Stop outside q.Reply}
    (h : (g.handler q s).Stops l t x) : t.login = loginAfter s.login ⟨q, x.value?⟩ := by
  cases q with
  | amazon c => exact keeps_amazonCall h
  | azure c => exact keeps_azureCall h
  | inventory caller c =>
    exact Program.keeps_through (f := Links.login) h
  | build cloud c =>
    cases cloud with
    | amazon =>
      obtain ⟨rfl, rfl, rfl⟩ := Run.stops_done_iff.mp h
      rfl
    | azure =>
      obtain ⟨rfl, rfl, rfl⟩ := Run.stops_done_iff.mp h
      rfl
  | wait ms =>
    have hkeeps : (g.handler (.wait ms)).Keeps Links.login := Program.keeps_ask _
    exact hkeeps h
  | guid =>
    have hkeeps : (g.handler .guid).Keeps Links.login := Program.keeps_ask _
    exact hkeeps h

/-! ## Whole tasks -/

theorem loginAfter_of_timed {e : surroundings.timed.Event} {l : List outside.timed.Event}
    (h : (g.handler.timed e.1 s).Stops l t (.value e.2)) :
    t.login = loginOf s.login (entries [e]) := by
  obtain ⟨q, r⟩ := e
  rcases Handler.stops_timed h with ⟨hq, rfl, -⟩ | ⟨p, k, x, he, hs, -⟩
  · have hnone : entries [(⟨q, r⟩ : surroundings.timed.Event)] = [] := by
      cases q <;> first | rfl | cases hq
    rw [hnone]
    rfl
  · have hsome : entries [(⟨q, r⟩ : surroundings.timed.Event)] = [⟨p, x.value?⟩] := by
      rw [entries, List.filterMap_cons_some he, List.filterMap_nil]
    rw [hsome, login_eq_after hs]
    rfl

/-- **The login that is held is that of the last client that was set up.** -/
theorem login_of_carried {l : List surroundings.timed.Event} {k : List outside.timed.Event}
    (h : Run.Carried g.handler.timed s l k t) : t.login = loginOf s.login (entries l) := by
  induction h with
  | nil s => rfl
  | @cons s u t e l k k' he hl ih =>
    rw [ih, loginAfter_of_timed he, ← loginOf_append, ← entries_append]
    rfl

/-- **A request to the services is for a call to an account, and carries the login of the last client
that was set up before the call.** -/
theorem login_of_mem {l : List surroundings.timed.Event} {k : List outside.timed.Event}
    (h : Run.Carried g.handler.timed s l k t) {e : outside.Entry} (he : e ∈ entries k)
    {keyId secret region : String} {op : Amazon.Operation}
    (hd : e.1 = .service keyId secret region op) :
    ∃ before c r after, entries l = before ++ ⟨.amazon c, r⟩ :: after ∧
      (keyId, secret) = loginOf s.login before := by
  obtain ⟨d, hdmem, hentry⟩ := List.mem_filterMap.mp he
  obtain ⟨l₁, e', l₂, k₁, k₂, u, v, rfl, hbefore, hstops, hin⟩ := h.exists_of_mem hdmem
  have hmem : e ∈ entries k₂ := List.mem_filterMap.mpr ⟨d, hin, hentry⟩
  obtain ⟨q, r⟩ := e'
  rcases Handler.stops_timed hstops with ⟨-, -, hnil⟩ | ⟨p, k', x, hp, hs, hk⟩
  · rw [hnil] at hmem
    cases hmem
  rw [hk] at hmem
  obtain ⟨⟨c, rfl⟩, hlogin⟩ := login_of_stops hs hmem hd
  refine ⟨entries l₁, c, x.value?, entries l₂, ?_, hlogin.trans (login_of_carried hbefore)⟩
  rw [entries_append]
  exact congrArg (entries l₁ ++ ·) (List.filterMap_cons_some hp)

end CloudGrant.Gateway
