import CloudGrant.Gateway
import CloudGrant.Proofs.Service.Secret
import CloudGrant.Proofs.Service.Unwinding
import CloudGrant.Proofs.Wire

/-!
# Where the secret of a credential goes

Two requests whose credentials are twins ask the same of the world outside, but for the login that
requests to an Amazon account are made with and for the password that the command line tool is given
when it logs in (`Demand.Twin`). The inventory may answer with bodies that are read alike
(`Inventory.ReadAlike`); everything else must be answered the same.

What the tool prints, what the network answers and what cannot be decoded becomes part of a failure
on the way back, and is the same as long as these answers are (`couples_handler`).
-/

namespace CloudGrant

open Interface Simulation

/-! ## Answers of the inventory -/

namespace Inventory

/-- Two bodies that are read alike: as credentials that are twins, and as the same id, or both times
with the same failure. -/
structure ReadAlike (b b' : List UInt8) : Prop where
  credential : Likewise Credential.Twin (Json.decode Wire.credential b)
    (Json.decode Wire.credential b')
  id : Json.decode Wire.authenticationId b = Json.decode Wire.authenticationId b'

theorem readAlike_rfl (b : List UInt8) : ReadAlike b b :=
  ⟨likewise_rfl Credential.twin_rfl _, rfl⟩

/-- Twin credentials are read alike, if their extra data is read at all. -/
theorem readAlike_toJson {c c' : Credential} (h : c.Twin c')
    (hread : Json.Reads Json.Decoder.value 127 c.extra c.extra)
    (hvalid : Json.Valid (Json.bytes c.extra.render)) :
    ReadAlike (Wire.Credential.toJson c).toBytes (Wire.Credential.toJson c').toBytes := by
  obtain ⟨secret, hempty, rfl⟩ := h
  have hread' := Wire.decode_credential (c := { c with secret := secret }) hread
  have hid' := Wire.decode_authenticationId (c := { c with secret := secret }) hvalid
  constructor
  · rw [Wire.decode_credential hread, hread']
    exact .ok ⟨secret, hempty, rfl⟩
  · rw [Wire.decode_authenticationId hvalid, hid']

end Inventory

namespace Http

/-- Two responses that differ in their bodies only, and only if these come with a success and are
read alike. -/
def Response.Twin (x x' : Response) : Prop :=
  ∃ body, x' = { x with body := body } ∧ Option.Rel Inventory.ReadAlike x.body body ∧
    (x.isSuccess = false → body = x.body)

/-- The same answer of the network, or responses that are twins. -/
inductive Exchange.TwinReply : (e e' : Exchange) → e.Reply → e'.Reply → Prop where
  | response (request : Request) (limit : Duration) {x x' : Option Response}
      (h : Option.Rel Response.Twin x x') :
      TwinReply (.send request limit) (.send request limit) x x'
  | wait (span : Duration) : TwinReply (.wait span) (.wait span) () ()

/-- The same requests, with responses that are twins. -/
def secrets : Coupling network := ⟨Eq, Exchange.TwinReply⟩

end Http

/-! ## The world outside -/

namespace Gateway

/-- The same is asked of the world outside, but for the login to an Amazon account and the password
that the tool is given. -/
inductive Demand.Twin : Demand → Demand → Prop where
  | same (d : Demand) : Twin d d
  | service (keyId secret secret' region : String) (o : Amazon.Operation) :
      Twin (.service keyId secret region o) (.service keyId secret' region o)
  | password (home : String) (before after : List String) (password password' : String) :
      Twin (.tool (.run home (before ++ ("--password=" ++ password) :: after)))
        (.tool (.run home (before ++ ("--password=" ++ password') :: after)))

/-- The world outside answers the same, or the network answers with twins. -/
inductive Demand.TwinReply : (d d' : Demand) → d.Reply → d'.Reply → Prop where
  | network {e e' : Http.Exchange} {r : e.Reply} {r' : e'.Reply} (h : e.TwinReply e' r r') :
      TwinReply (.network e) (.network e') r r'
  | service (keyId secret secret' region : String) (o : Amazon.Operation)
      (r : Except Amazon.Refusal o.Result) :
      TwinReply (.service keyId secret region o) (.service keyId secret' region o) r r
  | tool (q : Azure.ToolQuestion) (r : q.Reply) : TwinReply (.tool q) (.tool q) r r
  | password (home : String) (arguments arguments' : List String) (outcome : Azure.Outcome) :
      TwinReply (.tool (.run home arguments)) (.tool (.run home arguments')) outcome outcome
  | guid (guid : String) : TwinReply .guid .guid guid guid

theorem Demand.TwinReply.outcome_eq {home : String} {arguments arguments' : List String}
    {r r' : Azure.Outcome}
    (h : TwinReply (.tool (.run home arguments)) (.tool (.run home arguments')) r r') : r = r' := by
  cases h with
  | tool => rfl
  | password => rfl

/-- The same questions to the world outside but for the secret of a login, and the same answers but
for that of a credential. -/
def secrets : Coupling outside := ⟨Demand.Twin, Demand.TwinReply⟩

/-- What a task holds is the same but for the secret of its account. -/
def Links.Twin (l l' : Links) : Prop :=
  ∃ secret, l' = { l with login := (l.login.1, secret) }

theorem Links.twin_rfl (l : Links) : l.Twin l := ⟨l.login.2, rfl⟩

end Gateway

/-! ## Requests to the inventory -/

namespace Http

variable {r : Request} {limit : Duration}

theorem couples_askNetwork (e : Exchange) :
    (askNetwork e).Couples secrets Eq (e.TwinReply e) (askNetwork e) :=
  Program.couples_ask (C := secrets) rfl

/-- Where a response redirects to does not depend on its body. -/
theorem couples_receive {follow : Request → NetWork (Except Failure Response)}
    (hfollow : ∀ r, (follow r).Couples secrets Eq (Likewise Response.Twin) (follow r))
    {x x' : Option Response} (h : Option.Rel Response.Twin x x') :
    (r.receive follow x).Couples secrets Eq (Likewise Response.Twin) (r.receive follow x') := by
  cases h with
  | none => exact Program.couples_pure (.error _)
  | @some x x' h =>
    obtain ⟨body, rfl, -⟩ := id h
    have hnext : r.next? { x with body := body } = r.next? x := rfl
    simp only [Request.receive, hnext]
    cases r.next? x with
    | none => exact Program.couples_pure (.ok h)
    | some next => exact hfollow next

theorem couples_sendFollowing (hops : Nat) :
    (r.sendFollowing limit hops).Couples secrets Eq (Likewise Response.Twin)
      (r.sendFollowing limit hops) := by
  induction hops generalizing r with
  | zero =>
    refine Program.couples_bind (couples_askNetwork _) fun x x' h => ?_
    cases h with
    | response _ _ h => exact couples_receive (fun _ => Program.couples_pure (.error _)) h
  | succ hops ih =>
    refine Program.couples_bind (couples_askNetwork _) fun x x' h => ?_
    cases h with
    | response _ _ h =>
      refine couples_receive (fun next => ?_) h
      split
      · exact ih
      · exact Program.couples_pure (.error _)

end Http

namespace Inventory

/-- Two attempts that came to the same, or to bodies that are read alike. -/
inductive Verdict.Twin : Verdict → Verdict → Prop where
  | accepted {b b' : List UInt8} (h : ReadAlike b b') : Twin (.accepted b) (.accepted b')
  | rejected (e : InventoryError) : Twin (.rejected e) (.rejected e)
  | failed (e : InventoryError) : Twin (.failed e) (.failed e)

theorem verdict_rfl (v : Verdict) : v.Twin v := by
  cases v with
  | accepted body => exact .accepted (readAlike_rfl body)
  | rejected e => exact .rejected e
  | failed e => exact .failed e

/-- A body becomes part of a failure only if it did not come with a success. -/
theorem verdict_twin {x x' : Except Http.Failure Http.Response}
    (h : Likewise Http.Response.Twin x x') (operation : String) :
    (verdict operation x).Twin (verdict operation x') := by
  cases h with
  | error f => exact .failed _
  | @ok x x' h =>
    obtain ⟨body, rfl, hbody, hfailed⟩ := h
    cases hs : x.isSuccess with
    | false =>
      -- the body is told, so it must be the same
      rw [hfailed hs]
      exact verdict_rfl _
    | true =>
      obtain ⟨status, headers, b⟩ := x
      have hs' : (Http.Response.mk status headers body).isSuccess = true := hs
      cases hbody with
      | none => exact .failed _
      | some hread =>
        simp only [verdict, Http.Response.read, hs, hs', if_true]
        exact .accepted hread

variable {s : Settings} {caller : Caller}

theorem couples_sendAgain (operation : String) (request : Except Http.Failure Http.Request)
    (again : Nat) :
    (s.sendAgain operation request again).Couples Http.secrets Eq (Likewise ReadAlike)
      (s.sendAgain operation request again) := by
  have hexchange : (exchange s.timeout request).Couples Http.secrets Eq
      (Likewise Http.Response.Twin) (exchange s.timeout request) := by
    cases request with
    | error f => exact Program.couples_pure (.error f)
    | ok request => exact Http.couples_sendFollowing _
  -- the verdicts are alike, so that both are sent again or none is
  induction again with
  | zero =>
    unfold Settings.sendAgain
    refine Program.couples_bind hexchange fun x x' h => ?_
    have htwin := verdict_twin h operation
    generalize verdict operation x = v, verdict operation x' = v' at htwin ⊢
    cases htwin with
    | accepted h => exact Program.couples_pure (.ok h)
    | rejected e => exact Program.couples_pure (.error e)
    | failed e => exact Program.couples_pure (.error e)
  | succ again ih =>
    unfold Settings.sendAgain
    refine Program.couples_bind hexchange fun x x' h => ?_
    have htwin := verdict_twin h operation
    generalize verdict operation x = v, verdict operation x' = v' at htwin ⊢
    cases htwin with
    | accepted h => exact Program.couples_pure (.ok h)
    | rejected e => exact Program.couples_pure (.error e)
    | failed e =>
      refine Program.couples_bind (V := fun _ _ => True) ?_ fun _ _ _ => ih
      exact (Http.couples_askNetwork (.wait s.retryDelay)).mono fun _ _ _ => trivial

/-- **A call comes to the same, but for the secret of a credential that was fetched.** -/
theorem couples_carryOut (c : Call) :
    (s.carryOut caller c).Couples Http.secrets Eq
      (Question.TwinReply (.inventory caller c) (.inventory caller c)) (s.carryOut caller c) := by
  refine Program.couples_bind (couples_sendAgain _ _ _) fun x x' h => Program.couples_pure ?_
  cases h with
  | error e => exact .same _ _
  | @ok b b' h =>
    cases c with
    | credential id =>
      have hread := h.credential.mapError fun e : Json.Error =>
        (⟨(Call.credential id).operation, none, "failed to decode response: " ++ e.message⟩ :
          InventoryError)
      simp only [Except.bind, Call.result, read]
      generalize (Json.decode Wire.credential b).mapError _ = y,
        (Json.decode Wire.credential b').mapError _ = y' at hread ⊢
      cases hread with
      | error e => exact .same _ _
      | ok h => exact .credential caller id h
    | createAuthentication authentication =>
      simp only [Except.bind, Call.result, read, h.id]
      exact .same _ _
    | _ => exact .same _ _

end Inventory

/-! ## The gateway -/

namespace Gateway

variable {g : Gateway}

/-- An errand goes the same way for accounts whose secrets differ. -/
abbrev Discreet {α : Type} (p : Errand α) : Prop := p.Steady secrets Links.Twin

/-- What asks the same on both sides, and is answered the same there, is discreet. -/
theorem discreet_through {J : Interface} {α : Type} {part part' : Interface.Part J outside}
    (hq : ∀ q, (part.request q).Twin (part'.request q))
    (hr : ∀ q r r', Demand.TwinReply (part.request q) (part'.request q) r r' →
      part.reply q r = part'.reply q r') (p : Program J Unit α) :
    (p.through part : Errand α).Couples secrets Links.Twin Eq (p.through part') := by
  intro l l' hl
  refine (Run.coupled_same (p ())).through (fun q _ h => ?_) (fun q _ r r' h hreply => ?_) hl
  · cases h
    exact hq q
  · cases h
    exact hr q r r' hreply ▸ .mk q _

theorem discreet_tool {α : Type} (p : Program Azure.tool Unit α) :
    Discreet (p.through toolPart : Errand α) := by
  refine discreet_through (fun _ => .same _) (fun q r r' h => ?_) p
  cases h with
  | tool => rfl
  | password => rfl

theorem discreet_command (c : Azure.Call) : Discreet (command c) := by
  refine Program.couples_get_bind fun l l' hl => ?_
  obtain ⟨secret, rfl⟩ := hl
  cases l.session with
  | none => exact Program.steady_pure _
  | some session => exact discreet_tool (session.carryOut c)

theorem discreet_hold (session : Option Azure.Session) :
    Discreet (Program.modify fun l => { l with session := session }) := by
  refine Program.couples_modify fun l l' hl => ?_
  obtain ⟨secret, rfl⟩ := hl
  exact ⟨secret, rfl⟩

theorem discreet_azureCall (c : Azure.Call) : Discreet (g.azureCall c) := by
  cases c with
  | openSession =>
    refine Program.steady_bind (discreet_tool _) fun r => ?_
    cases r with
    | error e => exact Program.steady_pure _
    | ok session =>
      exact Program.steady_bind (discreet_hold (some session)) fun _ => Program.steady_pure _
  | closeSession =>
    refine Program.couples_get_bind fun l l' hl => ?_
    obtain ⟨secret, rfl⟩ := hl
    cases l.session with
    | none => exact Program.steady_pure _
    | some session =>
      refine Program.steady_bind (discreet_tool _) fun _ => ?_
      exact Program.steady_bind (discreet_hold none) fun _ => Program.steady_pure _
  | login l => exact discreet_command (.login l)
  | deploy name template => exact discreet_command (.deploy name template)
  | delete name => exact discreet_command (.delete name)
  | logout => exact discreet_command .logout

/-- The requests to an account are the same, made with its own login. -/
theorem discreet_amazonCall (c : Amazon.Call) : Discreet (g.amazonCall c) := by
  refine Program.couples_get_bind fun l l' hl => ?_
  obtain ⟨secret, rfl⟩ := hl
  refine discreet_through (fun q => .service _ _ _ _ q) (fun q r r' h => ?_) _
  cases h with
  | service => rfl

/-- A command is named by its label in what is said of it, whatever its arguments are. -/
theorem couples_login {l l' : Azure.Login} (h : l.Twin l') :
    (command (.login l)).Couples secrets Links.Twin Eq (command (.login l')) := by
  refine Program.couples_get_bind fun k k' hk => ?_
  obtain ⟨secret, rfl⟩ := hk
  obtain ⟨password, rfl⟩ := h
  cases k.session with
  | none => exact Program.steady_pure _
  | some session =>
    intro k k' hk
    -- the arguments differ in one place, and the outcome is read without them
    refine .ask hk ?_ fun r r' hr => ?_
    · exact .password session.home ["login", "--service-principal", "--username=" ++ l.username]
        ["--tenant=" ++ l.tenant] _ _
    · cases hr.outcome_eq
      exact .done hk rfl

/-- Of a credential no more is held than the login to an account. -/
theorem couples_build {c c' : Credential} (h : c.Twin c') (cloud : Cloud) :
    (build cloud c).Couples secrets Links.Twin Eq (build cloud c') := by
  obtain ⟨secret, -, rfl⟩ := h
  cases cloud with
  | amazon =>
    refine Program.couples_modify fun l l' hl => ?_
    obtain ⟨_, rfl⟩ := hl
    exact ⟨secret, rfl⟩
  | azure => exact Program.steady_pure _

theorem couples_inventoryCall (caller : Caller) (c : Inventory.Call) :
    ((g.inventory.carryOut caller c).through networkPart : Errand _).Couples secrets Links.Twin
      (Question.TwinReply (.inventory caller c) (.inventory caller c))
      ((g.inventory.carryOut caller c).through networkPart) := by
  intro l l' hl
  refine (Inventory.couples_carryOut c rfl).through (fun e _ h => ?_) (fun _ _ _ _ _ h => ?_) hl
  · cases h
    exact .same _
  · cases h with
    | network h => exact h

theorem couples_askOutside (d : Demand) :
    (askOutside d).Couples secrets Links.Twin (Demand.TwinReply d d) (askOutside d) :=
  Program.couples_ask (C := secrets) (.same d)

/-- **Matching questions are carried out by matching demands**, and come to matching answers. -/
theorem couples_handler (g : Gateway) {q q' : Question} (h : q.Twin q') :
    (g.handler q).Couples secrets Links.Twin (Question.TwinReply q q') (g.handler q') := by
  cases h with
  | build cloud h => exact (couples_build h cloud).mono fun _ _ _ => .build cloud _ _
  | login h => exact (couples_login h).mono fun r _ hr => hr ▸ .login _ _ r
  | same q =>
    cases q with
    | amazon c => exact (discreet_amazonCall c).mono fun r _ hr => hr ▸ .same (.amazon c) r
    | azure c => exact (discreet_azureCall c).mono fun r _ hr => hr ▸ .same (.azure c) r
    | inventory caller c => exact couples_inventoryCall caller c
    | build cloud c => exact (couples_build c.twin_rfl cloud).mono fun _ _ _ => .build cloud c c
    | wait ms =>
      refine (couples_askOutside (.network (.wait (Duration.ofMilliseconds ms)))).mono
        fun r r' h => ?_
      cases h with
      | network h => exact .same (.wait ms) ()
    | guid =>
      refine (couples_askOutside .guid).mono fun r r' h => ?_
      cases h with
      | guid => exact .same .guid r

/-- A task that is steady asks matching demands, and comes to the same. -/
theorem couples_carryOut {σ α : Type} {S : σ → σ → Prop} {task : Run surroundings.timed σ α}
    (h : task.Coupled Question.secrets.timed S Eq task) :
    (g.carryOut task).Coupled secrets.timed Links.Twin (fun x y => x.1 = y.1 ∧ S x.2 y.2)
      (g.carryOut task) :=
  h.handledBy (fun _ _ hq => Program.couples_timed (fun _ _ => g.couples_handler) hq)
    (Links.twin_rfl _)

/-! ## An outside -/

/-- What is answered where every response has the same body, the services of Amazon refuse all
requests, and the tool fails. -/
def told (body : List UInt8) : (d : Demand) → d.Reply
  | .network (.send ..) => some ⟨200, [], some body⟩
  | .network (.wait _) => ()
  | .service .. => .error ⟨none⟩
  | .tool .makeHome => .ok "/tmp/az"
  | .tool (.run ..) => .ended (.exited 1) [] []
  | .tool (.wait _) => ()
  | .tool (.removeHome _) => ()
  | .guid => "0f1e2d3c"

/-- The same with a clock that stands still. -/
def telling (body : List UInt8) (_ : Unit) :
    (d : outside.timed.Request) → outside.timed.Reply d × Unit
  | .now => ((0 : Nat), ())
  | .untimed d => (told body d, ())
  | .before _ d => (some (told body d), ())

theorem told_twin {b b' : List UInt8} (h : Inventory.ReadAlike b b') {d d' : Demand}
    (hd : d.Twin d') : Demand.TwinReply d d' (told b d) (told b' d') := by
  cases hd with
  | service => exact .service _ _ _ _ _ _
  | password => exact .password _ _ _ _
  | same d =>
    cases d with
    | network e =>
      cases e with
      | send request limit =>
        exact .network (.response request limit (.some ⟨some b', rfl, .some h, nofun⟩))
      | wait span => exact .network (.wait span)
    | service => exact .service _ _ _ _ _ _
    | tool q => cases q <;> exact .tool _ _
    | guid => exact .guid _

/-- Where bodies are read alike, the outsides answer alike. -/
theorem telling_alike {b b' : List UInt8} (h : Inventory.ReadAlike b b') :
    secrets.timed.Alike Eq (telling b) (telling b') := by
  intro _ _ _ d d' hd
  cases hd with
  | now => exact ⟨.now 0, rfl⟩
  | untimed hd => exact ⟨.untimed (told_twin h hd), rfl⟩
  | before limit hd => exact ⟨.before limit (told_twin h hd), rfl⟩

end Gateway

namespace Service

/-- **The secret of a credential is used to log in, and for nothing else.** Where the surroundings
answer alike for two credentials that differ in their secrets alone, a create request and a destroy
request ask them the same questions but for the login, and come to the same result with the same
application. Carried out, they ask the same of the world outside but for the login to an Amazon
account and the password that the tool is given. In diagnostics the two credentials are the same. -/
theorem secret_only_logs_in (service : Service) (g : Gateway) {ω ω' υ υ' : Type}
    {W : ω → ω' → Prop} {O : υ → υ' → Prop}
    {answer : ω → (q : surroundings.timed.Request) → surroundings.timed.Reply q × ω}
    {answer' : ω' → (q : surroundings.timed.Request) → surroundings.timed.Reply q × ω'}
    {outer : υ → (d : Gateway.outside.timed.Request) → Gateway.outside.timed.Reply d × υ}
    {outer' : υ' → (d : Gateway.outside.timed.Request) → Gateway.outside.timed.Reply d × υ'}
    (ha : Question.secrets.timed.Alike W answer answer')
    (ho : Gateway.secrets.timed.Alike O outer outer') {w : ω} {w' : ω'} (hw : W w w') {v : υ}
    {v' : υ'} (hv : O v v') :
    (∀ request, Run.Corresponds Question.secrets.timed Application.Twin Eq answer answer' w w'
      (service.createRun request) (service.createRun request)) ∧
    (∀ request, Run.Corresponds Question.secrets.timed Application.Twin Eq answer answer' w w'
      (service.destroyRun request) (service.destroyRun request)) ∧
    (∀ request, Run.Corresponds Gateway.secrets.timed Gateway.Links.Twin
      (fun x x' => x.1 = x'.1 ∧ x.2.Twin x'.2) outer outer' v v'
      (g.carryOut (service.createRun request)) (g.carryOut (service.createRun request))) ∧
    (∀ request, Run.Corresponds Gateway.secrets.timed Gateway.Links.Twin
      (fun x x' => x.1 = x'.1 ∧ x.2.Twin x'.2) outer outer' v v'
      (g.carryOut (service.destroyRun request)) (g.carryOut (service.destroyRun request))) ∧
    ∀ c c' : Credential, c.Twin c' → c'.debug = c.debug := by
  refine ⟨fun request => ?_, fun request => ?_, fun request => ?_, fun request => ?_, ?_⟩
  · exact (couples_createRun service request).corresponds ha hw
  · exact (couples_destroyRun service request).corresponds ha hw
  · exact (Gateway.couples_carryOut (couples_createRun service request)).corresponds ho hv
  · exact (Gateway.couples_carryOut (couples_destroyRun service request)).corresponds ho hv
  · rintro c c' ⟨secret, -, rfl⟩
    exact c.debug_setSecret secret

/-- A tenant's credential with a secret. -/
def tenant (secret : String) : Credential := ⟨"1", "", "user", secret, .null⟩

/-- `secret_only_logs_in` for a tenant's role that is refused, and for another secret. -/
theorem secret_of_refused_role :
    Question.secrets.timed.Alike World.Twin World.answer World.answer ∧
    Gateway.secrets.timed.Alike Eq
      (Gateway.telling (Wire.Credential.toJson (tenant "secret")).toBytes)
      (Gateway.telling (Wire.Credential.toJson (tenant "another")).toBytes) ∧
    World.Twin (refusing "create_role")
      { refusing "create_role" with credential := tenant "another" } ∧
    ((trial.createRun grant).exec World.answer (refusing "create_role")).1.2 =
      ((trial.createRun grant).exec World.answer
        { refusing "create_role" with credential := tenant "another" }).1.2 := by
  have htwin : (tenant "secret").Twin (tenant "another") := ⟨"another", by decide, rfl⟩
  have houtside := Gateway.telling_alike (Inventory.readAlike_toJson htwin
    (Json.reads_value_null 127) .null)
  have hworld : World.Twin (refusing "create_role")
      { refusing "create_role" with credential := tenant "another" } :=
    ⟨tenant "another", [], htwin, .nil, rfl⟩
  exact ⟨World.answer_alike, houtside, hworld,
    ((secret_only_logs_in trial ⟨.ofUrl "http://inventory", .standard, "us-east-1"⟩
      World.answer_alike houtside hworld (v := ()) rfl).1 grant).value⟩

end Service

end CloudGrant
