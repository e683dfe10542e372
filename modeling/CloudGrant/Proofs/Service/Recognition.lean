import CloudGrant.Proofs.Inventory.Document
import CloudGrant.Proofs.Inventory.Identity
import CloudGrant.Proofs.Service.Caller
import CloudGrant.Proofs.Service.Unwinding

/-!
# By whom a credential is fetched

To create an application and to destroy it the same credential is fetched, and it is the first thing
that either request asks for (`createRun_fetches`, `destroyRun_fetches`). A destroy request has no
account: its caller is that of the create request **without the account**. What the inventory is told
is the same for both if there was none, and where the caller brought an identity of its own and there is
no shared key to go by (`headers_unaccounted_iff`).
-/

namespace CloudGrant

open Interface Simulation

/-- A caller whose account is not known. -/
def Caller.unaccounted (caller : Caller) : Caller := { caller with account := "" }

/-! ## Headers -/

namespace Inventory

variable {s : Settings} {caller : Caller}

theorem headers_keyed {key : String} (h : s.sharedKey = some key) :
    s.headers caller = s.headers caller.unaccounted ++ optionalHeader accountHeader caller.account := by
  have hnone : optionalHeader accountHeader "" = [] := rfl
  unfold Settings.headers Caller.unaccounted
  simp only [h, hnone, List.append_nil]

/-- **The account matters for how a caller is named**, unless there is none, or the caller is named by
an identity of its own. -/
theorem headers_unaccounted_iff :
    s.headers caller.unaccounted = s.headers caller ↔
      caller.account = "" ∨ (s.sharedKey = none ∧ caller.identity ≠ "") := by
  cases hkey : s.sharedKey with
  | some key =>
    have hoptional : optionalHeader accountHeader caller.account = [] ↔ caller.account = "" := by
      unfold optionalHeader
      split <;> simp [*]
    have hkeyed : s.headers caller =
        s.headers caller.unaccounted ++ optionalHeader accountHeader caller.account :=
      headers_keyed hkey
    rw [hkeyed, List.self_eq_append_right, hoptional]
    simp
  | none =>
    unfold Settings.headers
    rw [hkey]
    by_cases hidentity : caller.identity = ""
    · have hsynthesized : synthesizedIdentity "" caller.orgId =
          synthesizedIdentity caller.account caller.orgId ↔ caller.account = "" :=
        ⟨fun h => (eq_of_synthesizedIdentity h).1.symm, fun h => by rw [h]⟩
      simp [Caller.unaccounted, hidentity, hsynthesized]
    · simp [Caller.unaccounted, hidentity]

/-- The caller matters for its headers alone. -/
theorem carryOut_congr {caller' : Caller} (h : s.headers caller = s.headers caller') (c : Call) :
    s.carryOut caller c = s.carryOut caller' c := by
  unfold Settings.carryOut Settings.fetch Settings.request
  rw [h]

/-- What an inventory is told of a caller and of the same caller without an account. -/
structure Settings.Recognition (s : Settings) (caller : Caller) : Prop where
  keyed : ∀ key, s.sharedKey = some key →
    s.headers caller =
      s.headers caller.unaccounted ++ optionalHeader accountHeader caller.account
  identified : s.sharedKey = none → caller.identity ≠ "" →
    s.headers caller.unaccounted = [(identityHeader, caller.identity)] ∧
      s.headers caller = [(identityHeader, caller.identity)]
  synthesized : s.sharedKey = none → caller.identity = "" →
    s.headers caller.unaccounted = [(identityHeader, synthesizedIdentity "" caller.orgId)] ∧
      s.headers caller = [(identityHeader, synthesizedIdentity caller.account caller.orgId)]
  alike : s.headers caller.unaccounted = s.headers caller ↔
    caller.account = "" ∨ (s.sharedKey = none ∧ caller.identity ≠ "")
  sent : s.headers caller.unaccounted = s.headers caller →
    ∀ c, s.carryOut caller.unaccounted c = s.carryOut caller c

theorem recognition (s : Settings) (caller : Caller) : s.Recognition caller where
  keyed _ hkey := headers_keyed hkey
  identified hkey hidentity := by simp [Settings.headers, Caller.unaccounted, hkey, hidentity]
  synthesized hkey hidentity := by simp [Settings.headers, Caller.unaccounted, hkey, hidentity]
  alike := headers_unaccounted_iff
  sent := carryOut_congr

end Inventory

/-! ## The first question -/

/-- The first question of a run. -/
def Run.Opens {I : Interface} {σ α : Type} (q : I.Request) (m : Run I σ α) : Prop :=
  ∃ s next, m = .ask s q next

theorem Run.Opens.bind {I : Interface} {σ α β : Type} {q : I.Request} {m : Run I σ α}
    (h : m.Opens q) (f : α → σ → Run I σ β) : (m.bind f).Opens q := by
  obtain ⟨s, next, rfl⟩ := h
  exact ⟨s, _, rfl⟩

namespace Service

variable {service : Service} {a t : Application} {cloud : Cloud} {log : List surroundings.Entry}

/-- A client is set up for a credential, which is fetched first. -/
theorem opens_attach (hcloud : service.catalog.cloud a.request.provider = .ok cloud) :
    (service.attach a).Opens (fetching a) := by
  have hattach : service.attach a =
      (service.provider a.request.provider a.request.superKey a.request.caller a).bind _ := rfl
  rw [hattach]
  refine Run.Opens.bind ?_ _
  unfold provider
  rw [hcloud]
  exact ⟨a, _, rfl⟩

/-- What work asks first is the first entry of its log. -/
theorem Ended.opens {α : Type} {work : Work α} {r : Except Error α} {q : Question}
    (h : Ended service work a log t r) (ho : (work a).Opens q) :
    ∃ reply rest, log = ⟨q, reply⟩ :: rest := by
  obtain ⟨s, next, ho⟩ := ho
  cases h with
  | done h =>
    rw [ho] at h
    rcases Run.stops_ask_iff.mp h with ⟨-, -, hx⟩ | ⟨reply, l', rfl, -⟩
    · cases hx
    · exact ⟨_, _, rfl⟩
  | cut h hr =>
    rw [ho] at h
    rcases Run.stops_ask_iff.mp h with ⟨rfl, -, hx⟩ | ⟨reply, l', rfl, -⟩
    · cases hx
      exact ⟨_, _, rfl⟩
    · exact ⟨_, _, rfl⟩

/-- A log that begins with fetching a credential, and asks nothing of the inventory for anybody
else. -/
structure Fetches (caller : Caller) (superKey : String) (log : List surroundings.Entry) : Prop where
  first : ∃ reply rest, log = ⟨.inventory caller (.credential superKey), reply⟩ :: rest
  others : ∀ e ∈ log, Question.IsFor caller e.1

variable {ω : Type}

/-- A create request begins with the credential of its own caller. -/
theorem createRun_fetches
    (answer : ω → (q : surroundings.timed.Request) → surroundings.timed.Reply q × ω) (w : ω)
    (request : Request.Create) (hcloud : service.catalog.cloud request.provider = .ok cloud) :
    Fetches request.caller request.superKey ((service.createRun request).log answer w) where
  first := by
    have hopens : (service.provisionAndAnnounce (Application.new request "")).Opens
        (fetching (Application.new request "")) := by
      rw [provisionAndAnnounce_eq]
      exact ((opens_attach hcloud).bind _).bind _
    have hend : CreateEnds service request _ _ _ := createRun_ends answer w request
    generalize (service.createRun request).log answer w = log at hend ⊢
    generalize ((service.createRun request).exec answer w).1.2 = r at hend
    cases hend with
    | done h => exact h.opens hopens
    | failed h _ _ =>
      obtain ⟨reply, rest, rfl⟩ := h.opens hopens
      exact ⟨reply, _, rfl⟩
  others := (createRun_isFor service request).log answer w

/-- A destroy request begins with the credential of a caller without an account. -/
theorem destroyRun_fetches
    (answer : ω → (q : surroundings.timed.Request) → surroundings.timed.Reply q × ω) (w : ω)
    (request : Request.Destroy) (hcloud : service.catalog.cloud request.provider = .ok cloud) :
    Fetches ⟨request.identity, request.orgId, ""⟩ request.superKey
      ((service.destroyRun request).log answer w) where
  first := by
    have hopens : (service.takeDown (Application.ofDestroy request)).Opens
        (fetching (Application.ofDestroy request)) := (opens_attach hcloud).bind _
    obtain ⟨r, h, -⟩ := destroyRun_ends answer w request
    exact h.opens hopens
  others := (destroyRun_isFor service request).log answer w

/-- **The credential is fetched by the same caller, but without the account**, to destroy what an
application holds as to create it. An inventory is told the same of both if there is no account, or if
the caller is named by an identity of its own. -/
theorem destroy_recognized (a : Application) :
    (∀ (service : Service) (cloud : Cloud),
      service.catalog.cloud a.request.provider = .ok cloud → ∀ {ω : Type}
        (answer : ω → (q : surroundings.timed.Request) → surroundings.timed.Reply q × ω) (w : ω),
        Fetches a.request.caller a.request.superKey ((service.createRun a.request).log answer w) ∧
          Fetches a.request.caller.unaccounted a.request.superKey
            ((service.destroyRun a.destroyRequest).log answer w)) ∧
      ∀ s : Inventory.Settings, s.Recognition a.request.caller :=
  ⟨fun _ _ hcloud _ answer w =>
    ⟨createRun_fetches answer w a.request hcloud,
      destroyRun_fetches answer w a.destroyRequest hcloud⟩,
    fun s => Inventory.recognition s _⟩

/-- A request of an account, and what is held for it. -/
def accounted : Request.Create :=
  { Request.Create.blank with
    orgId := "org-1"
    superKey := "30"
    provider := "amazon"
    extra := Dict.ofList [("account", "acct-1")] }

def held : Application := Application.new accounted "0f1e2d3c"

theorem fetched_for_account :
    Fetches ⟨"", "org-1", "acct-1"⟩ "30" ((trial.createRun accounted).log World.answer (refusing "")) ∧
      Fetches ⟨"", "org-1", ""⟩ "30"
        ((trial.destroyRun held.destroyRequest).log World.answer (refusing "")) :=
  (destroy_recognized held).1 trial .amazon rfl World.answer (refusing "")

/-- For whom an entry fetches a credential. -/
def fetcher? : surroundings.Entry → Option Caller
  | ⟨.inventory caller (.credential _), _⟩ => some caller
  | _ => none

/-- With a shared key the account of a create request is named, and that of its destroy request is
not. -/
theorem account_left_out :
    ((trial.createRun accounted).log World.answer (refusing "")).filterMap fetcher? =
        [⟨"", "org-1", "acct-1"⟩] ∧
      ((trial.destroyRun held.destroyRequest).log World.answer (refusing "")).filterMap fetcher? =
        [⟨"", "org-1", ""⟩] ∧
      ((Inventory.Settings.ofUrl "http://sources").withSharedKey (some "key")).headers
          ⟨"", "org-1", "acct-1"⟩ ≠
        ((Inventory.Settings.ofUrl "http://sources").withSharedKey (some "key")).headers
          ⟨"", "org-1", ""⟩ :=
  ⟨by decide +kernel, by decide +kernel, by decide⟩

end Service

end CloudGrant
