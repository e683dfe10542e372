import CloudGrant.Proofs.Azure.Course

/-!
# Login sessions as brackets

Whatever is done in a session stands between a login and a logout. A `Bracket` is what came of its
calls, `Bracket.calls` says which of them were made and `Bracket.result` what the session comes to; a
session is never anything else (`bracket_of_stops`). So a deployment and a deletion are one session each
(`deployed_of_stops`, `deleted_of_stops`).

A deployment is noted **before** its session opens: at every question at which it can be cut short, the
name of a deployment that was started is in the record already (`noted_of_started`).
-/

namespace CloudGrant.Azure

open Interface

/-- What came of the calls of a session in which `c` is done. -/
structure Bracket (c : Call) where
  opened : Except Cause Unit
  entered : Except Cause Unit
  done : Except Cause c.Result
  left : Except Cause Unit
  closed : Except Cause Unit

namespace Bracket

variable {c : Call}

/-- The calls that are made once a session is open: `c` and then the logout if the login succeeded,
whatever comes of `c`. -/
def inside (b : Bracket c) (login : Login) : List surroundings.Event :=
  ⟨.azure (.login login), b.entered⟩ ::
    match b.entered with
    | .error _ => []
    | .ok _ => [⟨.azure c, b.done⟩, ⟨.azure .logout, b.left⟩]

/-- The calls of a session. One that did not open has no others. -/
def calls (b : Bracket c) (login : Login) : List surroundings.Event :=
  ⟨.azure .openSession, b.opened⟩ ::
    match b.opened with
    | .error _ => []
    | .ok _ => b.inside login ++ [⟨.azure .closeSession, b.closed⟩]

/-- What a session comes to: its first failure, in the order of its calls, or what came of `c`. -/
def result (b : Bracket c) : Except Cause c.Result := do
  b.opened
  b.entered
  let r ← b.done
  b.left
  pure r

end Bracket

/-! ## Sessions -/

variable {login : Login} {c : Call} {a t : Application} {l : List surroundings.Event}

theorem stops_call {r : Except Cause c.Result} (h : (call c a).Stops l t (.value r)) :
    t = a ∧ l = [⟨.azure c, r⟩] := Program.stops_ask_value_iff.mp h

/-- A session that is open is closed with one call. -/
theorem stops_release_open (hs : a.inSession = true) (h : (release a).Stops l t (.value ())) :
    t = apart a ∧ ∃ r, l = [⟨.azure .closeSession, r⟩] := by
  unfold release at h
  rw [Program.stops_get_bind_iff] at h
  simp only [hs, if_true] at h
  rcases Run.stops_ask_iff.mp h with ⟨-, -, hx⟩ | ⟨r, l', rfl, h'⟩
  · cases hx
  · obtain ⟨rfl, rfl, -⟩ := Run.stops_done_iff.mp h'
    exact ⟨rfl, r, rfl⟩

/-- After a login there is the work and a logout, whatever came of the work. -/
theorem stops_loggedIn {r : Except Cause c.Result}
    (h : (loggedIn login (call c) a).Stops l t (.value r)) :
    t = a ∧ ∃ entered done left, ∀ closed,
      l = Bracket.inside ⟨.ok (), entered, done, left, closed⟩ login ∧
        r = Bracket.result ⟨.ok (), entered, done, left, closed⟩ := by
  rw [loggedIn_eq] at h
  rcases Program.stops_andThen_iff.mp h with ⟨_, hx, -⟩ | ⟨e, hx, h₁⟩ | ⟨l₁, l₂, u, _, rfl, h₁, h₂⟩
  · cases hx
  · cases hx
    obtain ⟨rfl, rfl⟩ := stops_call h₁
    -- nothing else is done
    exact ⟨rfl, .error e, .error e, .error e, fun _ => ⟨rfl, rfl⟩⟩
  · obtain ⟨rfl, rfl⟩ := stops_call h₁
    obtain ⟨l₃, l₄, v, done, rfl, h₃, h₄⟩ := Program.stops_bind_value_iff.mp h₂
    obtain ⟨rfl, rfl⟩ := stops_call h₃
    obtain ⟨l₅, l₆, w, left, rfl, h₅, h₆⟩ := Program.stops_bind_value_iff.mp h₄
    obtain ⟨rfl, rfl⟩ := stops_call h₅
    have hend : l₆ = [] ∧ t = w ∧ ∀ closed, r = Bracket.result ⟨.ok (), .ok (), done, left, closed⟩ := by
      cases done <;> cases left <;> obtain ⟨rfl, rfl, rfl⟩ := Program.stops_pure_value_iff.mp h₆ <;>
        exact ⟨rfl, rfl, fun _ => rfl⟩
    obtain ⟨rfl, rfl, hr⟩ := hend
    exact ⟨rfl, .ok (), done, left, fun closed => ⟨rfl, hr closed⟩⟩

/-- **A session is a bracket**, and leaves nothing behind: it is closed if it was opened. -/
theorem bracket_of_stops {r : Except Cause c.Result}
    (h : (inSession login (call c) a).Stops l t (.value r)) :
    (t = a ∨ t = apart a) ∧ ∃ b : Bracket c, l = b.calls login ∧ r = b.result := by
  rw [inSession_eq] at h
  rcases Program.stops_andThen_iff.mp h with ⟨_, hx, -⟩ | ⟨e, hx, h₁⟩ | ⟨l₁, l₂, u, _, rfl, h₁, h₂⟩
  · cases hx
  · cases hx
    obtain ⟨rfl, rfl⟩ := stops_call h₁
    exact ⟨.inl rfl, ⟨.error e, .error e, .error e, .error e, .error e⟩, rfl, rfl⟩
  · obtain ⟨rfl, rfl⟩ := stops_call h₁
    obtain ⟨l₃, l₄, v, _, rfl, h₃, h₄⟩ := Program.stops_bind_value_iff.mp h₂
    obtain ⟨rfl, rfl, -⟩ := Run.stops_done_iff.mp h₃
    obtain ⟨l₅, l₆, w, result, rfl, h₅, h₆⟩ := Program.stops_bind_value_iff.mp h₄
    obtain ⟨rfl, entered, done, left, hbracket⟩ := stops_loggedIn h₅
    obtain ⟨l₇, l₈, x, _, rfl, h₇, h₈⟩ := Program.stops_bind_value_iff.mp h₆
    obtain ⟨rfl, closed, rfl⟩ := stops_release_open rfl h₇
    obtain ⟨rfl, rfl, rfl⟩ := Program.stops_pure_value_iff.mp h₈
    obtain ⟨rfl, rfl⟩ := hbracket closed
    refine ⟨.inr rfl, ⟨.ok (), entered, done, left, closed⟩, ?_, rfl⟩
    rw [List.append_nil, List.nil_append]
    rfl

/-! ## Deployments -/

variable {template name : String} {P : Question → Prop}

/-- What an application records of a deployment that came to `r`. -/
structure Recorded (a : Application) (r : Except Cause String) (t : Application) : Prop where
  name : t.record.output? stepName "name" = some (Naming.deployment a.guid)
  succeeded : ∀ subscription, r = .ok subscription →
    t.record.output? stepName "subscriptionID" = some subscription ∧
      t.product = some (t.productFor subscription)
  failed : ∀ cause, r = .error cause →
    t.record.output? stepName "subscriptionID" = a.record.output? stepName "subscriptionID" ∧
      t.product = a.product

/-- What a deployment has asked, what the application is after it, and what it comes to: all of it is
that of one session. -/
inductive Deployed (login : Login) (template : String) (a : Application) :
    List surroundings.Event → Application → Except Error Unit → Prop where
  | intro {t : Application} (b : Bracket (.deploy (Naming.deployment a.guid) template))
      (ht : Recorded a b.result t) :
      Deployed login template a (b.calls login) t
        ((b.result.map fun _ => ()).mapError Error.deployment)

/-- **A deployment is one session**, and what it comes to is recorded. -/
theorem deployed_of_stops {r : Except Error Unit}
    (h : (provision login (some template) a).Stops l t (.value r)) :
    Deployed login template a l t r := by
  have hname : t.record.output? stepName "name" = some (Naming.deployment a.guid) :=
    (keeps_thenDeploy (stops_provision h)).trans (Record.output?_setOutput_self ..)
  have hkept : (noted a).record.output? stepName "subscriptionID" =
      a.record.output? stepName "subscriptionID" := output?_setOutput_of_ne (by decide)
  obtain ⟨l₁, l₂, u, result, rfl, h₁, h₂⟩ := Program.stops_bind_value_iff.mp (stops_provision h)
  obtain ⟨hu, b, rfl, rfl⟩ := bracket_of_stops h₁
  have hrecord : u.record = (noted a).record := by rcases hu with rfl | rfl <;> rfl
  have hproduct : u.product = a.product := by rcases hu with rfl | rfl <;> rfl
  have hend : l₂ = [] ∧ r = (b.result.map fun _ => ()).mapError Error.deployment ∧
      Recorded a b.result t := by
    cases hresult : b.result with
    | error cause =>
      rw [hresult] at h₂
      obtain ⟨rfl, rfl, rfl⟩ := Program.stops_pure_value_iff.mp h₂
      refine ⟨rfl, rfl, hname, nofun, fun _ _ => ⟨?_, hproduct⟩⟩
      rw [hrecord, hkept]
    | ok subscription =>
      rw [hresult] at h₂
      obtain ⟨rfl, rfl, hr⟩ := Run.stops_done_iff.mp h₂
      cases hr
      refine ⟨rfl, rfl, hname, ?_, nofun⟩
      rintro _ ⟨⟩
      exact ⟨Record.output?_setOutput_self .., rfl⟩
  obtain ⟨rfl, rfl, ht⟩ := hend
  rw [List.append_nil]
  exact .intro b ht

/-- A deployment is started only under this name. -/
def DeploysAs (name : String) (q : Question) : Prop :=
  ∀ name' template, q = .azure (.deploy name' template) → name' = name

/-- Somewhere on the way to a stop, a question of some kind was asked. -/
def Asked {α : Type} (P : Question → Prop) (l : List surroundings.Event)
    (x : Stop surroundings α) : Prop :=
  (∃ e ∈ l, P e.1) ∨ ∃ q, x = .question q ∧ P q

theorem Asked.exists {α : Type} {Q : Question → Prop} {x : Stop surroundings α} (h : Asked P l x)
    (hl : ∀ e ∈ l, Q e.1) (hx : ∀ q, x = .question q → Q q) : ∃ q, P q ∧ Q q := by
  rcases h with ⟨e, he, hp⟩ | ⟨q, hq, hp⟩
  · exact ⟨e.1, hp, hl e he⟩
  · exact ⟨q, hp, hx q hq⟩

theorem Asked.of_append {α : Type} {l' : List surroundings.Event} {x : Stop surroundings α}
    (h : Asked P (l ++ l') x) (hl : ∀ e ∈ l, ¬ P e.1) : Asked P l' x := by
  rcases h with ⟨e, he, hp⟩ | hq
  · rcases List.mem_append.mp he with he | he
    · exact absurd hp (hl e he)
    · exact .inl ⟨e, he, hp⟩
  · exact .inr hq

/-- The question that starts a deployment under a name. -/
def Starts (name : String) (q : Question) : Prop := ∃ template, q = .azure (.deploy name template)

theorem starts_deploy_iff {other : String} :
    Starts name (.azure (.deploy other template)) ↔ other = name :=
  ⟨fun ⟨_, h⟩ => by cases h; rfl, fun h => ⟨template, h ▸ rfl⟩⟩

instance : (q : surroundings.Request) → Decidable (Starts name q)
  | .azure (.deploy _ _) => decidable_of_iff _ starts_deploy_iff.symm
  | .azure .openSession | .azure (.login _) | .azure (.delete _) | .azure .logout
  | .azure .closeSession | .amazon _ | .inventory .. | .build .. | .wait _ | .guid =>
    isFalse nofun

theorem not_starts_of_not_isCloud {q : Question} (h : Question.isCloud q = false) :
    ¬ Starts name q := by
  rintro ⟨template, rfl⟩
  cases h

/-- A deployment that was started under a guid: it is recorded, and so is who can delete it. -/
structure Started (guid name : String) (a : Application) : Prop where
  name_eq : name = Naming.deployment guid
  noted : a.record.output? stepName "name" = some name
  client : ∃ login template, a.provider = some (.azure login template)

/-- **A deployment that was started is recorded already**, wherever the run stops. -/
theorem noted_of_started {prepared : Option String} {x : Stop surroundings (Except Error Unit)}
    (h : (provision login prepared a).Stops l t x) (hs : Asked (Starts name) l x) :
    name = Naming.deployment a.guid ∧ t.record.output? stepName "name" = some name := by
  cases prepared with
  | none =>
    obtain ⟨rfl, rfl, rfl⟩ := Program.stops_pure_iff.mp h
    rcases hs with ⟨e, he, -⟩ | ⟨q, hq, -⟩
    · cases he
    · cases hq
  | some template =>
    have hasks : (thenDeploy login template (Naming.deployment a.guid)).Asks
        (DeploysAs (Naming.deployment a.guid)) :=
      asks_thenDeploy nofun nofun nofun nofun fun _ _ hq => by cases hq; rfl
    obtain ⟨hl, hx⟩ := hasks (stops_provision h)
    obtain ⟨q, ⟨template', hq⟩, hdeploys⟩ := hs.exists hl hx
    have hname : name = Naming.deployment a.guid := hdeploys name template' hq
    subst hname
    exact ⟨rfl, (keeps_thenDeploy (stops_provision h)).trans (Record.output?_setOutput_self ..)⟩

/-! ## Deletions -/

/-- What a deletion that came to `r` leaves to be reported. -/
def deletionErrors (name : String) : Except Cause Unit → List Error
  | .ok _ => []
  | .error cause => [.undo stepName name cause]

/-- What a deletion has asked, what the application is after it, and what is left to be reported. -/
inductive Deleted (login : Login) (a : Application) (name : String) :
    List surroundings.Event → Application → List Error → Prop where
  | intro {t : Application} (b : Bracket (.delete name)) (ht : apart t = apart a) :
      Deleted login a name (b.calls login) t (deletionErrors name b.result)

/-- **A deletion is one session.** -/
theorem deleted_of_stops {errors : List Error}
    (hname : a.record.output? stepName "name" = some name)
    (h : (takeDown login a).Stops l t (.value errors)) : Deleted login a name l t errors := by
  unfold takeDown at h
  rw [Program.stops_get_bind_iff] at h
  simp only [hname] at h
  obtain ⟨l₁, l₂, u, result, rfl, h₁, h₂⟩ := Program.stops_bind_value_iff.mp h
  obtain ⟨hu, b, rfl, rfl⟩ := bracket_of_stops h₁
  have hend : l₂ = [] ∧ t = u ∧ errors = deletionErrors name b.result := by
    cases hresult : b.result <;> rw [hresult] at h₂ <;>
      obtain ⟨rfl, rfl, rfl⟩ := Program.stops_pure_value_iff.mp h₂ <;> exact ⟨rfl, rfl, rfl⟩
  obtain ⟨rfl, rfl, rfl⟩ := hend
  have hapart : apart t = apart a := by rcases hu with rfl | rfl <;> rfl
  rw [List.append_nil]
  exact .intro b hapart

end CloudGrant.Azure
