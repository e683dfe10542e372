import CloudGrant.Proofs.Cloud.Holdings

/-!
# Accounts that guard what they hold

An account can refuse a call because of what exists in it: to make a bucket, a policy or a role that
is there already, or to delete a policy or a role that is still attached (`Obstructed`). `Guarded`
says that an account does refuse these calls; the simulated world does so once it is asked to look
(`World.guarded`, `guarded_world`). `OnlyObstructed` says of a log that no other call of it failed.
-/

namespace CloudGrant.Simulation

open Interface

/-- The call is one that a guarded account refuses, as things stand. -/
def Obstructed (arnOf : String → String) (now : Holdings) : Amazon.Call → Prop
  | .createBucket name => now.has (.bucket name) = true
  | .createPolicy name _ => now.has (.policy (arnOf name)) = true
  | .createRole name _ => now.has (.role name) = true
  | .deletePolicy arn => ∃ role, now.has (.attachment role arn) = true
  | .deleteRole name => ∃ arn, now.has (.attachment name arn) = true
  | _ => False

/-! ## Looking for attachments -/

/-- An attachment of a role. -/
def Resource.attaches (role : String) : Resource → Bool
  | .attachment owner _ => owner == role
  | _ => false

/-- An attachment of a policy. -/
def Resource.isAttached (arn : String) : Resource → Bool
  | .attachment _ a => a == arn
  | _ => false

theorem Holdings.mem_toList_iff {h : Holdings} {x : Resource} :
    x ∈ h.toList ↔ h.has x = true := Dict.mem_keys_iff

theorem exists_attachment_of_role_iff {h : Holdings} {role : String} :
    h.toList.any (Resource.attaches role) = true ↔ ∃ arn, h.has (.attachment role arn) = true := by
  rw [List.any_eq_true]
  constructor
  · rintro ⟨x, hx, hrole⟩
    cases x with
    | attachment owner arn =>
      cases eq_of_beq hrole
      exact ⟨arn, Holdings.mem_toList_iff.mp hx⟩
    | _ => cases hrole
  · rintro ⟨arn, harn⟩
    exact ⟨_, Holdings.mem_toList_iff.mpr harn, beq_self_eq_true role⟩

theorem exists_attachment_of_policy_iff {h : Holdings} {arn : String} :
    h.toList.any (Resource.isAttached arn) = true ↔ ∃ role, h.has (.attachment role arn) = true := by
  rw [List.any_eq_true]
  constructor
  · rintro ⟨x, hx, harn⟩
    cases x with
    | attachment owner a =>
      cases eq_of_beq harn
      exact ⟨owner, Holdings.mem_toList_iff.mp hx⟩
    | _ => cases harn
  · rintro ⟨role, hrole⟩
    exact ⟨_, Holdings.mem_toList_iff.mpr hrole, beq_self_eq_true arn⟩

instance {arnOf : String → String} {now : Holdings} : DecidablePred (Obstructed arnOf now)
  | .createBucket _ => inferInstanceAs (Decidable (_ = true))
  | .createPolicy .. => inferInstanceAs (Decidable (_ = true))
  | .createRole .. => inferInstanceAs (Decidable (_ = true))
  | .deletePolicy _ => decidable_of_iff _ exists_attachment_of_policy_iff
  | .deleteRole _ => decidable_of_iff _ exists_attachment_of_role_iff
  | .putBucketPolicy .. => inferInstanceAs (Decidable False)
  | .deleteBucket _ => inferInstanceAs (Decidable False)
  | .attachRolePolicy .. => inferInstanceAs (Decidable False)
  | .detachRolePolicy .. => inferInstanceAs (Decidable False)
  | .putReport _ => inferInstanceAs (Decidable False)
  | .deleteReport _ => inferInstanceAs (Decidable False)

/-! ## Guarded accounts -/

variable {σ α ω : Type} {contents : ω → Holdings} {arnOf : String → String}
  {answer : ω → (q : surroundings.timed.Request) → surroundings.timed.Reply q × ω}

/-- An account in which calls are atomic, the ARN of a policy is determined by its name, and no call
succeeds that is obstructed. -/
structure Guarded (arnOf : String → String) (contents : ω → Holdings)
    (answer : ω → (q : surroundings.timed.Request) → surroundings.timed.Reply q × ω) : Prop where
  atomic : Atomic contents answer
  arn : ∀ w q name document arn,
    (⟨.amazon (.createPolicy name document), some (.ok arn)⟩ : surroundings.Entry) ∈
      entries (I := surroundings) [⟨q, (answer w q).1⟩] → arn = arnOf name
  refuses : ∀ w q c r, Obstructed arnOf (contents w) c →
    (⟨.amazon c, some (.ok r)⟩ : surroundings.Entry) ∉
      entries (I := surroundings) [⟨q, (answer w q).1⟩]

/-- Every entry of a log is logged of some answer. -/
theorem exists_answer_of_mem_log {m : Run surroundings.timed σ α} {w : ω} {e : surroundings.Entry}
    (he : e ∈ m.log answer w) : ∃ w' q, e ∈ entries (I := surroundings) [⟨q, (answer w' q).1⟩] := by
  obtain ⟨v, hv, hentry⟩ := List.mem_filterMap.mp he
  obtain ⟨w', hw'⟩ := Run.exists_answer_of_mem_history hv
  rw [hw'] at hentry
  exact ⟨w', v.1, List.mem_filterMap.mpr ⟨_, List.mem_singleton.mpr rfl, hentry⟩⟩

/-- A guarded account can be relied on, if nothing in it carries a guid that is drawn. -/
theorem Guarded.reliable (h : Guarded arnOf contents answer) {m : Run surroundings.timed σ α} {w : ω}
    (hf : ∀ guid, (⟨.guid, some guid⟩ : surroundings.Entry) ∈ m.log answer w →
      (contents w).Fresh arnOf guid) : Reliable arnOf (contents w) (m.log answer w) where
  arn name document arn he := by
    obtain ⟨w', q, hq⟩ := exists_answer_of_mem_log he
    exact h.arn w' q name document arn hq
  fresh := hf

/-! ## What fails only because it is obstructed -/

/-- No call of a log failed but those that were obstructed at their time. -/
def OnlyObstructed (arnOf : String → String) (now : Holdings) (log : List surroundings.Entry) :
    Prop :=
  ∀ l₁ e l₂, log = l₁ ++ e :: l₂ → Failed e →
    ∃ c, e.1 = .amazon c ∧ Obstructed arnOf (now.after l₁) c

theorem onlyObstructed_of_not_failed {now : Holdings} {log : List surroundings.Entry}
    (h : ∀ e ∈ log, ¬ Failed e) : OnlyObstructed arnOf now log := by
  rintro l₁ e l₂ rfl hf
  exact absurd hf (h e (by simp))

theorem OnlyObstructed.tail {now : Holdings} {e : surroundings.Entry} {log : List surroundings.Entry}
    (h : OnlyObstructed arnOf now (e :: log)) : OnlyObstructed arnOf (now.afterEntry e) log := by
  rintro l₁ e' l₂ rfl hf
  exact h (e :: l₁) e' l₂ rfl hf

/-- A call that was not obstructed did not fail. -/
theorem OnlyObstructed.not_failed {now : Holdings} {c : Amazon.Call}
    {r : Option (Except Cause c.Result)} {log : List surroundings.Entry}
    (h : OnlyObstructed arnOf now (⟨.amazon c, r⟩ :: log)) (hc : ¬ Obstructed arnOf now c) :
    ¬ Failed ⟨.amazon c, r⟩ := by
  intro hf
  obtain ⟨c', hq, hobstructed⟩ := h [] _ log rfl hf
  cases hq
  exact hc hobstructed

/-! ## The simulated world -/

/-- Refuse a call. -/
def refusal : Cause := Cause.of "resource in use"

/-- The simulated world, which looks at what exists before it answers a call to its account. -/
def World.guarded (w : World) (q : Timed Question) : surroundings.timed.Reply q × World :=
  match q with
  | .untimed (.amazon c) =>
    if Obstructed (arn "policy") w.holdings c then (.error refusal, w)
    else w.answer (.untimed (.amazon c))
  | .before limit (.amazon c) =>
    if Obstructed (arn "policy") w.holdings c then (some (.error refusal), w)
    else w.answer (.before limit (.amazon c))
  | q => w.answer q

/-- A guarded world answers as it would otherwise, or refuses what is obstructed. -/
theorem guarded_cases (w : World) (q : Timed Question) :
    (w.guarded q = w.answer q ∧ ∀ c, subject? (I := surroundings) q = some (.amazon c) →
        ¬ Obstructed (arn "policy") w.holdings c) ∨
      ∃ c, (w.guarded q).2 = w ∧ entries (I := surroundings) [⟨q, (w.guarded q).1⟩] =
        [⟨.amazon c, some (.error refusal)⟩] := by
  have hother : ∀ {p : Question}, (∀ c, p ≠ .amazon c) → ∀ c,
      some p = some (.amazon c) → ¬ Obstructed (arn "policy") w.holdings c :=
    fun hne c hc => absurd (Option.some.inj hc) (hne c)
  cases q with
  | now => exact .inl ⟨rfl, nofun⟩
  | untimed p =>
    cases p with
    | amazon c =>
      by_cases hc : Obstructed (arn "policy") w.holdings c
      · have hrefused : w.guarded (.untimed (.amazon c)) = (.error refusal, w) := if_pos hc
        rw [hrefused]
        exact .inr ⟨c, rfl, rfl⟩
      · refine .inl ⟨if_neg hc, fun c' hc' => ?_⟩
        cases hc'
        exact hc
    | _ => exact .inl ⟨rfl, hother nofun⟩
  | before limit p =>
    cases p with
    | amazon c =>
      by_cases hc : Obstructed (arn "policy") w.holdings c
      · have hrefused : w.guarded (.before limit (.amazon c)) = (some (.error refusal), w) :=
          if_pos hc
        rw [hrefused]
        exact .inr ⟨c, rfl, rfl⟩
      · refine .inl ⟨if_neg hc, fun c' hc' => ?_⟩
        cases hc'
        exact hc
    | _ => exact .inl ⟨rfl, hother nofun⟩

/-- **The simulated world guards what it holds** when it is asked to. -/
theorem guarded_world : Guarded (arn "policy") World.holdings World.guarded where
  atomic w q := by
    rcases guarded_cases w q with ⟨h, -⟩ | ⟨c, hw, he⟩
    · rw [h]
      exact atomic_world w q
    · rw [hw, he]
      rfl
  arn w q name document arn' hmem := by
    rcases guarded_cases w q with ⟨h, -⟩ | ⟨c, -, he⟩
    · rw [h] at hmem
      exact arn_of_mem_entries hmem
    · rw [he] at hmem
      cases List.mem_singleton.mp hmem
  refuses w q c r hc hmem := by
    rcases guarded_cases w q with ⟨-, hnot⟩ | ⟨c', -, he⟩
    · obtain ⟨v, hv, hentry⟩ := List.mem_filterMap.mp hmem
      cases List.mem_singleton.mp hv
      exact hnot c (subject?_of_entry?_eq hentry) hc
    · rw [he] at hmem
      cases List.mem_singleton.mp hmem

end CloudGrant.Simulation
