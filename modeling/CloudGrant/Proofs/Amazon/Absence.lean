import CloudGrant.Proofs.Amazon.Emptying

/-!
# The removal of what does not exist

A removal that is made twice finds nothing left the second time, and is refused for that reason. The
requests that remove a policy, a role or an attachment forgive such a refusal (`goes_removal`). Of the
requests that empty a bucket, the listings and the deletion of the bucket forgive it. The deletion of
an object does not: if an object vanishes between its listing and its deletion then the whole fails
(`Drained.failed`), and otherwise it does not (`Drained.ok_of_absences`).
-/

namespace CloudGrant.Amazon

open Emptying

/-- Whatever is refused is refused because it does not exist. -/
def Absences (refusals : Nat → Option Refusal) : Prop :=
  ∀ n r, refusals n = some r → r.isAbsence

/-- A request that forgives the absence of what it removes comes to a success. -/
theorem goes_removal {w : Storage} (h : Absences w.refusals) {o : Operation}
    {f : Except Refusal o.Result → Except Cause Unit} (hok : ∀ a, f (.ok a) = .ok ())
    (habsence : ∀ r, r.isAbsence → f (.error r) = .ok ()) :
    ∃ l, Goes (askService o >>= fun a => pure (f a)) w l (.ok ()) := by
  cases hr : w.refusals 0 with
  | none =>
    refine ⟨[⟨o, .ok (w.brings o)⟩], goes_ask (Storage.answer_of_granted hr) ?_⟩
    rw [hok]
    exact goes_pure
  | some r =>
    refine ⟨[⟨o, .error r⟩], goes_ask (Storage.answer_of_refused hr) ?_⟩
    rw [habsence r (h 0 r hr)]
    exact goes_pure

namespace Emptying

variable {bucket : String} {pages : List Page} {refusals : Nat → Option Refusal}
  {l : List services.Event} {r : Except Cause Unit} {o : Operation} {refusal : Refusal}

/-- A request that is refused decides what comes of the whole. -/
theorem Drained.failed (h : Drained bucket pages refusals l r)
    (hrefused : (⟨o, .error refusal⟩ : services.Event) ∈ l) : r = Emptying.refused o refusal := by
  have hlast {plan : List Granted} {e : services.Event} (hl : l = plan.map Granted.event ++ [e]) :
      r = Emptying.refused o refusal := by
    rw [hl] at hrefused
    rcases List.mem_append.mp hrefused with hmem | hmem
    · obtain ⟨g, -, hg⟩ := List.mem_map.mp hmem
      cases hg
    · have hresult := h.result
      rw [hl, ← List.mem_singleton.mp hmem, List.getLast?_concat] at hresult
      exact (Option.some.inj hresult).symm
  rcases exists_first refusals (drain bucket none pages).length with
    hnone | ⟨n, hn, refusal, hbefore, hr⟩
  · exact hlast (h.granted hnone)
  · exact hlast (h.refused n hn refusal hbefore hr)

/-- If no object vanishes then absences do not make the whole fail. -/
theorem Drained.ok_of_absences (h : Drained bucket pages refusals l r)
    (habsences : Absences refusals)
    (hobjects : ∀ key refusal, (⟨.deleteObject bucket key, .error refusal⟩ : services.Event) ∉ l) :
    r = .ok () := by
  rcases exists_first refusals (drain bucket none pages).length with
    hnone | ⟨n, hn, refusal, hbefore, hr⟩
  · have hsent := h.granted hnone
    cases hr : refusals (drain bucket none pages).length with
    | none =>
      have hresult := h.result
      rw [hsent, hr, List.getLast?_concat] at hresult
      exact (Option.some.inj hresult).symm
    | some refusal =>
      have hmem : (⟨.deleteBucket bucket, .error refusal⟩ : services.Event) ∈ l := by
        rw [hsent, hr]
        exact List.mem_concat_self
      rw [h.failed hmem]
      exact refused_eq_ok_iff.mpr ⟨rfl, habsences _ refusal hr⟩
  · have hsent := h.refused n hn refusal hbefore hr
    have hmem :
        (⟨(drain bucket none pages)[n].operation, .error refusal⟩ : services.Event) ∈ l := by
      rw [hsent]
      exact List.mem_concat_self
    rcases mem_drain (List.getElem_mem hn) with ⟨start, ho⟩ | ⟨key, ho⟩
    · rw [h.failed hmem, ho]
      exact refused_eq_ok_iff.mpr ⟨rfl, habsences n refusal hr⟩
    · rw [ho] at hmem
      cases hobjects key refusal hmem

end Emptying

/-- **What does not exist is removed without a failure, but for the objects of a bucket.** Policies,
roles and attachments are, and a bucket is exactly if none of its objects is found to be gone when it
is to be deleted; such an object is the failure of the whole. -/
theorem absent_removed (region : String) {pages : List Page} (hpages : Listing none pages)
    {refusals : Nat → Option Refusal} (h : Absences refusals) :
    (∀ arn, ∃ l, Goes (carryOut region (.deletePolicy arn)) ⟨pages, refusals⟩ l (.ok ())) ∧
      (∀ name, ∃ l, Goes (carryOut region (.deleteRole name)) ⟨pages, refusals⟩ l (.ok ())) ∧
      (∀ role arn, ∃ l,
        Goes (carryOut region (.detachRolePolicy role arn)) ⟨pages, refusals⟩ l (.ok ())) ∧
      ∀ bucket, ∃ l r, Deletes bucket ⟨pages, refusals⟩ l r ∧ Drained bucket pages refusals l r ∧
        (r = .ok () ↔ ∀ key refusal, ⟨.deleteObject bucket key, .error refusal⟩ ∉ l) ∧
        ∀ key refusal, ⟨.deleteObject bucket key, .error refusal⟩ ∈ l →
          r = .error ((Operation.deleteObject bucket key).failure refusal) := by
  have hremoval {o : Operation} (r : Refusal) (hr : r.isAbsence) : o.removal (.error r) = .ok () :=
    if_pos hr
  refine ⟨fun arn => goes_removal h (fun _ => rfl) hremoval,
    fun name => goes_removal h (fun _ => rfl) hremoval,
    fun role arn => goes_removal h (fun _ => rfl) hremoval, fun bucket => ?_⟩
  have hdrained := drained_sent bucket pages refusals
  refine ⟨_, _, deletes_sent bucket hpages refusals, hdrained, ⟨fun hok key refusal hmem => ?_,
    hdrained.ok_of_absences h⟩, fun key refusal hmem => hdrained.failed hmem⟩
  cases hok.symm.trans (hdrained.failed hmem)

/-- A bucket that does not exist any more. -/
theorem absent_bucket_removed :
    let page : Page := ⟨[some "k"], none⟩
    let refusals : Nat → Option Refusal := fun _ => some ⟨some "NoSuchBucket"⟩
    Listing none [page] ∧ Absences refusals ∧ ∃ l, Deletes "b" ⟨[page], refusals⟩ l (.ok ()) := by
  intro page refusals
  have hpages : Listing none [page] := .last (by decide)
  have habsences : Absences refusals := fun _ _ hr => Option.some.inj hr ▸ by decide
  obtain ⟨-, -, -, hbucket⟩ := absent_removed "us-east-1" hpages habsences
  obtain ⟨l, r, hdeletes, hdrained, hok, -⟩ := hbucket "b"
  have hl := hdrained.refused 0 (by decide) _ nofun rfl
  obtain rfl : r = .ok () := hok.mpr fun key refusal hmem => by
    rw [hl] at hmem
    cases List.mem_singleton.mp hmem
  exact ⟨hpages, habsences, l, hdeletes⟩

/-- A bucket whose only object vanishes when it is listed. -/
def vanishing : Storage where
  pages := [⟨[some "k"], none⟩]
  refusals n := if n = 1 then some ⟨some "NoSuchKey"⟩ else none

/-- A bucket is not deleted whose object has vanished, although nothing is refused but for an
absence. -/
theorem vanished_object_fails :
    Listing none vanishing.pages ∧ Absences vanishing.refusals ∧
      Goes (carryOut "us-east-1" (.deleteBucket "b")) vanishing
        [⟨.listObjects "b" none, .ok ⟨[some "k"], none⟩⟩,
          ⟨.deleteObject "b" "k", .error ⟨some "NoSuchKey"⟩⟩]
        (.error ((Operation.deleteObject "b" "k").failure ⟨some "NoSuchKey"⟩)) ∧
      ∀ l, ¬ Goes (carryOut "us-east-1" (.deleteBucket "b")) vanishing l (.ok ()) := by
  have hpages : Listing none vanishing.pages := .last (by decide)
  have hgoes := (deletes_sent "b" hpages vanishing.refusals).call "us-east-1" (by decide)
  refine ⟨hpages, fun n r hr => ?_, hgoes, fun l hok => ?_⟩
  · obtain ⟨-, hcode⟩ := Option.ite_none_right_eq_some.mp hr
    cases hcode
    decide
  · cases hok.2.symm.trans hgoes.2

end CloudGrant.Amazon
