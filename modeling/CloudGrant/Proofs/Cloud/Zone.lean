import CloudGrant.Guid
import CloudGrant.Naming
import CloudGrant.Proofs.Cloud.Holdings

/-!
# Zones of the clouds

The names of all that is made for an application end with its guid, and so do the names by which it
is found again. `Zone` is all that can be known by such names. Guids are of one length, so no name
ends with two of them, whatever it has in front: the zones of different guids are disjoint
(`zone_disjoint`).

`concerned` says which resources a question is about.
-/

namespace CloudGrant

open Simulation

/-! ## What is named for a guid -/

/-- A name ends with a guid. -/
def EndsWith (guid name : String) : Prop := guid.toList <:+ name.toList

theorem endsWith_append (p guid : String) : EndsWith guid (p ++ guid) :=
  ⟨p.toList, String.toList_append.symm⟩

/-- **A name does not end with two guids** of one length. -/
theorem EndsWith.unique {guid guid' name : String} (h : EndsWith guid name)
    (h' : EndsWith guid' name) (hl : guid.length = guid'.length) : guid = guid' := by
  have hlen : guid.toList.length = guid'.toList.length := by
    rw [String.length_toList, String.length_toList, hl]
  exact String.toList_inj.mp
    ((List.suffix_of_suffix_length_le h h' (Nat.le_of_eq hlen)).eq_of_length hlen)

/-- The guids that are drawn are of one length. -/
theorem Guid.length_ofBytes (bytes : List UInt8) :
    (Guid.ofBytes bytes).length = 2 * bytes.length := by
  unfold Guid.ofBytes
  rw [String.length_ofList]
  induction bytes with
  | nil => rfl
  | cons b bytes ih =>
    rw [List.flatMap_cons, List.length_append, ih, List.length_cons]
    show 2 + 2 * bytes.length = _
    omega

/-- All that can be known by a name that ends with a guid: a policy by the ARN that its name
determines, an attachment by its role. -/
def Zone (arnOf : String → String) (guid : String) : Resource → Prop
  | .bucket name => EndsWith guid name
  | .policy arn => ∃ name, EndsWith guid name ∧ arn = arnOf name
  | .role name => EndsWith guid name
  | .attachment owner _ => EndsWith guid owner
  | .report name => EndsWith guid name
  | .deployment name => EndsWith guid name

variable {arnOf : String → String} {guid guid' : String}

/-- **Different guids have different zones**, if an ARN tells the name that it was made for. -/
theorem zone_disjoint (harn : ∀ name name', arnOf name = arnOf name' → name = name')
    (hl : guid.length = guid'.length) {x : Resource} (h : Zone arnOf guid x)
    (h' : Zone arnOf guid' x) : guid = guid' := by
  cases x with
  | policy arn =>
    obtain ⟨name, hname, rfl⟩ := h
    obtain ⟨name', hname', he⟩ := h'
    cases harn _ _ he
    exact hname.unique hname' hl
  | _ => exact EndsWith.unique h h' hl

/-! ## What a question is about -/

/-- The resources that a question is about. What is attached is about both of its ends. -/
def concerned (arnOf : String → String) : Question → List Resource
  | .amazon (.createBucket name) => [.bucket name]
  | .amazon (.putBucketPolicy bucket _) => [.bucket bucket]
  | .amazon (.deleteBucket name) => [.bucket name]
  | .amazon (.createPolicy name _) => [.policy (arnOf name)]
  | .amazon (.deletePolicy arn) => [.policy arn]
  | .amazon (.createRole name _) => [.role name]
  | .amazon (.deleteRole name) => [.role name]
  | .amazon (.attachRolePolicy owner arn) => [.attachment owner arn, .role owner, .policy arn]
  | .amazon (.detachRolePolicy owner arn) => [.attachment owner arn, .role owner, .policy arn]
  | .amazon (.putReport report) => [.report report.name]
  | .amazon (.deleteReport name) => [.report name]
  | .azure (.deploy name _) => [.deployment name]
  | .azure (.delete name) => [.deployment name]
  | _ => []

/-- A question that is about a zone only. -/
def InZone (arnOf : String → String) (guid : String) (q : Question) : Prop :=
  ∀ x ∈ concerned arnOf q, Zone arnOf guid x

theorem inZone_of_not_isCloud {q : Question} (h : q.isCloud = false) : InZone arnOf guid q := by
  cases q <;> first | exact (List.forall_mem_nil _) | cases h

/-- What is attached is in the zone of both of its ends. -/
theorem zone_attached {owner arn : String} (howner : Zone arnOf guid (.role owner))
    (hpolicy : Zone arnOf guid (.policy arn)) :
    ∀ x ∈ [Resource.attachment owner arn, .role owner, .policy arn], Zone arnOf guid x := by
  intro x hx
  simp only [List.mem_cons, List.not_mem_nil, or_false] at hx
  rcases hx with rfl | rfl | rfl
  · exact howner
  · exact howner
  · exact hpolicy

/-- An entry changes nothing but what its question is about. -/
theorem has_afterEntry_of_not_concerned {h : Holdings} {e : surroundings.Entry} {x : Resource}
    (harn : ∀ name document arn, e = ⟨.amazon (.createPolicy name document), some (.ok arn)⟩ →
      arn = arnOf name)
    (hx : x ∉ concerned arnOf e.1) : (h.afterEntry e).has x = h.has x := by
  have hadd : ∀ {y}, x ≠ y → (h.add y).has x = h.has x := fun hne => by
    rw [Holdings.has_add, decide_eq_false hne, Bool.false_or]
  have hremove : ∀ {y}, x ≠ y → (h.remove y).has x = h.has x := fun hne => by
    rw [Holdings.has_remove, decide_eq_false hne, Bool.not_false, Bool.true_and]
  obtain ⟨q, reply⟩ := e
  cases q with
  | amazon c =>
    obtain _ | _ | r := reply
    · rfl
    · cases c <;> rfl
    · cases c with
      | createPolicy name document =>
        rw [harn name document r rfl]
        exact hadd (List.ne_of_not_mem_cons hx)
      | createBucket | createRole | attachRolePolicy | putReport =>
        exact hadd (List.ne_of_not_mem_cons hx)
      | putBucketPolicy => rfl
      | deleteBucket | deletePolicy | deleteRole | detachRolePolicy | deleteReport =>
        exact hremove (List.ne_of_not_mem_cons hx)
  | azure c =>
    cases c with
    | deploy name template =>
      obtain _ | _ | r := reply <;> exact hadd (List.ne_of_not_mem_cons hx)
    | delete name =>
      obtain _ | _ | r := reply
      · rfl
      · rfl
      · exact hremove (List.ne_of_not_mem_cons hx)
    | _ => obtain _ | _ | r := reply <;> rfl
  | _ => rfl

/-! ## Records -/

/-- What the output of a kind is, in a record of a guid. -/
def Yields (arnOf : String → String) (guid : String) : Step.Kind → String → Prop
  | .policy, arn => ∃ name, EndsWith guid name ∧ arn = arnOf name
  | _, name => EndsWith guid name

end CloudGrant
