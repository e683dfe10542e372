import CloudGrant.Call
import CloudGrant.Proofs.Run.Deadline

/-!
# Kinds of questions

The questions of a task are sorted by what they are for: those that take resources away again
(`Question.compensates`), those that mark something as unavailable (`Question.marks`), and all
others, by which an application is made and announced. `Question.fetches` and `Question.builds` are the
two that lead to a client. `Question.fails` says which answers are failures; the end of a login session
has no outcome.
-/

namespace CloudGrant

namespace Amazon

/-- Whether a call takes a resource away. -/
def Call.removes : Call → Bool
  | deleteBucket _ => true
  | deletePolicy _ => true
  | deleteRole _ => true
  | detachRolePolicy .. => true
  | deleteReport _ => true
  | _ => false

end Amazon

namespace Question

/-- Whether a question takes away what was made. -/
def compensates : Question → Bool
  | amazon c => c.removes
  | azure (.delete _) => true
  | _ => false

/-- Whether a question marks an application or a source. -/
def marks : Question → Bool
  | inventory _ (.patchApplication _ patch) => patch.status.isSome
  | inventory _ (.patchSource ..) => true
  | _ => false

/-- A question by which an application is made or announced. -/
def IsConstructive (q : Question) : Prop := q.compensates = false ∧ q.marks = false

/-- A question that goes to a cloud. -/
def isCloud : Question → Bool
  | amazon _ => true
  | azure _ => true
  | _ => false

/-- A question for a stored login. -/
def fetches : Question → Bool
  | inventory _ (.credential _) => true
  | _ => false

/-- A question that sets up a client for a login. -/
def builds : Question → Bool
  | build .. => true
  | _ => false

/-- A question by which something is made in a cloud. -/
def IsForging (q : Question) : Prop := q.isCloud = true ∧ q.compensates = false

theorem IsForging.isConstructive {q : Question} (h : q.IsForging) : q.IsConstructive := by
  obtain ⟨hcloud, hc⟩ := h
  refine ⟨hc, ?_⟩
  cases q <;> first | rfl | cases hcloud

/-- Whether an answer is a failure. -/
def fails : (q : Question) → q.Reply → Bool
  | amazon _, .error _ => true
  | azure c, .error _ => c ≠ .closeSession
  | inventory .., .error _ => true
  | _, _ => false

end Question

/-- An entry whose question was answered with a failure. -/
def Failed (e : surroundings.Entry) : Prop := ∃ r, e.2 = some r ∧ Question.fails e.1 r = true

theorem failed_some_iff {q : Question} {r : q.Reply} :
    Failed ⟨q, some r⟩ ↔ Question.fails q r = true := by
  constructor
  · rintro ⟨_, h, hf⟩
    cases h
    exact hf
  · intro h
    exact ⟨r, rfl, h⟩

theorem not_failed_none {q : Question} : ¬ Failed ⟨q, none⟩ := by
  rintro ⟨_, h, -⟩
  cases h

instance : DecidablePred Failed
  | ⟨_, none⟩ => isFalse not_failed_none
  | ⟨_, some _⟩ => decidable_of_iff _ failed_some_iff.symm

/-- An entry whose question was answered, and not with a failure. -/
def Succeeded (e : surroundings.Entry) : Prop := ∃ r, e.2 = some r ∧ Question.fails e.1 r = false

theorem Succeeded.not_failed {e : surroundings.Entry} (h : Succeeded e) : ¬ Failed e := by
  obtain ⟨r, hr, hf⟩ := h
  rintro ⟨r', hr', hf'⟩
  cases hr.symm.trans hr'
  rw [hf] at hf'
  cases hf'

instance : DecidablePred Succeeded
  | ⟨_, none⟩ => isFalse fun ⟨_, h, _⟩ => nomatch h
  | ⟨_, some r⟩ => decidable_of_iff (Question.fails _ r = false)
    ⟨fun h => ⟨r, rfl, h⟩, fun ⟨_, hr, h⟩ => Option.some.inj hr ▸ h⟩

end CloudGrant
