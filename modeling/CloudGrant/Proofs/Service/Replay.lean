import CloudGrant.Proofs.Run.Alike
import CloudGrant.Proofs.Wire
import CloudGrant.Provider

/-!
# Taking down from a destroy request

Both providers take down by the record alone: two applications with the same record are asked about
in the same way (`Provider.respects_takeDown`). The record is what a destroy request hands over
unchanged, so an application that is rebuilt from the text of its destroy request is taken down like
the original (`takeDown_of_decoded`).
-/

namespace CloudGrant

open Program
open Run (Alike)

/-- States of which nothing is known. -/
def Unrelated (_ _ : Application) : Prop := True

/-- The same is recorded. -/
def SameRecord (a b : Application) : Prop := a.record = b.record

/-! ## Amazon -/

namespace Amazon

variable {R : Application → Application → Prop}

theorem respects_undo (record : Record) (kind : Step.Kind) : (undo record kind).Respects R R := by
  unfold undo
  cases undoing record kind with
  | error e => exact respects_pure _
  | ok u =>
    refine respects_bind (respects_ask _) fun reply => ?_
    cases reply <;> exact respects_pure _

theorem respects_undoAll (record : Record) (kinds : List Step.Kind) :
    (undoAll record kinds).Respects R R := by
  induction kinds with
  | nil => exact respects_pure _
  | cons kind kinds ih =>
    refine respects_bind (respects_undo record kind) fun _ => ?_
    exact respects_bind ih fun _ => respects_pure _

theorem respects_takeDown : takeDown.Respects SameRecord Unrelated := by
  intro a b h
  unfold takeDown
  rw [get_bind, get_bind, show a.record = b.record from h]
  exact respects_undoAll b.record (toUndo b.record) trivial

end Amazon

/-! ## Azure -/

namespace Azure

variable {R : Application → Application → Prop} {α : Type} {login : Login}
  {work : Work (Except Cause α)}

/-- A session is open in both states, or in none. -/
def SameSession (a b : Application) : Prop := a.inSession = b.inSession

theorem respects_loggedIn (hw : work.Respects R R) : (loggedIn login work).Respects R R := by
  refine respects_bind (respects_ask _) fun reply => ?_
  cases reply with
  | error e => exact respects_pure _
  | ok _ =>
    refine respects_bind hw fun result => respects_bind (respects_ask _) fun out => ?_
    cases result <;> cases out <;> exact respects_pure _

theorem respects_release : release.Respects SameSession SameSession := by
  intro a b h
  unfold release
  rw [get_bind, get_bind, show a.inSession = b.inSession from h]
  cases b.inSession with
  | false => exact respects_pure () h
  | true => exact respects_bind (respects_ask _) (fun _ => respects_modify fun _ _ _ => rfl) h

/-- Nothing depends on the state in which a session is opened. -/
theorem respects_inSession (hw : work.Respects SameSession SameSession) :
    (inSession login work).Respects Unrelated Unrelated := by
  have hopened : (Program.modify fun a => { a with inSession := true } : Work Unit).Respects
      Unrelated SameSession := respects_modify fun _ _ _ => rfl
  refine respects_bind (respects_ask _) fun reply => ?_
  cases reply with
  | error e => exact respects_pure _
  | ok _ =>
    -- from here on the session is open in both runs
    refine respects_bind hopened fun _ => ?_
    refine respects_bind (respects_loggedIn hw) fun _ => ?_
    refine respects_bind respects_release fun result => ?_
    exact (respects_pure _).mono (fun _ _ h => h) fun _ _ _ => trivial

theorem respects_takeDown : (takeDown login).Respects SameRecord Unrelated := by
  intro a b h
  unfold takeDown
  rw [get_bind, get_bind, show a.record = b.record from h]
  cases b.record.output? stepName "name" with
  | none => exact respects_pure [] trivial
  | some name =>
    have hdelete : (inSession login (call (.delete name))).Respects Unrelated Unrelated :=
      respects_inSession (respects_ask _)
    refine respects_bind hdelete (fun reply => ?_) trivial
    cases reply <;> exact respects_pure _

end Azure

/-! ## Both -/

/-- **Taking down depends on the record alone.** -/
theorem Provider.respects_takeDown (p : Provider) : p.takeDown.Respects SameRecord Unrelated := by
  cases p with
  | amazon keyId secret => exact Amazon.respects_takeDown
  | azure login template => exact Azure.respects_takeDown

namespace Application

/-- **An application is taken down alike from what its destroy request says**, by either provider
and whatever its calls are answered; and no destroy request is changed by rebuilding its
application. -/
theorem takeDown_of_decoded :
    (∀ (p : Provider) (a : Application),
      ∃ r, Json.decode Wire.destroy (Wire.Destroy.toJson a.destroyRequest).toBytes = .ok r ∧
        ∀ (ω : Type) (answer : ω → (q : surroundings.Request) → surroundings.Reply q × ω) (w : ω),
          (p.takeDown (ofDestroy r)).history answer w = (p.takeDown a).history answer w ∧
          ((p.takeDown (ofDestroy r)).exec answer w).1.2 = ((p.takeDown a).exec answer w).1.2 ∧
          ((p.takeDown (ofDestroy r)).exec answer w).2 = ((p.takeDown a).exec answer w).2) ∧
      ∀ r, (ofDestroy r).destroyRequest = r := by
  refine ⟨fun p a => ⟨a.destroyRequest, Wire.decode_destroy _, fun ω answer w => ?_⟩,
    destroyRequest_ofDestroy⟩
  have hsame : SameRecord (ofDestroy a.destroyRequest) a := rfl
  have halike : Alike Unrelated (p.takeDown (ofDestroy a.destroyRequest)) (p.takeDown a) :=
    p.respects_takeDown hsame
  exact ⟨halike.history_eq answer w, halike.exec_eq answer w⟩

end Application

end CloudGrant
