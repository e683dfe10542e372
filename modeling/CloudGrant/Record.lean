import CloudGrant.Step

/-!
# Records

The record of an application holds, for each step that was completed, the outputs needed later: names
and identifiers of what was made. It is what is handed to the inventory and what a later request
takes down by.
-/

namespace CloudGrant

/-- What a completed step left behind, by key. -/
abbrev Outputs := Dict String String

/-- The completed steps with their outputs. -/
structure Record where
  steps : Dict String Outputs

namespace Record

/-- Nothing completed. -/
def empty : Record := ⟨Dict.empty⟩

instance : Inhabited Record := ⟨empty⟩

instance : DecidableEq Record := fun r s =>
  if h : r.steps = s.steps then isTrue (by cases r; cases s; cases h; rfl)
  else isFalse (fun he => h (he ▸ rfl))

def isEmpty (r : Record) : Bool := r.steps.isEmpty

/-- Note a step with its outputs, in place of what was noted for it before. -/
def complete (r : Record) (step : String) (outputs : Outputs) : Record :=
  ⟨r.steps.insert step outputs⟩

/-- Whether a step is noted. -/
def has (r : Record) (step : String) : Bool := r.steps.contains step

/-- The outputs of a step. -/
def outputs? (r : Record) (step : String) : Option Outputs := r.steps.find? step

/-- One output of a step. -/
def output? (r : Record) (step key : String) : Option String :=
  (r.outputs? step).bind (fun o => o.find? key)

/-- Note one output of a step beside its others. -/
def setOutput (r : Record) (step key value : String) : Record :=
  r.complete step (((r.outputs? step).getD Dict.empty).insert key value)

@[simp] theorem outputs?_complete_self (r : Record) (step : String) (o : Outputs) :
    (r.complete step o).outputs? step = some o := by
  simp [outputs?, complete]

theorem outputs?_complete_of_ne (r : Record) {step other : String} (o : Outputs)
    (h : other ≠ step) : (r.complete step o).outputs? other = r.outputs? other :=
  Dict.find?_insert_of_ne r.steps o h

@[simp] theorem output?_setOutput_self (r : Record) (step key value : String) :
    (r.setOutput step key value).output? step key = some value := by
  simp [output?, setOutput]

@[simp] theorem isEmpty_complete (r : Record) (step : String) (o : Outputs) :
    (r.complete step o).isEmpty = false := Dict.isEmpty_insert r.steps step o

end Record

end CloudGrant
