import CloudGrant.Application

/-!
# What is kept of an application

The inventory keeps data beside an application. What it says is read off along paths of member names
(`Describes`): the guid and the provider, each output of each step that is recorded, the name of the
bucket, and nothing else. The data of an application describes it (`describes_extraPayload`).
-/

namespace CloudGrant

namespace Json.Value

variable {α : Type}

/-- A dictionary is an object with its values as members. -/
theorem member?_ofDict (f : α → Value) (d : Dict String α) (name : String) :
    (ofDict f d).member? name = (d.find? name).map f := by
  obtain ⟨entries, hascending⟩ := d
  unfold member? ofDict Dict.find?
  dsimp only
  clear hascending
  induction entries with
  | nil => rfl
  | cons e rest ih =>
    rw [List.map_cons, List.find?_cons, Dict.findEntry_cons]
    by_cases h : name = e.1
    · simp [h]
    · have hne : (e.1 == name) = false := beq_eq_false_iff_ne.mpr (Ne.symm h)
      rw [hne, if_neg h]
      exact ih

/-- The members of an object are the ones that it lists. -/
theorem isSome_member?_object {members : List (String × Value)} {name : String} :
    ((object members).member? name).isSome = true ↔ name ∈ members.map Prod.fst := by
  unfold member?
  rw [Option.isSome_map, List.find?_isSome, List.mem_map]
  simp only [beq_iff_eq]

theorem follow_cons (v : Value) (name : String) (path : List String) :
    v.follow (name :: path) = (v.member? name).bind fun member => member.follow path := rfl

theorem follow_singleton (v : Value) (name : String) : v.follow [name] = v.member? name := by
  rw [follow_cons]
  cases v.member? name <;> rfl

/-- A step is a member of the text of a record if it is recorded. -/
theorem isSome_follow_record (r : Record) (step : String) :
    ((Wire.Record.toJson r).follow [step]).isSome = r.has step := by
  rw [follow_singleton, Wire.Record.toJson, member?_ofDict, Option.isSome_map]
  rfl

/-- One output of a step, in the text of a record. -/
theorem follow_record (r : Record) (step key : String) :
    (Wire.Record.toJson r).follow [step, key] = (r.output? step key).map .text := by
  rw [follow_cons, Wire.Record.toJson, member?_ofDict, Option.bind_map, Record.output?,
    Record.outputs?, Option.map_bind]
  congr 1
  funext outputs
  show (Wire.textMap outputs).follow [key] = (outputs.find? key).map .text
  rw [follow_singleton, Wire.textMap, member?_ofDict]

end Json.Value

namespace Application

/-- What is needed to take an application down. -/
def superKeyData (a : Application) : Json.Value :=
  .object
    [ ("guid", .text a.guid)
    , ("provider", .text a.request.provider)
    , ("steps", Wire.Record.toJson a.record) ]

theorem extraPayload_cases (a : Application) :
    (a.record.output? Step.Kind.bucket.name "output" = none ∧
        a.extraPayload = .object [("_superkey", a.superKeyData)]) ∨
      ∃ bucket, a.record.output? Step.Kind.bucket.name "output" = some bucket ∧
        a.extraPayload = .object [("_superkey", a.superKeyData), ("bucket", .text bucket)] := by
  unfold extraPayload
  cases a.record.output? Step.Kind.bucket.name "output" with
  | none => exact .inl ⟨rfl, rfl⟩
  | some bucket => exact .inr ⟨bucket, rfl, rfl⟩

theorem member?_extraPayload (a : Application) :
    a.extraPayload.member? "_superkey" = some a.superKeyData := by
  rcases a.extraPayload_cases with ⟨-, h⟩ | ⟨bucket, -, h⟩ <;> rw [h] <;> rfl

theorem follow_extraPayload (a : Application) (path : List String) :
    a.extraPayload.follow ("_superkey" :: path) = a.superKeyData.follow path := by
  rw [Json.Value.follow_cons, member?_extraPayload, Option.bind_some]

theorem follow_superKeyData_steps (a : Application) (path : List String) :
    a.superKeyData.follow ("steps" :: path) = (Wire.Record.toJson a.record).follow path := rfl

end Application

/-- What data says that is kept of an application. -/
structure Describes (extra : Json.Value) (guid provider : String) (record : Record) : Prop where
  guid : extra.follow ["_superkey", "guid"] = some (.text guid)
  provider : extra.follow ["_superkey", "provider"] = some (.text provider)
  step (name : String) : (extra.follow ["_superkey", "steps", name]).isSome = record.has name
  output (name key : String) : extra.follow ["_superkey", "steps", name, key] =
    (record.output? name key).map .text
  bucket : extra.follow ["bucket"] = (record.output? "s3" "output").map .text
  superKeyMembers (name : String) :
    (extra.follow ["_superkey", name]).isSome = true ↔ name ∈ ["guid", "provider", "steps"]
  members (name : String) (h : (extra.follow [name]).isSome = true) : name ∈ ["_superkey", "bucket"]

/-- **The data of an application describes it.** -/
theorem describes_extraPayload (a : Application) :
    Describes a.extraPayload a.guid a.request.provider a.record where
  guid := by rw [a.follow_extraPayload]; rfl
  provider := by rw [a.follow_extraPayload]; rfl
  step name := by
    rw [a.follow_extraPayload, a.follow_superKeyData_steps, Json.Value.isSome_follow_record]
  output name key := by
    rw [a.follow_extraPayload, a.follow_superKeyData_steps, Json.Value.follow_record]
  bucket := by
    show _ = (a.record.output? Step.Kind.bucket.name "output").map Json.Value.text
    rcases a.extraPayload_cases with ⟨hnone, h⟩ | ⟨bucket, hsome, h⟩
    · rw [h, hnone]
      rfl
    · rw [h, hsome]
      rfl
  superKeyMembers name := by
    rw [a.follow_extraPayload, Json.Value.follow_singleton]
    exact Json.Value.isSome_member?_object
  members name h := by
    rw [Json.Value.follow_singleton] at h
    rcases a.extraPayload_cases with ⟨-, hextra⟩ | ⟨bucket, -, hextra⟩
    · rw [hextra] at h
      exact List.mem_cons.mpr (.inl (List.mem_singleton.mp (Json.Value.isSome_member?_object.mp h)))
    · rw [hextra] at h
      exact Json.Value.isSome_member?_object.mp h

end CloudGrant
