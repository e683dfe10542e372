import CloudGrant.Request
import CloudGrant.Text.Replace

/-!
# Substitution

A step's payload is a template: each of its placeholders stands for a value from the request or from
the record so far. Placeholders are filled in the order of their keys, each in the text that the
earlier ones left; one whose value is unknown stays as it is.
-/

namespace CloudGrant

/-- The value of a filler. -/
def Filler.value? (f : Filler) (request : Request.Create) (record : Record) : Option String :=
  match f with
  | .account => request.extra.find? "account"
  | .bucketName => record.output? Step.Kind.bucket.name "output"
  | .externalId => request.extra.find? "external_id"

/-- The value of the filler that a substitution names. -/
def fillerValue? (name : String) (request : Request.Create) (record : Record) : Option String :=
  (Filler.ofName? name).bind (fun f => f.value? request record)

/-- Fill one placeholder. -/
def fill (request : Request.Create) (record : Record) (payload : List Char)
    (entry : String × String) : List Char :=
  match fillerValue? entry.2 request record with
  | some value => Text.replaceAll entry.1.toList value.toList payload
  | none => payload

/-- Fill all placeholders of a payload. -/
def substitute (payload : String) (substitutions : Dict String String) (request : Request.Create)
    (record : Record) : String :=
  String.ofList (substitutions.entries.foldl (fill request record) payload.toList)

end CloudGrant
