import CloudGrant.Dict
import CloudGrant.Text.Utf8

/-!
# Messages

A message has headers and a body. Header names do not depend on the case of ASCII letters, and of
several values under one name the last stays. `Message.ofHttp` takes the headers of an HTTP request,
of which only readable values are kept.
-/

namespace CloudGrant

/-- A name with its ASCII letters in lower case. -/
def lowerCase (name : String) : String := String.ofList (name.toList.map Char.toLower)

/-- A message. -/
structure Message where
  headers : Dict String String
  body : List UInt8

namespace Message

/-- The message without headers. -/
def new (body : List UInt8) : Message := ⟨Dict.empty, body⟩

/-- The message with one more header, in place of an earlier one of that name. -/
def withHeader (m : Message) (name value : String) : Message :=
  { m with headers := m.headers.insert (lowerCase name) value }

/-- The value of a header, empty if there is none. -/
def header (m : Message) (name : String) : String :=
  ((m.headers.entries.find? (fun e => lowerCase e.1 == lowerCase name)).map Prod.snd).getD ""

/-- Whether a byte of a header's value can be read as text: a blank, a tab or a visible ASCII
character. -/
def isReadable (b : UInt8) : Bool := (0x20 ≤ b && b < 0x7F) || b == 0x09

/-- The text of a header's value, if all of it is readable. -/
def readable? (value : List UInt8) : Option String :=
  if value.all isReadable then Text.Utf8.decode? value else none

/-- Add a header of an HTTP request, unless its value cannot be read. -/
def addHttp (m : Message) (header : String × List UInt8) : Message :=
  match readable? header.2 with
  | some value => m.withHeader header.1 value
  | none => m

/-- The message of an HTTP request. -/
def ofHttp (headers : List (String × List UInt8)) (body : List UInt8) : Message :=
  headers.foldl addHttp (new body)

end Message

end CloudGrant
