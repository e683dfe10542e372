import CloudGrant.Dict
import CloudGrant.Number.Decimal
import CloudGrant.Text.Quoted
import CloudGrant.Text.Utf8

/-!
# JSON values

Values, how they are built and how they are written. `render` writes a value without blanks;
`Value.debug` writes it with the name of each constructor, as diagnostics show it.

An object keeps its members in the order in which they are listed; `Value.ofDict` lists them by key,
so the text of a value that was read depends only on its contents.
-/

namespace CloudGrant.Json

/-- A number: an integer of 64 bits, signed or not, or a binary64 number with its sign. -/
inductive Number where
  | int (n : Int)
  | float (negative : Bool) (magnitude : Binary64)
deriving DecidableEq, Inhabited

/-- A JSON value. -/
inductive Value where
  | null
  | bool (b : Bool)
  | number (n : Number)
  | text (s : String)
  | list (items : List Value)
  | object (members : List (String × Value))
deriving Inhabited

namespace Value

/-! ## Building -/

/-- The object with a dictionary's entries as members. -/
def ofDict {α : Type} (f : α → Value) (d : Dict String α) : Value :=
  .object (d.entries.map (fun e => (e.1, f e.2)))

/-- The object of a list of members, ordered by key; of a repeated key the last value stays. -/
def ofMembers (members : List (String × Value)) : Value := ofDict id (Dict.ofList members)

def ofNat (n : Nat) : Value := .number (.int n)

/-! ## Taking apart -/

/-- The value of a member of an object. -/
def member? : Value → String → Option Value
  | .object ms, k => (ms.find? (fun m => m.1 == k)).map Prod.snd
  | _, _ => none

def text? : Value → Option String
  | .text s => some s
  | _ => none

/-- Follow a path of member names. -/
def follow (v : Value) (path : List String) : Option Value :=
  path.foldlM (fun v k => v.member? k) v

end Value

/-! ## Writing -/

/-- A hexadecimal digit in lower case. -/
def hexDigit (n : Nat) : Char := (Nat.digitChar n)

/-- One character of a text: only quotes, backslashes and controls are escaped. -/
def escape (c : Char) : List Char :=
  if c = '"' ∨ c = '\\' then ['\\', c]
  else if c = '\x08' then ['\\', 'b']
  else if c = '\t' then ['\\', 't']
  else if c = '\n' then ['\\', 'n']
  else if c = '\x0c' then ['\\', 'f']
  else if c = '\r' then ['\\', 'r']
  else if c.toNat < 0x20 then
    ['\\', 'u', '0', '0', hexDigit (c.toNat / 16), hexDigit (c.toNat % 16)]
  else [c]

/-- A text in quotes. -/
def renderText (s : String) : List Char := '"' :: (s.toList.flatMap escape ++ ['"'])

def Number.text : Number → String
  | .int n => toString n
  | .float negative x => Decimal.wire.text negative x

mutual

/-- A value as JSON text without blanks. -/
def Value.render : Value → List Char
  | .null => ['n', 'u', 'l', 'l']
  | .bool true => ['t', 'r', 'u', 'e']
  | .bool false => ['f', 'a', 'l', 's', 'e']
  | .number n => n.text.toList
  | .text s => renderText s
  | .list [] => ['[', ']']
  | .list (v :: vs) => '[' :: (v.render ++ renderItems vs)
  | .object [] => ['\x7b', '\x7d']
  | .object ((k, v) :: ms) => '\x7b' :: (renderText k ++ ':' :: (v.render ++ renderMembers ms))

/-- The items after the first, with the closing bracket. -/
def renderItems : List Value → List Char
  | [] => [']']
  | v :: vs => ',' :: (v.render ++ renderItems vs)

/-- The members after the first, with the closing brace. -/
def renderMembers : List (String × Value) → List Char
  | [] => ['\x7d']
  | (k, v) :: ms => ',' :: (renderText k ++ ':' :: (v.render ++ renderMembers ms))

end

/-- A value as JSON text. -/
def Value.toText (v : Value) : String := String.ofList v.render

/-- A value as the bytes of its text. -/
def Value.toBytes (v : Value) : List UInt8 := Text.Utf8.encode v.toText

/-! ## Diagnostics -/

mutual

/-- A value with the name of each constructor. -/
def Value.debug : Value → List Char
  | .null => "Null".toList
  | .bool true => "Bool(true)".toList
  | .bool false => "Bool(false)".toList
  | .number n => "Number(".toList ++ n.text.toList ++ [')']
  | .text s => "String(".toList ++ (Text.Quoted.quote s).toList ++ [')']
  | .list [] => "Array []".toList
  | .list (v :: vs) => "Array [".toList ++ v.debug ++ debugItems vs
  | .object [] => "Object ".toList ++ ['\x7b', '\x7d']
  | .object ((k, v) :: ms) =>
    "Object ".toList ++ '\x7b' :: ((Text.Quoted.quote k).toList ++ ": ".toList ++ v.debug
      ++ debugMembers ms)

def debugItems : List Value → List Char
  | [] => [']']
  | v :: vs => ", ".toList ++ v.debug ++ debugItems vs

def debugMembers : List (String × Value) → List Char
  | [] => ['\x7d']
  | (k, v) :: ms =>
    ", ".toList ++ (Text.Quoted.quote k).toList ++ ": ".toList ++ v.debug ++ debugMembers ms

end

end CloudGrant.Json
