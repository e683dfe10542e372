/-!
# XML documents

Elements with their text and their children; attributes, comments and instructions are left out. A
document is first cut into tokens (`Token.ofChars?`), character by character, and then the tokens are
nested (`Node.ofTokens?`). Both refuse what is not well formed.

## Termination

Both passes recurse on their input.
-/

namespace CloudGrant.Xml

/-! ## Tokens -/

/-- A piece of a document. -/
inductive Token where
  | start (name : List Char)
  | stop (name : List Char)
  | text (s : List Char)
deriving DecidableEq

namespace Token

/-- The number that digits of a base stand for. -/
def number? (base : Nat) (digits : List Char) : Option Nat :=
  if digits = [] then none
  else digits.foldlM (fun n c =>
    let d := if c.isDigit then c.toNat - 48
      else if c.isAlpha then c.toLower.toNat - 87 else base
    if d < base then some (n * base + d) else none) 0

/-- The character of a code point. -/
def charOf? (n : Nat) : Option Char := if n.isValidChar then some (Char.ofNat n) else none

/-- The character that a reference names. -/
def named? (name : List Char) : Option Char :=
  match name with
  | ['l', 't'] => some '<'
  | ['g', 't'] => some '>'
  | ['a', 'm', 'p'] => some '&'
  | ['q', 'u', 'o', 't'] => some '"'
  | ['a', 'p', 'o', 's'] => some '\''
  | '#' :: 'x' :: digits => (number? 16 digits).bind charOf?
  | '#' :: digits => (number? 10 digits).bind charOf?
  | _ => none

/-- A text with its references resolved; `pending` is the reference that is being read. -/
def resolve? : (pending : Option (List Char)) → List Char → Option (List Char)
  | none, [] => some []
  | some _, [] => none
  | none, c :: s => if c = '&' then resolve? (some []) s else (resolve? none s).map (c :: ·)
  | some name, c :: s =>
    if c = ';' then (named? name.reverse).bind fun d => (resolve? none s).map (d :: ·)
    else resolve? (some (c :: name)) s

/-- Whether a character is a blank between the parts of a tag. -/
def isSpace (c : Char) : Bool := c == ' ' || c == '\t' || c == '\n' || c == '\r'

/-- The name at the start of a tag. -/
def tagName (s : List Char) : List Char := s.takeWhile (fun c => !isSpace c && c ≠ '/')

/-- The text of a marked section. -/
def section? (s : List Char) : Option (List Char) :=
  if "![CDATA[".toList.isPrefixOf s then some ((s.drop 8).take (s.length - 10)) else none

/-- The tokens of what stands between angle brackets. -/
def ofTag? (s : List Char) : Option (List Token) :=
  match s with
  | [] => none
  | '?' :: _ => some []
  | '!' :: _ => some ((section? s).elim [] fun t => [text t])
  | '/' :: rest => some [stop (tagName rest)]
  | _ =>
    let name := tagName s
    if name = [] then none
    else if s.getLast? = some '/' then some [start name, stop name]
    else some [start name]

/-- Whether a tag ends at a closing bracket, from what stands before it, last character first. -/
def endsTag (inside : List Char) : Bool :=
  let s := inside.reverse
  if "!--".toList.isPrefixOf s then inside.take 2 == ['-', '-'] && inside.length ≥ 5
  else if "![CDATA[".toList.isPrefixOf s then
    inside.take 2 == [']', ']'] && inside.length ≥ 10
  else if s.head? = some '?' then inside.head? = some '?' && inside.length ≥ 2
  else true

/-- The quotation mark that is open after a character of a tag. -/
def quoteAfter (inside : List Char) (quote : Option Char) (c : Char) : Option Char :=
  if inside.getLast?.any (fun f => f == '!' || f == '?') then none
  else match quote with
    | some q => if c = q then none else some q
    | none => if c = '"' ∨ c = '\'' then some c else none

/-- Where reading stands: in a text, or in a tag with its open quotation mark. What was read of it is
kept with the last character first. -/
inductive Place where
  | inText (read : List Char)
  | inTag (read : List Char) (quote : Option Char)

/-- The token of a text that is over. -/
def ofText? (read : List Char) : Option (List Token) :=
  if read = [] then some [] else (resolve? none read.reverse).map fun s => [text s]

/-- The tokens of a document from a place on. -/
def fromPlace? : Place → List Char → Option (List Token)
  | .inText read, [] => ofText? read
  | .inTag .., [] => none
  | .inText read, c :: s =>
    if c = '<' then (ofText? read).bind fun t => (fromPlace? (.inTag [] none) s).map (t ++ ·)
    else fromPlace? (.inText (c :: read)) s
  | .inTag read quote, c :: s =>
    if c = '>' ∧ quote.isNone ∧ endsTag read then
      (ofTag? read.reverse).bind fun t => (fromPlace? (.inText []) s).map (t ++ ·)
    else fromPlace? (.inTag (c :: read) (quoteAfter read quote c)) s

/-- The tokens of a document. -/
def ofChars? (s : List Char) : Option (List Token) := fromPlace? (.inText []) s

end Token

/-! ## Elements -/

/-- A text or an element. -/
inductive Node where
  | text (s : List Char)
  | element (name : List Char) (children : List Node)

namespace Node

/-- An element that is not closed yet, with the children read so far, the last one first. -/
structure Open where
  name : List Char
  children : List Node

/-- Nest tokens in the elements that are open, the innermost first; `done` holds the document's
element once it is closed. -/
def nest? : (done : Option Node) → List Open → List Token → Option Node
  | done, [], [] => done
  | _, _ :: _, [] => none
  | none, opened, .start name :: tokens => nest? none (⟨name, []⟩ :: opened) tokens
  | some _, _, .start _ :: _ => none
  | done, [], .text s :: tokens =>
    if s.all Token.isSpace then nest? done [] tokens else none
  | done, e :: opened, .text s :: tokens =>
    nest? done ({ e with children := .text s :: e.children } :: opened) tokens
  | _, [], .stop _ :: _ => none
  | done, e :: opened, .stop name :: tokens =>
    if e.name ≠ name then none
    else
      let node := element e.name e.children.reverse
      match opened with
      | [] => nest? (some node) [] tokens
      | parent :: opened =>
        nest? done ({ parent with children := node :: parent.children } :: opened) tokens

/-- The element of a document. -/
def ofTokens? (tokens : List Token) : Option Node := nest? none [] tokens

/-- The element of a document. -/
def parse? (s : List Char) : Option Node := (Token.ofChars? s).bind ofTokens?

def children : Node → List Node
  | text _ => []
  | element _ children => children

/-- Whether a node is an element of a name. -/
def isNamed (name : String) : Node → Bool
  | text _ => false
  | element n _ => n == name.toList

/-- The child elements of a name. -/
def childrenNamed (n : Node) (name : String) : List Node := n.children.filter (isNamed name)

/-- The last child element of a name. -/
def child? (n : Node) (name : String) : Option Node := (n.childrenNamed name).getLast?

/-- Follow a path of child elements. -/
def follow (n : Node) (path : List String) : Option Node := path.foldlM (fun n k => n.child? k) n

/-- The text of a node. -/
def content (n : Node) : String :=
  String.ofList (n.children.flatMap fun
    | text s => s
    | element .. => [])

end Node

end CloudGrant.Xml
