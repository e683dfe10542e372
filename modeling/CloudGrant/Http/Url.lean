import CloudGrant.Naming
import CloudGrant.Text.Blank
import CloudGrant.Text.Percent

/-!
# URLs

A URL is read the way a browser reads it: blanks around it and line breaks in it are dropped, the
scheme and the host are put in lower case, a default port is left out, `.` and `..` segments of the
path are resolved, and characters that may not stand in a component are percent-encoded. A URL
without a host is a path that cannot be followed.

Reading goes from left to right by cutting: scheme, authority, path, query, fragment.
-/

namespace CloudGrant.Http

open Naming (segments)

/-- The path of a URL: segments after a slash each, or a text that has none. -/
inductive Path where
  | segments (l : List (List Char))
  | opaqueText (s : List Char)
deriving DecidableEq

/-- A URL. -/
structure Url where
  scheme : List Char
  userInfo : Option (List Char × List Char)
  host : Option (List Char)
  port : Option Nat
  path : Path
  query : Option (List Char)
  fragment : Option (List Char)
deriving DecidableEq

namespace Url

/-! ## Character sets -/

/-- Whether a character stands for itself in some component: it is a visible ASCII character or a
blank, and not among those set apart. -/
def keepsBut (apart : List Char) (c : Char) : Bool :=
  0x20 ≤ c.toNat && c.toNat ≤ 0x7E && !apart.contains c

def keepsOpaque : Char → Bool := keepsBut []
def keepsFragment : Char → Bool := keepsBut [' ', '"', '<', '>', '`']
def keepsQuery : Char → Bool := keepsBut [' ', '"', '#', '<', '>', '\'']
def keepsPlainQuery : Char → Bool := keepsBut [' ', '"', '#', '<', '>']
def keepsPath : Char → Bool := keepsBut [' ', '"', '<', '>', '`', '#', '?', '\x7b', '\x7d']
def keepsUserInfo : Char → Bool :=
  keepsBut [' ', '"', '<', '>', '`', '#', '?', '\x7b', '\x7d', '/', ':', ';', '=', '@', '[', '\\',
    ']', '^', '|']

/-! ## Schemes -/

def isSchemeChar (c : Char) : Bool := c.isAlphanum || c == '+' || c == '-' || c == '.'

/-- The scheme of a URL in lower case, and what follows the colon. -/
def splitScheme? (s : List Char) : Option (List Char × List Char) :=
  match s with
  | [] => none
  | c :: _ =>
    if c.isAlpha then
      match s.dropWhile isSchemeChar with
      | ':' :: rest => some ((s.takeWhile isSchemeChar).map Char.toLower, rest)
      | _ => none
    else none

/-- The schemes whose URLs name a host, with the port that is meant when none is given. -/
def specialSchemes : List (List Char × Option Nat) :=
  [ ("http".toList, some 80), ("https".toList, some 443), ("ws".toList, some 80)
  , ("wss".toList, some 443), ("ftp".toList, some 21), ("file".toList, none) ]

def isSpecial (scheme : List Char) : Bool := specialSchemes.any (fun e => e.1 == scheme)

def defaultPort? (scheme : List Char) : Option Nat :=
  (specialSchemes.find? (fun e => e.1 == scheme)).bind Prod.snd

/-- Whether a character separates the segments of a path. -/
def isSlash (special : Bool) (c : Char) : Bool := c == '/' || (special && c == '\\')

/-! ## Hosts -/

/-- A number of an address: decimal, octal after `0`, hexadecimal after `0x`. -/
def addressNumber? (s : List Char) : Option Nat :=
  let (base, digits) := match s with
    | '0' :: x :: rest => if x == 'x' || x == 'X' then (16, rest) else (8, x :: rest)
    | _ => (10, s)
  digits.foldlM (fun n c =>
    (Text.Percent.value? c).bind fun d => if d < base then some (n * base + d) else none) 0

/-- The parts of an address between dots, without an empty one at the end. -/
def addressParts (s : List Char) : List (List Char) :=
  let parts := segments '.' s
  if parts.length ≥ 2 ∧ parts.getLast? = some [] then parts.dropLast else parts

/-- Whether a host has the form of an address: its last part is a number. -/
def isAddress (s : List Char) : Bool :=
  match (addressParts s).getLast? with
  | none => false
  | some part => part ≠ [] && (part.all Char.isDigit
    || ((part.take 2 == ['0', 'x']) && (addressNumber? part).isSome))

/-- An address as four numbers with dots between. -/
def addressText (n : Nat) : List Char :=
  ".".toList.intercalate
    ([n / 0x1000000, n / 0x10000 % 256, n / 0x100 % 256, n % 256].map (Nat.toDigits 10))

/-- An address: at most four numbers, of which all but the last are bytes and the last fills up the
rest. -/
def address? (s : List Char) : Option (List Char) := do
  let parts := addressParts s
  let numbers ← parts.mapM (fun p => if p = [] then none else addressNumber? p)
  let last ← numbers.getLast?
  let front := numbers.dropLast
  if numbers.length > 4 ∨ front.any (· > 255) ∨ last ≥ Nat.pow 256 (5 - numbers.length) then none
  else
    let high := (front.zipIdx).foldl (fun n e => n + e.1 * Nat.pow 256 (3 - e.2)) 0
    some (addressText (high + last))

/-- Whether a character may stand in the name of a host. -/
def isHostChar (c : Char) : Bool :=
  0x21 ≤ c.toNat && c.toNat ≠ 0x7F
    && !(['#', '/', ':', '<', '>', '?', '@', '[', '\\', ']', '^', '|', '%'].contains c)

/-- The host of a URL whose scheme names hosts. -/
def specialHost? (s : List Char) : Option (List Char) :=
  match s with
  | '[' :: rest =>
    if rest.getLast? = some ']' ∧ rest.dropLast.all (fun c => (Text.Percent.value? c).isSome
        || c == ':' || c == '.') then some (s.map Char.toLower)
    else none
  | _ =>
    let name := ((Text.Utf8.decodeLossy (Text.Percent.decode s)).toList).map Char.toLower
    if name = [] ∨ !name.all isHostChar then none
    else if isAddress name then address? name
    else some name

/-- The host of any other URL. -/
def plainHost? (s : List Char) : Option (List Char) :=
  if s.all (fun c => c == '%' || isHostChar c) then some (Text.Percent.encode keepsOpaque s) else none

/-- The port of a URL: `some none` if none is given or it goes without saying. -/
def port? (scheme : List Char) (s : List Char) : Option (Option Nat) :=
  if !s.all Char.isDigit then none
  else if s = [] then some none
  else
    let n := s.foldl (fun n c => n * 10 + (c.toNat - 48)) 0
    if n > 65535 then none
    else if defaultPort? scheme = some n then some none
    else some (some n)

/-- The text before the first colon outside brackets, and the one after it. -/
def splitPort (s : List Char) : List Char × List Char :=
  match s with
  | '[' :: _ =>
    let inside := s.takeWhile (· ≠ ']')
    match s.dropWhile (· ≠ ']') with
    | ']' :: ':' :: port => (inside ++ [']'], port)
    | rest => (inside ++ rest, [])
  | _ => (s.takeWhile (· ≠ ':'), (s.dropWhile (· ≠ ':')).drop 1)

/-- The text before the last `@`, if there is one, and the one after it. -/
def splitUser (s : List Char) : Option (List Char) × List Char :=
  if s.contains '@' then
    let host := (s.reverse.takeWhile (· ≠ '@')).reverse
    (some (s.take (s.length - host.length - 1)), host)
  else (none, s)

/-- User and password, if either is there. -/
def userInfo? (s : List Char) : Option (List Char × List Char) :=
  let user := s.takeWhile (· ≠ ':')
  let password := (s.dropWhile (· ≠ ':')).drop 1
  if user = [] ∧ password = [] then none
  else some (Text.Percent.encode keepsUserInfo user, Text.Percent.encode keepsUserInfo password)

/-! ## Paths -/

/-- Whether a segment means the place where it stands. -/
def isDot (s : List Char) : Bool :=
  let t := s.map Char.toLower
  t == ['.'] || t == ['%', '2', 'e']

/-- Whether a segment means one step up. -/
def isDoubleDot (s : List Char) : Bool :=
  let t := s.map Char.toLower
  [['.', '.'], ['.', '%', '2', 'e'], ['%', '2', 'e', '.'], ['%', '2', 'e', '%', '2', 'e']].contains t

/-- Walk down segments from a place; the last of them is where the path ends. -/
def walk (place : List (List Char)) : List (List Char) → List (List Char)
  | [] => place
  | [last] =>
    if isDoubleDot last then place.dropLast ++ [[]]
    else if isDot last then place ++ [[]]
    else place ++ [last]
  | s :: more =>
    if isDoubleDot s then walk place.dropLast more
    else if isDot s then walk place more
    else walk (place ++ [s]) more

/-- The segments of a path that starts at a slash, percent-encoded. -/
def segmentsOf (special : Bool) (s : List Char) : List (List Char) :=
  let slashed := s.map (fun c => if isSlash special c then '/' else c)
  (segments '/' slashed).map (Text.Percent.encode keepsPath)

/-! ## Reading -/

/-- What stands before a mark, and what after it. -/
def cut (mark : Char) (s : List Char) : List Char × Option (List Char) :=
  match s.dropWhile (· ≠ mark) with
  | [] => (s, none)
  | _ :: rest => (s.takeWhile (· ≠ mark), some rest)

/-- What follows the authority: path, query and fragment. -/
structure Tail where
  path : List Char
  query : Option (List Char)
  fragment : Option (List Char)

/-- Cut off fragment and query. -/
def Tail.ofChars (s : List Char) : Tail :=
  let (front, fragment) := cut '#' s
  let (path, query) := cut '?' front
  ⟨path, query, fragment⟩

def encodeQuery (special : Bool) (q : List Char) : List Char :=
  Text.Percent.encode (if special then keepsQuery else keepsPlainQuery) q

/-- Fill in query and fragment. -/
def withTail (u : Url) (t : Tail) : Url :=
  { u with
    query := t.query.map (encodeQuery (isSpecial u.scheme))
    fragment := t.fragment.map (Text.Percent.encode keepsFragment) }

/-- The URL of a scheme whose authority starts here. -/
def ofAuthority? (scheme s : List Char) : Option Url := do
  let special := isSpecial scheme
  let stops (c : Char) : Bool := isSlash special c || c == '?' || c == '#'
  let (user, place) := splitUser (s.takeWhile (fun c => !stops c))
  let (name, portText) := splitPort place
  let host ← if special then specialHost? name else plainHost? name
  let port ← port? scheme portText
  let tail := Tail.ofChars (s.dropWhile (fun c => !stops c))
  let path : List (List Char) := match tail.path with
    | [] => if special then [[]] else []
    | _ :: path => walk [] (segmentsOf special path)
  some (withTail ⟨scheme, user.bind userInfo?, some host, port, .segments path, none, none⟩ tail)

def fileScheme : List Char := "file".toList

/-- The URL of a file from what follows the colon; a file here has an empty host. -/
def ofFile? (s : List Char) : Option Url := do
  let stops (c : Char) : Bool := isSlash true c || c == '?' || c == '#'
  let (place, rest) := match s with
    | a :: b :: more =>
      if isSlash true a && isSlash true b then
        (more.takeWhile (fun c => !stops c), more.dropWhile (fun c => !stops c))
      else ([], s)
    | _ => ([], s)
  let host ←
    if place = [] ∨ place.map Char.toLower = "localhost".toList then some []
    else specialHost? place
  let tail := Tail.ofChars rest
  let path := match tail.path with
    | [] => []
    | c :: path => if isSlash true c then path else c :: path
  some (withTail
    ⟨fileScheme, none, some host, none, .segments (walk [] (segmentsOf true path)), none, none⟩ tail)

/-- The URL of a scheme from what follows the colon. -/
def ofScheme? (scheme s : List Char) : Option Url :=
  if scheme = fileScheme then ofFile? s
  else if isSpecial scheme then ofAuthority? scheme (s.dropWhile (isSlash true))
  else
    match s with
    | '/' :: '/' :: rest => ofAuthority? scheme rest
    | _ =>
      let tail := Tail.ofChars s
      let path : Path := match tail.path with
        | '/' :: path => .segments (walk [] (segmentsOf false path))
        | path => .opaqueText (Text.Percent.encode keepsOpaque path)
      some (withTail ⟨scheme, none, none, none, path, none, none⟩ tail)

/-- A text without the blanks and controls around it and the line breaks and tabs in it. -/
def tidy (s : List Char) : List Char :=
  (Text.trimWhile (fun c => c.toNat ≤ 0x20) s).filter
    (fun c => c ≠ '\t' ∧ c ≠ '\n' ∧ c ≠ '\r')

/-- The URL of a text, if it is one. -/
def parse? (s : String) : Option Url := do
  let (scheme, rest) ← splitScheme? (tidy s.toList)
  ofScheme? scheme rest

/-! ## References -/

/-- The segments of a URL's path. -/
def segmentList (u : Url) : List (List Char) :=
  match u.path with
  | .segments l => l
  | .opaqueText _ => []

/-- What a reference without a scheme means at a URL. -/
def relative? (base : Url) (s : List Char) : Option Url :=
  let special := isSpecial base.scheme
  let bare : Url := { base with query := none, fragment := none }
  match s with
  | [] => some { base with fragment := none }
  | c :: rest =>
    if isSlash special c then
      match rest with
      | d :: more =>
        if isSlash special d then ofAuthority? base.scheme more
        else
          let tail := Tail.ofChars rest
          some (withTail { bare with path := .segments (walk [] (segmentsOf special tail.path)) } tail)
      | [] => some { bare with path := .segments [[]] }
    else if c = '#' then
      some { base with fragment := some (Text.Percent.encode keepsFragment rest) }
    else
      let tail := Tail.ofChars s
      let path := match tail.path with
        | [] => base.path
        | path => .segments (walk base.segmentList.dropLast (segmentsOf special path))
      some (withTail { bare with path := path } tail)

/-- What a reference means at a URL. -/
def join? (base : Url) (reference : String) : Option Url :=
  let s := tidy reference.toList
  match splitScheme? s with
  | some (scheme, rest) =>
    if scheme = base.scheme ∧ isSpecial scheme ∧ !(rest.head?.any (isSlash true)) then
      relative? base rest
    else ofScheme? scheme rest
  | none => relative? base s

/-! ## Writing -/

def pathText : Path → List Char
  | .segments l => l.flatMap ('/' :: ·)
  | .opaqueText s => s

/-- Path and query, as a request names them. -/
def target (u : Url) : List Char :=
  pathText u.path ++ (u.query.map ('?' :: ·)).getD []

/-- Whether the URL names a host. -/
def hasHost (u : Url) : Bool := u.host.any (· ≠ [])

/-- The schemes that requests can be sent by. -/
def isWeb (u : Url) : Bool := u.scheme == "http".toList || u.scheme == "https".toList

/-- The host with its port, after two slashes. -/
def authorityText (u : Url) : List Char :=
  match u.host with
  | none => []
  | some host =>
    let user := match u.userInfo with
      | none => []
      | some (user, []) => user ++ ['@']
      | some (user, password) => user ++ ':' :: password ++ ['@']
    ['/', '/'] ++ user ++ host ++ (u.port.map (fun n => ':' :: Nat.toDigits 10 n)).getD []

/-- The URL as text. -/
def text (u : Url) : String :=
  let guard : List Char := match u.host, u.path with
    | none, .segments ([] :: _ :: _) => ['/', '.']
    | _, _ => []
  String.ofList (u.scheme ++ ':' :: u.authorityText ++ guard ++ u.target
    ++ (u.fragment.map ('#' :: ·)).getD [])

end Url

end CloudGrant.Http
