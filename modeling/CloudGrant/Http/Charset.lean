import CloudGrant.Http.Client
import CloudGrant.Text.Utf8

/-!
# Bodies as texts

The bytes of a body become a text by the byte order mark that they start with, and without one by the
charset that the content type names. A content type that names none means UTF-8.

A client reads texts by a `Reader`. Of the charsets in use, `Reader.common` knows the Unicode ones
and windows-1252, which also goes by the names of ASCII and Latin-1; a body in another one is read
as UTF-8.
-/

namespace CloudGrant.Http

/-! ## Charsets -/

/-- An encoding of texts. -/
inductive Charset where
  | utf8
  | utf16 (bigEndian : Bool)
  | windows1252
deriving DecidableEq

namespace Charset

/-- The units of two bytes, and whether a byte is left over. -/
def units (bigEndian : Bool) : List UInt8 → List Nat × Bool
  | [] => ([], false)
  | [_] => ([], true)
  | a :: b :: rest =>
    let (us, leftOver) := units bigEndian rest
    let unit := if bigEndian then a.toNat * 0x100 + b.toNat else b.toNat * 0x100 + a.toNat
    (unit :: us, leftOver)

def isLeading (u : Nat) : Bool := 0xD800 ≤ u && u < 0xDC00

def isTrailing (u : Nat) : Bool := 0xDC00 ≤ u && u < 0xE000

/-- The characters of some units. For a half of a pair without the other, and for what is incomplete
at the end, there is one U+FFFD. -/
def ofUnits (leftOver : Bool) : List Nat → List Char
  | [] => if leftOver then [Text.Utf8.replacement] else []
  | [u] =>
    if isLeading u then [Text.Utf8.replacement]
    else (if isTrailing u then Text.Utf8.replacement else Char.ofNat u) :: ofUnits leftOver []
  | u :: v :: rest =>
    if isLeading u then
      if isTrailing v then
        Char.ofNat (0x10000 + (u - 0xD800) * 0x400 + (v - 0xDC00)) :: ofUnits leftOver rest
      else Text.Utf8.replacement :: ofUnits leftOver (v :: rest)
    else (if isTrailing u then Text.Utf8.replacement else Char.ofNat u) ::
      ofUnits leftOver (v :: rest)

/-- What windows-1252 has in the place of the controls from 0x80 on. -/
def beyondAscii : List Nat :=
  [ 0x20AC, 0x81, 0x201A, 0x192, 0x201E, 0x2026, 0x2020, 0x2021
  , 0x2C6, 0x2030, 0x160, 0x2039, 0x152, 0x8D, 0x17D, 0x8F
  , 0x90, 0x2018, 0x2019, 0x201C, 0x201D, 0x2022, 0x2013, 0x2014
  , 0x2DC, 0x2122, 0x161, 0x203A, 0x153, 0x9D, 0x17E, 0x178 ]

/-- The text of some bytes; what is malformed becomes U+FFFD. -/
def decode : Charset → List UInt8 → String
  | utf8, bytes => Text.Utf8.decodeLossy bytes
  | utf16 bigEndian, bytes =>
    let (us, leftOver) := units bigEndian bytes
    String.ofList (ofUnits leftOver us)
  | windows1252, bytes =>
    String.ofList (bytes.map fun b =>
      Char.ofNat (if 0x80 ≤ b then beyondAscii.getD (b.toNat - 0x80) b.toNat else b.toNat))

/-- The charset of the byte order mark that some bytes start with, and the bytes after it. -/
def ofMark? : List UInt8 → Option (Charset × List UInt8)
  | 0xEF :: 0xBB :: 0xBF :: rest => some (utf8, rest)
  | 0xFE :: 0xFF :: rest => some (utf16 true, rest)
  | 0xFF :: 0xFE :: rest => some (utf16 false, rest)
  | _ => none

/-! ## Names -/

/-- The names of a charset, in lower case. -/
def names : Charset → List String
  | utf8 =>
    ["unicode-1-1-utf-8", "unicode11utf8", "unicode20utf8", "utf-8", "utf8", "x-unicode20utf8"]
  | utf16 false =>
    ["csunicode", "iso-10646-ucs-2", "ucs-2", "unicode", "unicodefeff", "utf-16", "utf-16le"]
  | utf16 true => ["unicodefffe", "utf-16be"]
  | windows1252 =>
    [ "ansi_x3.4-1968", "ascii", "cp1252", "cp819", "csisolatin1", "ibm819", "iso-8859-1"
    , "iso-ir-100", "iso8859-1", "iso88591", "iso_8859-1", "iso_8859-1:1987", "l1", "latin1"
    , "us-ascii", "windows-1252", "x-cp1252" ]

def all : List Charset := [utf8, utf16 false, utf16 true, windows1252]

/-- The charset of a name. -/
def ofName? (name : List Char) : Option Charset :=
  all.find? fun charset => charset.names.contains (String.ofList name).toLower

/-! ## Content types -/

/-- Drop the quotes around a text that stands in quotes. -/
def unquote : List Char → List Char
  | '"' :: s => s.takeWhile (· ≠ '"')
  | s => s

/-- The name and the value of a parameter. -/
def parameter (s : List Char) : List Char × List Char :=
  let name := s.takeWhile (· ≠ '=')
  let trim := Text.trimWhile (· == ' ')
  (trim name, unquote (trim (s.drop (name.length + 1))))

/-- The name of the charset in a content type, if it has one. -/
def nameIn? (contentType : String) : Option (List Char) :=
  (((Naming.segments ';' contentType.toList).drop 1).map parameter |>.find? fun p =>
    (String.ofList p.1).toLower == "charset").map Prod.snd

end Charset

/-! ## Readers -/

/-- How a body becomes a text, by the content type that goes with it. -/
abbrev Reader := (contentType : Option String) → List UInt8 → String

/-- The reader that knows the common charsets. -/
def Reader.common : Reader := fun contentType bytes =>
  match Charset.ofMark? bytes with
  | some (charset, rest) => charset.decode rest
  | none =>
    let named := (contentType.bind Charset.nameIn?).bind Charset.ofName?
    (named.getD .utf8).decode bytes

/-- The text of a body of a response. -/
def Response.textOf (r : Response) (reader : Reader) (body : List UInt8) : String :=
  reader (r.header? "content-type") body

end CloudGrant.Http
