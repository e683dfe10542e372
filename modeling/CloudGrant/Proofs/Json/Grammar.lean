import CloudGrant.Json.Lexical
import CloudGrant.Json.Value

/-!
# The grammar of JSON texts

Which bytes stand for what, said without any reader. `…Form v s` means that `s` is one way to write
`v`: blanks may stand between all tokens, and a character may be written as itself or as any of its
escapes. `Valid` is the grammar alone, for values that nobody looks at: their texts need not form
characters and their numbers may be of any size.

A list and an object are both a `Series` of parts with commas between them. What the parts are is a
parameter, so one induction over a series serves the items of a list and the members of an object,
whether they are kept or passed over.
-/

namespace CloudGrant.Json

open Text.Utf8 (encodeChar)

def Blanks (s : List UInt8) : Prop := ∀ b ∈ s, isBlank b = true

theorem blanks_nil : Blanks [] := fun _ h => nomatch h

/-! ## Texts -/

/-- A byte that stands for itself between quotes. -/
def IsPlain (b : UInt8) : Prop := b ≠ 0x22 ∧ b ≠ 0x5C ∧ ¬ b < 0x20

/-- The letters that stand for a character after a backslash. -/
def namedEscapes : List (UInt8 × Char) :=
  [ (0x22, '"'), (0x5C, '\\'), (0x2F, '/'), (0x62, '\x08'), (0x66, '\x0c'), (0x6E, '\n')
  , (0x72, '\r'), (0x74, '\t') ]

/-- A hexadecimal digit, in lower or upper case. -/
def HexForm (k : Nat) (b : UInt8) : Prop :=
  k < 16 ∧ (b = UInt8.ofNat (hexDigit k).toNat ∨ b = UInt8.ofNat (hexDigit k).toUpper.toNat)

/-- Four hexadecimal digits. -/
inductive UnitForm : Nat → List UInt8 → Prop where
  | intro {i j k l : Nat} {a b c d : UInt8} (ha : HexForm i a) (hb : HexForm j b)
      (hc : HexForm k c) (hd : HexForm l d) :
      UnitForm (((i * 16 + j) * 16 + k) * 16 + l) [a, b, c, d]

/-- The ways to write a character between quotes. A character above U+FFFF is escaped as two halves. -/
inductive CharForm : Char → List UInt8 → Prop where
  | plain {c : Char} (hcontrol : 0x20 ≤ c.toNat) (hquote : c ≠ '"') (hback : c ≠ '\\') :
      CharForm c (encodeChar c)
  | named {b : UInt8} {c : Char} (h : (b, c) ∈ namedEscapes) : CharForm c [0x5C, b]
  | unit {c : Char} {u : List UInt8} (h : UnitForm c.toNat u) : CharForm c (0x5C :: 0x75 :: u)
  | halves {c : Char} {high low : List UInt8} (habove : 0x10000 ≤ c.toNat)
      (hhigh : UnitForm (0xD800 + (c.toNat - 0x10000) / 0x400) high)
      (hlow : UnitForm (0xDC00 + (c.toNat - 0x10000) % 0x400) low) :
      CharForm c (0x5C :: 0x75 :: (high ++ 0x5C :: 0x75 :: low))

/-- The ways to write characters between quotes. -/
inductive CharsForm : List Char → List UInt8 → Prop where
  | nil : CharsForm [] []
  | cons {c : Char} {cs : List Char} {s t : List UInt8} (head : CharForm c s)
      (tail : CharsForm cs t) : CharsForm (c :: cs) (s ++ t)

/-- A text up to its closing quote. -/
def KeyForm (t : String) (s : List UInt8) : Prop := CharsForm t.toList s

/-- A text in quotes. -/
inductive TextForm : String → List UInt8 → Prop where
  | intro {t : String} {s : List UInt8} (h : KeyForm t s) : TextForm t (0x22 :: (s ++ [0x22]))

/-- What may stand between quotes, whether it forms characters or not. -/
inductive Quotable : List UInt8 → Prop where
  | nil : Quotable []
  | plain {b : UInt8} {s : List UInt8} (h : IsPlain b) (tail : Quotable s) : Quotable (b :: s)
  | named {b : UInt8} {c : Char} {s : List UInt8} (h : (b, c) ∈ namedEscapes) (tail : Quotable s) :
      Quotable (0x5C :: b :: s)
  | unit {n : Nat} {u s : List UInt8} (h : UnitForm n u) (tail : Quotable s) :
      Quotable (0x5C :: 0x75 :: (u ++ s))

/-! ## Numbers -/

/-- One digit at least. -/
def Digits (s : List UInt8) : Prop := s ≠ [] ∧ ∀ b ∈ s, isDigit b = true

/-- The digits before the point: a leading zero stands alone. -/
inductive WholeForm : List UInt8 → Prop where
  | zero : WholeForm [0x30]
  | digits {s : List UInt8} (h : Digits s) (hzero : s.head? ≠ some 0x30) : WholeForm s

/-- A point and digits, or nothing. -/
inductive FractionForm : List UInt8 → Prop where
  | absent : FractionForm []
  | present {s : List UInt8} (h : Digits s) : FractionForm (0x2E :: s)

/-- An exponent with its letter and sign, or nothing. -/
inductive ExponentForm : List UInt8 → Prop where
  | absent : ExponentForm []
  | present {e : UInt8} {sign s : List UInt8} (he : e = 0x65 ∨ e = 0x45)
      (hsign : sign = [] ∨ sign = [0x2B] ∨ sign = [0x2D]) (h : Digits s) :
      ExponentForm (e :: (sign ++ s))

/-- A number after its sign. -/
inductive NumeralForm : List UInt8 → Prop where
  | intro {whole fraction exponent : List UInt8} (hwhole : WholeForm whole)
      (hfraction : FractionForm fraction) (hexponent : ExponentForm exponent) :
      NumeralForm (whole ++ (fraction ++ exponent))

/-- An integer without point and exponent: there is one way to write it. -/
def IntegerForm (n : Int) (s : List UInt8) : Prop := s = Text.Utf8.encode (toString n)

/-! ## Lists and objects -/

section Series

variable {α κ : Type}

/-- What is left of an open list or object, to the byte that closes it. The flag says whether a part
stands before, so that a comma comes next. -/
inductive Series (close : UInt8) (P : α → List UInt8 → Prop) :
    Bool → List α → List UInt8 → Prop where
  | close {started : Bool} {w : List UInt8} (hw : Blanks w) :
      Series close P started [] (w ++ [close])
  | first {w s t : List UInt8} {a : α} {as : List α} (hw : Blanks w) (head : P a s)
      (tail : Series close P true as t) : Series close P false (a :: as) (w ++ (s ++ t))
  | next {w w' s t : List UInt8} {a : α} {as : List α} (hw : Blanks w) (hw' : Blanks w')
      (head : P a s) (tail : Series close P true as t) :
      Series close P true (a :: as) (w ++ 0x2C :: (w' ++ (s ++ t)))

/-- A key in quotes, a colon and a value. -/
inductive MemberForm (K : κ → List UInt8 → Prop) (P : α → List UInt8 → Prop) :
    κ × α → List UInt8 → Prop where
  | intro {k : κ} {a : α} {key w w' s : List UInt8} (hkey : K k key) (hw : Blanks w)
      (hw' : Blanks w') (hvalue : P a s) :
      MemberForm K P (k, a) (0x22 :: (key ++ 0x22 :: (w ++ 0x3A :: (w' ++ s))))

/-- A list of items. -/
inductive ListForm (P : α → List UInt8 → Prop) : List α → List UInt8 → Prop where
  | intro {as : List α} {s : List UInt8} (h : Series 0x5D P false as s) :
      ListForm P as (0x5B :: s)

/-- An object of members in this order. -/
inductive ObjectForm (P : α → List UInt8 → Prop) : List (String × α) → List UInt8 → Prop where
  | intro {ms : List (String × α)} {s : List UInt8}
      (h : Series 0x7D (MemberForm KeyForm P) false ms s) : ObjectForm P ms (0x7B :: s)

/-- An object with the entries of a dictionary as members, in any order; of a repeated key the last
value counts. -/
inductive DictForm (P : α → List UInt8 → Prop) : Dict String α → List UInt8 → Prop where
  | intro {es : List (String × α)} {s : List UInt8} (h : ObjectForm P es s) :
      DictForm P (Dict.ofList es) s

end Series

/-- What comes behind a value: nothing, a blank, a comma or the end of a list or an object. -/
def Ends (s : List UInt8) : Prop :=
  ∀ b ∈ s.head?, isBlank b = true ∨ b = 0x2C ∨ b = 0x5D ∨ b = 0x7D

/-- Any JSON value. -/
inductive Valid : List UInt8 → Prop where
  | null : Valid (0x6E :: ull)
  | true : Valid (0x74 :: rue)
  | false : Valid (0x66 :: alse)
  | numeral {s : List UInt8} (h : NumeralForm s) : Valid s
  | negative {s : List UInt8} (h : NumeralForm s) : Valid (0x2D :: s)
  | text {s : List UInt8} (h : Quotable s) : Valid (0x22 :: (s ++ [0x22]))
  | list {items : List (List UInt8)} {s : List UInt8} (hitems : ∀ i ∈ items, Valid i)
      (h : Series 0x5D Eq .false items s) : Valid (0x5B :: s)
  | object {ms : List (List UInt8 × List UInt8)} {s : List UInt8}
      (hkeys : ∀ m ∈ ms, Quotable m.1) (hvalues : ∀ m ∈ ms, Valid m.2)
      (h : Series 0x7D (MemberForm Eq Eq) .false ms s) : Valid (0x7B :: s)

/-! ## Values of any shape -/

/-- The ways to write a value that holds no other. A number is written by its digits, and binary64 has
room for it. -/
inductive ScalarForm : Value → List UInt8 → Prop where
  | null : ScalarForm .null (0x6E :: ull)
  | true : ScalarForm (.bool .true) (0x74 :: rue)
  | false : ScalarForm (.bool .false) (0x66 :: alse)
  | numeral {s : List UInt8} {n : Numeral} {x : Number} (h : NumeralForm s)
      (hparts : Json.numeral .false s = .ok (n, [])) (hvalue : n.value = .ok x) :
      ScalarForm (.number x) s
  | negative {s : List UInt8} {n : Numeral} {x : Number} (h : NumeralForm s)
      (hparts : Json.numeral .true s = .ok (n, [])) (hvalue : n.value = .ok x) :
      ScalarForm (.number x) (0x2D :: s)
  | text {t : String} {s : List UInt8} (h : TextForm t s) : ScalarForm (.text t) s

/-- The ways to write a value whose items and members are written as `P` says; of a repeated key the
last value counts. -/
inductive NestedForm (P : Value → List UInt8 → Prop) : Value → List UInt8 → Prop where
  | scalar {v : Value} {s : List UInt8} (h : ScalarForm v s) : NestedForm P v s
  | list {vs : List Value} {s : List UInt8} (h : ListForm P vs s) : NestedForm P (.list vs) s
  | object {ms : List (String × Value)} {s : List UInt8} (h : ObjectForm P ms s) :
      NestedForm P (.ofMembers ms) s

/-- The ways to write a value with no more than so many containers inside each other. -/
def ValueForm : Nat → Value → List UInt8 → Prop
  | 0 => ScalarForm
  | depth + 1 => NestedForm (ValueForm depth)

/-- A whole document: what `P` says, with blanks around it. -/
inductive DocumentForm {α : Type} (P : α → List UInt8 → Prop) : α → List UInt8 → Prop where
  | intro {a : α} {w w' s : List UInt8} (hw : Blanks w) (hw' : Blanks w') (h : P a s) :
      DocumentForm P a (w ++ (s ++ w'))

end CloudGrant.Json
