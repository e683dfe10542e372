import CloudGrant.Text.Visible

/-!
# Quoted texts

A text as it appears inside a diagnostic: in double quotes, with quotes, backslashes and everything
that does not show itself written as an escape. `escape` says how one character is written,
`quote` how a text is.
-/

namespace CloudGrant.Text.Quoted

/-- Lower-case hexadecimal digits without leading zeros. -/
def hex (n : Nat) : List Char := Nat.toDigits 16 n

/-- One character inside quotes. -/
def escape (c : Char) : List Char :=
  if c = '\x00' then ['\\', '0']
  else if c = '\t' then ['\\', 't']
  else if c = '\n' then ['\\', 'n']
  else if c = '\r' then ['\\', 'r']
  else if c = '"' ∨ c = '\\' then ['\\', c]
  else if Visible.isVisible c then [c]
  else ['\\', 'u', '\x7b'] ++ hex c.toNat ++ ['\x7d']

/-- A text in quotes. -/
def quote (s : String) : String := String.ofList ('"' :: (s.toList.flatMap escape ++ ['"']))

end CloudGrant.Text.Quoted
