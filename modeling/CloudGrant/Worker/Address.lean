import CloudGrant.Naming
import CloudGrant.Text.Percent

/-!
# Addresses to listen at

A socket address is an IP address with a port: `1.2.3.4:80`, or `[::1]:80` with the address in
brackets. An IPv6 address has eight groups of hexadecimal digits, of which two colons may stand for a
run of zeros, and the last two may be written as an IPv4 address.
-/

namespace CloudGrant.Worker.Address

open Naming (segments)

/-- The number that decimal digits stand for, up to a limit. -/
def decimal? (limit : Nat) (s : List Char) : Option Nat :=
  if s = [] ∨ !s.all Char.isDigit then none
  else
    let n := s.foldl (fun n c => n * 10 + (c.toNat - 48)) 0
    if n ≤ limit then some n else none

/-- A part of an IPv4 address: a byte without superfluous zeros. -/
def isByte (s : List Char) : Bool :=
  (decimal? 255 s).isSome && (s.length == 1 || s.head? ≠ some '0')

def isIpv4 (s : List Char) : Bool :=
  let parts := segments '.' s
  parts.length == 4 && parts.all isByte

/-- A group of an IPv6 address. -/
def isGroup (s : List Char) : Bool :=
  s ≠ [] && s.length ≤ 4 && s.all (fun c => (Text.Percent.value? c).isSome)

/-- How many groups a text between colons has; only the end of an address may be an IPv4 address. -/
def groups? (atEnd : Bool) (s : List Char) : Option Nat :=
  if s = [] then some 0
  else
    let parts := segments ':' s
    match parts.getLast? with
    | none => none
    | some last =>
      if parts.all isGroup then some parts.length
      else if atEnd && parts.dropLast.all isGroup && isIpv4 last then some (parts.length + 1)
      else none

/-- What stands before and after the first two colons. -/
def splitGap : List Char → Option (List Char × List Char)
  | ':' :: ':' :: rest => some ([], rest)
  | [] => none
  | c :: rest => (splitGap rest).map fun p => (c :: p.1, p.2)

def isIpv6 (s : List Char) : Bool :=
  match splitGap s with
  | none => groups? true s == some 8
  | some (front, back) =>
    match groups? false front, groups? true back with
    | some m, some n => m + n ≤ 7
    | _, _ => false

def isPort (s : List Char) : Bool := (decimal? 65535 s).isSome

/-- Whether a text between brackets is an IPv6 address, perhaps with a zone. -/
def isBracketed (s : List Char) : Bool :=
  match s.dropWhile (· ≠ '%') with
  | [] => isIpv6 s
  | _ :: zone => isIpv6 (s.takeWhile (· ≠ '%')) && (decimal? (0xFFFFFFFF) zone).isSome

/-- Whether a text is a socket address. -/
def isSocket (s : String) : Bool :=
  match s.toList with
  | '[' :: rest =>
    match rest.dropWhile (· ≠ ']') with
    | ']' :: ':' :: port => isBracketed (rest.takeWhile (· ≠ ']')) && isPort port
    | _ => false
  | l =>
    match l.dropWhile (· ≠ ':') with
    | _ :: port => isIpv4 (l.takeWhile (· ≠ ':')) && isPort port
    | [] => false

/-- Whether a socket address is one of the machine itself, at which anyone can listen. -/
def isLocal (s : String) : Bool :=
  ["127.", "0.0.0.0:", "[::]:", "[::1]:"].any fun p => p.toList.isPrefixOf s.toList

end CloudGrant.Worker.Address
