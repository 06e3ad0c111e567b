import CallChain.Text.Split
import CallChain.Url.Domain
import CallChain.Url.Percent

/-!
# Hosts

A host is a name, an IPv4 address or an IPv6 address.  In the schemes of the web a name that ends in a
number is an IPv4 address or nothing, and any other is a domain name; in every other scheme a name is
kept as it is written.  An IPv6 address stands in brackets.
-/

set_option autoImplicit false

namespace CallChain

/-- Why a text is no URL. -/
inductive UrlError where
  /-- It has no scheme. -/
  | relative
  /-- There is no host where one is needed. -/
  | emptyHost
  /-- The port is no number up to 65535. -/
  | badPort
  /-- The host ends in a number and is no IPv4 address. -/
  | badIpv4
  /-- The host is bracketed and is no IPv6 address. -/
  | badIpv6
  /-- The host cannot be a domain name. -/
  | badDomain
  /-- The host holds a character that no host may hold. -/
  | badHostCharacter
  deriving DecidableEq, Repr

namespace UrlError

def message : UrlError → String
  | .relative => "relative URL without a base"
  | .emptyHost => "empty host"
  | .badPort => "invalid port number"
  | .badIpv4 => "invalid IPv4 address"
  | .badIpv6 => "invalid IPv6 address"
  | .badDomain => "invalid international domain name"
  | .badHostCharacter => "invalid domain character"

end UrlError

/-- The host of a URL. -/
inductive Host where
  /-- A name, possibly empty. -/
  | name (s : String)
  /-- An IPv4 address as one number. -/
  | ipv4 (address : Nat)
  /-- An IPv6 address as eight numbers below 65536. -/
  | ipv6 (pieces : List Nat)
  deriving DecidableEq, Repr

/-- The value of a digit in a base up to sixteen. -/
def digitValue? (base : Nat) (c : Char) : Option Nat :=
  match (if c.toNat < 0x80 then Bytes.hexValue? (UInt8.ofNat c.toNat) else none) with
  | some v => if v < base then some v else none
  | none => none

namespace Ipv4

/-- The number that digits write in a base, if they are all digits. -/
def digits? (base : Nat) : Nat → List Char → Option Nat
  | n, [] => some n
  | n, c :: r =>
    match digitValue? base c with
    | some v => digits? base (base * n + v) r
    | none => none

/-- One number of an address: hexadecimal after `0x`, octal after `0`, decimal otherwise. -/
def part? : List Char → Option Nat
  | [] => none
  | '0' :: 'x' :: r => digits? 16 0 r
  | '0' :: 'X' :: r => digits? 16 0 r
  | '0' :: c :: r => digits? 8 0 (c :: r)
  | s => digits? 10 0 s

/-- The parts of a name, the empty one after a final point left out. -/
def parts (s : List Char) : List (List Char) :=
  let all := Text.splitAll '.' s
  if all.length > 1 ∧ all.getLast? = some [] then all.dropLast else all

/-- Whether the last part of a name is a number. -/
def endsInNumber (s : List Char) : Bool :=
  match (parts s).getLast? with
  | some last => (!last.isEmpty && last.all Char.isDigit) || (part? last).isSome
  | none => false

/-- The address of numbers: each but the last is one byte, and the last fills what is left. -/
def combine? (numbers : List Nat) : Option Nat :=
  match numbers.reverse with
  | [] => none
  | last :: front =>
    if 4 < numbers.length then none
    else if Nat.pow 256 (4 - front.length) ≤ last then none
    else if front.any (255 < ·) then none
    else some (front.reverse.zipIdx.foldl (fun n x => n + x.1 * Nat.pow 256 (3 - x.2)) last)

def parse? (s : List Char) : Option Nat := do combine? (← (parts s).mapM part?)

def render (address : Nat) : String :=
  Text.joinWith "." ([3, 2, 1, 0].map fun i => toString (address / Nat.pow 256 i % 256))

end Ipv4

namespace Ipv6

/-- The bytes of an address written as four decimal numbers without leading zeros. -/
def dotted? (s : List Char) : Option (List Nat) :=
  let pieces := Text.splitAll '.' s
  if pieces.length ≠ 4 then none
  else pieces.mapM fun p =>
    match p with
    | [] => none
    | '0' :: _ :: _ => none
    | _ =>
      match Ipv4.digits? 10 0 p with
      | some n => if n ≤ 255 then some n else none
      | none => none

/-- What was read of an address: the pieces, and how many of them stand before the gap. -/
structure Reading where
  pieces : List Nat
  gap : Option Nat

/-- Reads pieces up to the end of an address.  A gap stands for one zero at least. -/
def readPieces (pieces : List Nat) (gap : Option Nat) (s : List Char) : Option Reading :=
  match s with
  | [] => some ⟨pieces, gap⟩
  | c :: r =>
    if 8 ≤ pieces.length + (if gap.isSome then 1 else 0) then none
    else if c = ':' then
      if gap.isSome then none else readPieces pieces (some pieces.length) r
    else
      let taken := ((c :: r).take 4).takeWhile fun x => (digitValue? 16 x).isSome
      match Ipv4.digits? 16 0 taken, (c :: r).drop taken.length with
      | none, _ => none
      | some n, [] => if taken.isEmpty then none else some ⟨pieces ++ [n], gap⟩
      | some n, ':' :: rest =>
        if taken.isEmpty || rest.isEmpty then none
        else if _h : rest.length < (c :: r).length then readPieces (pieces ++ [n]) gap rest
        else none
      | some _, '.' :: _ =>
        if 6 < pieces.length + (if gap.isSome then 1 else 0) then none
        else
          match dotted? (c :: r) with
          | some [a, b, x, y] => some ⟨pieces ++ [256 * a + b, 256 * x + y], gap⟩
          | _ => none
      | some _, _ => none
termination_by s.length
decreasing_by
  · simp
  · exact _h

/-- The eight pieces of an address as it was read, the gap filled with zeros. -/
def Reading.fill? (r : Reading) : Option (List Nat) :=
  match r.gap with
  | none => if r.pieces.length = 8 then some r.pieces else none
  | some n =>
    if r.pieces.length ≤ 7 then
      some (r.pieces.take n ++ List.replicate (8 - r.pieces.length) 0 ++ r.pieces.drop n)
    else none

/-- The address that a text without brackets writes. -/
def parse? (s : List Char) : Option (List Nat) :=
  match s with
  | [] => none
  | [_] => none
  | ':' :: ':' :: r => (readPieces [] (some 0) r).bind Reading.fill?
  | ':' :: _ => none
  | _ => (readPieces [] none s).bind Reading.fill?

/-- The length of the run of zeros that a list starts with. -/
def zeroRun (pieces : List Nat) : Nat := (pieces.takeWhile (· == 0)).length

/-- The place and length of the first of the longest runs of zeros. -/
def longestZeros (pieces : List Nat) : Nat × Nat :=
  (List.range pieces.length).foldl
    (fun best i =>
      let n := zeroRun (pieces.drop i)
      if best.2 < n then (i, n) else best) (0, 0)

def hexText (n : Nat) : String := String.ofList (Nat.toDigits 16 n)

/-- An address with the first of its longest runs of two zeros or more left out. -/
def render (pieces : List Nat) : String :=
  let write (l : List Nat) := Text.joinWith ":" (l.map hexText)
  let (place, length) := longestZeros pieces
  if length < 2 then write pieces
  else write (pieces.take place) ++ "::" ++ write (pieces.drop (place + length))

end Ipv6

namespace Host

def render : Host → String
  | .name s => s
  | .ipv4 a => Ipv4.render a
  | .ipv6 p => "[" ++ Ipv6.render p ++ "]"

/-- The characters that no host may hold. -/
def isForbidden (c : Char) : Bool := "\x00\t\n\r #/:<>?@[\\]^|".toList.contains c

/-- The host in brackets, if a text starts with one. -/
def bracketed? : List Char → Option (Except UrlError Host)
  | '[' :: r =>
    if r.getLast? = some ']' then
      match Ipv6.parse? r.dropLast with
      | some pieces => some (.ok (.ipv6 pieces))
      | none => some (.error .badIpv6)
    else some (.error .badIpv6)
  | _ => none

/-- The host of a scheme that is not of the web. -/
def ofText (s : List Char) : Except UrlError Host :=
  match bracketed? s with
  | some host => host
  | none =>
    if s.any isForbidden then .error .badHostCharacter
    else .ok (.name (Percent.encode Percent.control s))

/-- The host of a scheme of the web. -/
def ofWebText (s : List Char) : Except UrlError Host :=
  match bracketed? s with
  | some host => host
  | none =>
    match (Bytes.text? (Percent.decode (Bytes.ofText (String.ofList s)))).bind Domain.ofText? with
    | none => .error .badDomain
    | some domain =>
      if domain = "" then .error .emptyHost
      else if Ipv4.endsInNumber domain.toList then
        match Ipv4.parse? domain.toList with
        | some a => .ok (.ipv4 a)
        | none => .error .badIpv4
      else .ok (.name domain)

end Host

end CallChain
