import CourseReview.Url.Domain

/-!
# Hosts

The host of a URL is a domain name, an IPv4 or an IPv6 address, or, where the scheme is not a
special one, a name taken as it is.
-/

namespace CourseReview.Url

open Text (isHexDigit isOctalDigit numberOf splitAt)

/-- The host of a URL. -/
inductive Host where
  | name (text : String)
  | ipv4 (address : Nat)
  | ipv6 (pieces : List Nat)
deriving DecidableEq, Repr

/-! ## IPv4 -/

/-- The number that a part of an IPv4 address writes: octal after `0`, hexadecimal after `0x`,
decimal otherwise.  A bare `0x` writes zero. -/
def ipv4Number? (part : List Char) : Option Nat :=
  let based (base : Nat) (isDigit : Char → Bool) (cs : List Char) : Option Nat :=
    if cs.all isDigit then some (numberOf base cs) else none
  match part with
  | [] => none
  | '0' :: 'x' :: rest => based 16 isHexDigit rest
  | '0' :: 'X' :: rest => based 16 isHexDigit rest
  | '0' :: c :: rest => based 8 isOctalDigit (c :: rest)
  | cs => based 10 Char.isDigit cs

/-- Whether the last part of a name makes it an IPv4 address, well-formed or not. -/
def endsInNumber (name : List Char) : Bool :=
  let isNumber (part : List Char) : Bool :=
    (!part.isEmpty && part.all Char.isDigit) || (ipv4Number? part).isSome
  match (splitAt '.' name).reverse with
  | [] :: part :: _ => isNumber part
  | [] :: [] => false
  | part :: _ => isNumber part
  | [] => false

/-- Reads an IPv4 address: up to four numbers, the last of which fills all that is left. -/
def parseIpv4 (name : List Char) : Except UrlError Nat :=
  let parts := splitAt '.' name
  let parts := if parts.getLast? = some [] then parts.dropLast else parts
  if 4 < parts.length then .error .invalidIpv4
  else
    match parts.mapM ipv4Number? with
    | none => .error .invalidIpv4
    | some numbers =>
      match numbers.reverse with
      | [] => .error .invalidIpv4
      | last :: before =>
        let limit := Nat.pow 256 (4 - before.length)
        if limit ≤ last || before.any (255 < ·) then .error .invalidIpv4
        else
          let heads := before.reverse.foldl (fun n x => n * 256 + x) 0
          .ok (heads * limit + last)

/-- The four numbers of an IPv4 address. -/
def ipv4Text (address : Nat) : String :=
  let byte (i : Nat) := toString (address / Nat.pow 256 i % 256)
  String.intercalate "." [byte 3, byte 2, byte 1, byte 0]

/-! ## IPv6 -/

/-- Pieces of an address read so far: those before the gap, and those after it if there is one.
The gap stands for at least one piece, which is counted before it. -/
structure Ipv6State where
  front : List Nat := []
  back : Option (List Nat) := none

namespace Ipv6State

/-- The number of pieces read. -/
def count (s : Ipv6State) : Nat :=
  s.front.length + (s.back.getD []).length

/-- One more piece. -/
def push (s : Ipv6State) (piece : Nat) : Ipv6State :=
  match s.back with
  | none => { s with front := s.front ++ [piece] }
  | some back => { s with back := some (back ++ [piece]) }

/-- The gap, unless there is one already. -/
def gap? (s : Ipv6State) : Option Ipv6State :=
  match s.back with
  | none => some { front := s.front ++ [0], back := some [] }
  | some _ => none

/-- The eight pieces of the address, if that is what was read. -/
def pieces? (s : Ipv6State) : Option (List Nat) :=
  match s.back with
  | none => if s.front.length = 8 then some s.front else none
  | some back =>
    if 8 < s.count then none
    else some (s.front ++ List.replicate (8 - s.count) 0 ++ back)

end Ipv6State

/-- One number of the IPv4 form at the end of an IPv6 address. -/
def embeddedNumber? (part : List Char) : Option Nat :=
  if part.isEmpty || !part.all Char.isDigit || (part.head? == some '0' && part.length != 1)
      || 3 < part.length then none
  else
    let n := numberOf 10 part
    if 255 < n then none else some n

/-- The IPv4 form at the end of an IPv6 address, as two pieces. -/
def embeddedIpv4? (cs : List Char) : Option (Nat × Nat) :=
  match (splitAt '.' cs).mapM embeddedNumber? with
  | some [a, b, c, d] => some (a * 256 + b, c * 256 + d)
  | _ => none

/-- Reads the pieces of an address. -/
def readIpv6 : (fuel : Nat) → Ipv6State → List Char → Option Ipv6State
  | _, s, [] => some s
  | 0, _, _ => none
  | fuel + 1, s, cs =>
    if s.count = 8 then none
    else
      match cs with
      | ':' :: rest => s.gap?.bind (readIpv6 fuel · rest)
      | cs =>
        let digits := (cs.take 4).takeWhile isHexDigit
        let value := numberOf 16 digits
        match cs.drop digits.length with
        | [] => some (s.push value)
        | '.' :: _ =>
          if digits.isEmpty || 6 < s.count then none
          else (embeddedIpv4? cs).map fun (high, low) => (s.push high).push low
        | ':' :: rest => if rest.isEmpty then none else readIpv6 fuel (s.push value) rest
        | _ => none

/-- Reads an IPv6 address. -/
def parseIpv6 (cs : List Char) : Except UrlError (List Nat) :=
  let read := match cs with
    | ':' :: ':' :: rest => readIpv6 (cs.length + 1) { front := [0], back := some [] } rest
    | ':' :: _ => none
    | [] => none
    | [_] => none
    | cs => readIpv6 (cs.length + 1) {} cs
  match read.bind Ipv6State.pieces? with
  | some pieces => .ok pieces
  | none => .error .invalidIpv6

/-- The first of the longest runs of zeros: where it begins and how long it is. -/
def longestZeros : (start : Nat) → List Nat → Nat × Nat
  | _, [] => (0, 0)
  | start, p :: rest =>
    let here := ((p :: rest).takeWhile (· == 0)).length
    let later := longestZeros (start + 1) rest
    if here = 0 || here < later.2 then later else (start, here)

/-- An IPv6 address between brackets, its longest run of at least two zeros shortened. -/
def ipv6Text (pieces : List Nat) : String :=
  let hex (ps : List Nat) : String :=
    String.intercalate ":" (ps.map fun p => String.ofList (Nat.toDigits 16 p))
  let (start, length) := longestZeros 0 pieces
  let body :=
    if length < 2 then hex pieces
    else hex (pieces.take start) ++ "::" ++ hex (pieces.drop (start + length))
  "[" ++ body ++ "]"

/-! ## Reading and writing hosts -/

/-- The host as it stands in a URL. -/
def Host.text : Host → String
  | .name text => text
  | .ipv4 address => ipv4Text address
  | .ipv6 pieces => ipv6Text pieces

/-- Reads what stands between brackets. -/
def parseBracketed (cs : List Char) : Except UrlError Host :=
  match cs.reverse with
  | ']' :: inside => (parseIpv6 inside.reverse).map .ipv6
  | _ => .error .invalidIpv6

/-- Reads the host of a special scheme. -/
def parseHost (cs : List Char) : Except UrlError Host :=
  match cs with
  | '[' :: rest => parseBracketed rest
  | cs =>
    match percentDecode? cs with
    | none => .error .invalidDomain
    | some decoded => do
      let name ← domainToAscii decoded
      if name.isEmpty then .error .emptyHost
      else if endsInNumber name then (parseIpv4 name).map .ipv4
      else .ok (.name (String.ofList name))

/-- The characters that may not stand in the host of a scheme that is not special. -/
def isForbiddenInHost (c : Char) : Bool :=
  [Char.ofNat 0, '\t', '\n', '\r', ' ', '#', '/', ':', '<', '>', '?', '@', '[', '\\', ']', '^',
    '|'].contains c

/-- Reads the host of a scheme that is not special, as it is but for encoding. -/
def parsePlainHost (cs : List Char) : Except UrlError Host :=
  match cs with
  | '[' :: rest => parseBracketed rest
  | cs =>
    if cs.any isForbiddenInHost then .error .invalidDomainCharacter
    else .ok (.name (percentEncode isControl cs))

end CourseReview.Url
