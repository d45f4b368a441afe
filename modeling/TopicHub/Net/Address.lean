/-
  Net/Address.lean --- host names and the addresses they stand for.

  A host is resolved the way the system resolver does it for a program with
  no name service within reach:

  * `[...]` holds an IPv6 address, as in a socket address written with its
    port;
  * numbers and dots are an IPv4 address in the classic notation: one to four
    parts, each decimal, octal after a leading `0` or hexadecimal after `0x`,
    the last part filling the bytes that are left (`127.1` is 127.0.0.1 and
    `123` is 0.0.0.123); each part but the last is at most 255, and a number
    that grows past 32 bits wraps around;
  * eight groups of at most four hex digits are an IPv6 address, with one
    `::` standing for a run of zero groups and a dotted-decimal IPv4 address
    allowed in place of the last two groups;
  * `localhost`, in any case, is the loopback address;
  * any other name needs a name service, and resolves to nothing.
-/

set_option autoImplicit false

namespace TopicHub.Net

/-- An internet address. -/
inductive Address where
  /-- an IPv4 address, as a 32-bit number -/
  | v4 (value : Nat)
  /-- an IPv6 address, as its eight 16-bit groups -/
  | v6 (groups : List Nat)
  deriving DecidableEq, Repr

/-- The value of a hexadecimal digit. -/
def hexDigit? (c : Char) : Option Nat :=
  if '0' ≤ c ∧ c ≤ '9' then some (c.toNat - '0'.toNat)
  else if 'a' ≤ c ∧ c ≤ 'f' then some (c.toNat - 'a'.toNat + 10)
  else if 'A' ≤ c ∧ c ≤ 'F' then some (c.toNat - 'A'.toNat + 10)
  else none

/-- Reads the digits of a number in `base` after the value `acc`, wrapping at
32 bits; an `8` or `9` in an octal number spoils it. -/
def classicDigits (base : Nat) : Nat → List Char → Option (Nat × List Char)
  | acc, [] => some (acc, [])
  | acc, c :: rest =>
    if c.isDigit then
      if base = 8 ∧ (c = '8' ∨ c = '9') then none
      else classicDigits base ((acc * base + (c.toNat - '0'.toNat)) % Nat.pow 2 32) rest
    else if base = 16 then
      match hexDigit? c with
      | some d => classicDigits base ((acc * 16 + d) % Nat.pow 2 32) rest
      | none => some (acc, c :: rest)
    else some (acc, c :: rest)

/-- Reads one number of the classic notation: hexadecimal after `0x`, octal
after another leading `0`, decimal otherwise. -/
def classicNumber : List Char → Option (Nat × List Char)
  | '0' :: 'x' :: rest => classicDigits 16 0 rest
  | '0' :: 'X' :: rest => classicDigits 16 0 rest
  | '0' :: rest => classicDigits 8 0 rest
  | c :: rest => if c.isDigit then classicDigits 10 (c.toNat - '0'.toNat) rest else none
  | [] => none

/-- The IPv4 address a text of the classic notation names. -/
def classicIpv4? (host : String) : Option Nat :=
  let whole := fun (p : String) => match classicNumber p.toList with
    | some (v, []) => some v
    | _ => none
  match (host.splitOn ".").mapM whole with
  | none => none
  | some values =>
    match values.reverse with
    | [] => none
    | last :: before =>
      let bytes := before.reverse
      let room := 8 * (4 - bytes.length)
      if bytes.length > 3 ∨ bytes.any (· > 255) ∨ last ≥ Nat.pow 2 room then none
      else some (bytes.foldl (fun acc b => acc * 256 + b) 0 * Nat.pow 2 room + last)

/-- The four bytes of a strict dotted-decimal IPv4 address: four parts of one
to three digits, none above 255 and none with a leading zero. -/
def dottedQuad? (s : List Char) : Option (List Nat) :=
  let part := fun (p : List Char) =>
    if p.isEmpty ∨ p.length > 3 ∨ !p.all Char.isDigit ∨ (p.length > 1 ∧ p.head? = some '0') then none
    else
      let v := p.foldl (fun acc c => acc * 10 + (c.toNat - '0'.toNat)) 0
      if v > 255 then none else some v
  let parts := (String.ofList s).splitOn "."
  if parts.length = 4 then parts.mapM (fun p => part p.toList) else none

/-- What has been read of an IPv6 address. -/
structure Ipv6Scan where
  /-- the groups read, the last first -/
  groups : List Nat := []
  /-- how many groups stood before the `::`, once it is read -/
  gap : Option Nat := none
  /-- the value of the group being read -/
  value : Nat := 0
  /-- how many digits of it were read -/
  digits : Nat := 0
  /-- the text from the start of the group being read -/
  token : List Char := []

/-- The eight groups of a finished scan, the `::` filled with zero groups. -/
def Ipv6Scan.finish (st : Ipv6Scan) : Option (List Nat) :=
  let groups := if st.digits > 0 then st.value :: st.groups else st.groups
  if groups.length > 8 then none
  else
    let groups := groups.reverse
    match st.gap with
    | none => if groups.length = 8 then some groups else none
    | some k =>
      if groups.length = 8 then none
      else some (groups.take k ++ List.replicate (8 - groups.length) 0 ++ groups.drop k)

/-- Reads the rest of an IPv6 address. -/
def ipv6Groups : List Char → Ipv6Scan → Option (List Nat)
  | [], st => st.finish
  | c :: rest, st =>
    match hexDigit? c with
    | some d =>
      if st.digits = 4 then none
      else ipv6Groups rest { st with value := st.value * 16 + d, digits := st.digits + 1 }
    | none =>
      if c = ':' then
        if st.digits = 0 then
          if st.gap.isSome then none
          else ipv6Groups rest { st with gap := some st.groups.length, token := rest }
        else if rest.isEmpty ∨ st.groups.length ≥ 8 then none
        else ipv6Groups rest { st with groups := st.value :: st.groups, value := 0, digits := 0, token := rest }
      else if c = '.' ∧ st.groups.length ≤ 6 then
        match dottedQuad? st.token with
        | some [a, b, e, f] => { st with groups := (e * 256 + f) :: (a * 256 + b) :: st.groups, digits := 0 }.finish
        | _ => none
      else none

/-- The groups of an IPv6 address written as text. -/
def ipv6? (host : String) : Option (List Nat) :=
  match host.toList with
  | [] => none
  | ':' :: rest =>
    match rest with
    | ':' :: _ => ipv6Groups rest { token := rest }
    | _ => none
  | s => ipv6Groups s { token := s }

/-- The loopback address in IPv4. -/
def loopbackV4 : Address := .v4 0x7f000001

/-- The loopback address in IPv6. -/
def loopbackV6 : Address := .v6 [0, 0, 0, 0, 0, 0, 0, 1]

/-- The addresses a host stands for, or nothing when only a name service
could tell. -/
def resolve? (host : String) : Option (List Address) :=
  if host.startsWith "[" ∧ host.endsWith "]" then
    (ipv6? (String.ofList ((host.toList.drop 1).dropLast))).map fun g => [.v6 g]
  else
    match classicIpv4? host with
    | some n => some [.v4 n]
    | none =>
      match ipv6? host with
      | some g => some [.v6 g]
      | none => if host.toList.map Char.toLower = "localhost".toList then some [loopbackV4, loopbackV6] else none

end TopicHub.Net
