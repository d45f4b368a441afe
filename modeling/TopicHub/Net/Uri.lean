/-
  Net/Uri.lean --- reading a URI the way an HTTP client library checks it.

  A URI is a path (starting with `/`), an authority alone, or a scheme, `://`,
  an authority and a path with an optional query.  The scheme is letters,
  digits, `+`, `-` and `.`; `http://` and `https://` are recognised in any
  case.  The authority runs to the first `/`, `?` or `#` and may hold only
  URI characters: a `%` only inside user information, at most one `:` after
  the host (an IPv6 host in brackets aside), and something after a `@`.  The
  path refuses blanks, `<`, `>`, `\`, `^` and `` ` `` and control characters,
  the query a few fewer; a fragment is dropped.
-/
import TopicHub.Text.Utf8

set_option autoImplicit false

open TopicHub.Text

namespace TopicHub.Net

/-- Why a text is no URI. -/
inductive UriFault where
  | invalidUriChar
  | invalidAuthority
  | invalidFormat
  | empty
  | tooLong
  | schemeTooLong
  deriving DecidableEq, Repr

/-- The text of a fault. -/
def UriFault.message : UriFault → String
  | .invalidUriChar => "invalid uri character"
  | .invalidAuthority => "invalid authority"
  | .invalidFormat => "invalid format"
  | .empty => "empty string"
  | .tooLong => "uri too long"
  | .schemeTooLong => "scheme too long"

/-- A URI split into its parts. -/
structure Uri where
  /-- none for a path or an authority alone -/
  scheme : Option String
  /-- empty when there is none -/
  authority : String
  pathAndQuery : String
  deriving DecidableEq, Repr

/-- A byte that may stand in a scheme. -/
def isSchemeByte (b : Nat) : Bool :=
  (0x30 ≤ b && b ≤ 0x39) || (0x41 ≤ b && b ≤ 0x5A) || (0x61 ≤ b && b ≤ 0x7A) ||
    b == 0x2B || b == 0x2D || b == 0x2E

/-- A byte that may stand in an authority, the delimiters included. -/
def isUriByte (b : Nat) : Bool :=
  b == 0x21 || (0x23 ≤ b && b ≤ 0x3B) && b != 0x25 || b == 0x3D || (0x3F ≤ b && b ≤ 0x5B) ||
    b == 0x5D || b == 0x5F || (0x61 ≤ b && b ≤ 0x7A) || b == 0x7E

/-- Text of ASCII bytes. -/
def asciiText (bs : List Nat) : String := String.ofList (bs.map Char.ofNat)

/-- Bytes in lower case (ASCII letters only). -/
def lowerBytes (bs : List Nat) : List Nat := bs.map fun b => if 0x41 ≤ b ∧ b ≤ 0x5A then b + 32 else b

/-- Where a scheme ends: `some n` when the first `n` bytes are a scheme followed
by `://`. -/
def schemeEnd (s : List Nat) : Except UriFault (Option Nat) :=
  if s.length ≥ 7 ∧ lowerBytes (s.take 7) = utf8Bytes "http://" then .ok (some 4)
  else if s.length ≥ 8 ∧ lowerBytes (s.take 8) = utf8Bytes "https://" then .ok (some 5)
  else if s.length > 3 then go 0 s
  else .ok none
where
  go (i : Nat) : List Nat → Except UriFault (Option Nat)
    | [] => .ok none
    | b :: rest =>
      if b == 0x3A then
        if rest.take 2 = [0x2F, 0x2F] then
          if i > 64 then .error .schemeTooLong else .ok (some i)
        else .ok none
      else if isSchemeByte b then go (i + 1) rest
      else .ok none

/-- The state of the scan of an authority. -/
structure AuthorityScan where
  colons : Nat := 0
  openBracket : Bool := false
  closeBracket : Bool := false
  percent : Bool := false
  atEnd : Bool := false

/-- Where an authority ends, checking its bytes. -/
def authorityEnd (s : List Nat) : Except UriFault Nat :=
  go s 0 {}
where
  finish (st : AuthorityScan) (endAt : Nat) : Except UriFault Nat :=
    if st.openBracket != st.closeBracket then .error .invalidAuthority
    else if st.colons > 1 then .error .invalidAuthority
    else if endAt > 0 && st.atEnd then .error .invalidAuthority
    else if st.percent then .error .invalidAuthority
    else .ok endAt
  go : List Nat → Nat → AuthorityScan → Except UriFault Nat
    | [], i, st => finish st i
    | b :: rest, i, st =>
      if b == 0x2F || b == 0x3F || b == 0x23 then finish st i
      else if b == 0x3A then
        if st.colons ≥ 8 then .error .invalidAuthority
        else go rest (i + 1) { st with colons := st.colons + 1, atEnd := false }
      else if b == 0x5B then
        if st.percent || st.openBracket then .error .invalidAuthority
        else go rest (i + 1) { st with openBracket := true, atEnd := false }
      else if b == 0x5D then
        if !st.openBracket || st.closeBracket then .error .invalidAuthority
        else go rest (i + 1) { st with closeBracket := true, colons := 0, percent := false, atEnd := false }
      else if b == 0x40 then go rest (i + 1) { st with colons := 0, percent := false, atEnd := true }
      else if b == 0x25 then go rest (i + 1) { st with percent := true, atEnd := false }
      else if isUriByte b then go rest (i + 1) { st with atEnd := false }
      else .error .invalidUriChar

/-- A byte allowed in a path as it stands. -/
def isPathByte (b : Nat) : Bool :=
  b == 0x21 || (0x24 ≤ b && b ≤ 0x3B) || b == 0x3D || (0x40 ≤ b && b ≤ 0x5F) ||
    (0x61 ≤ b && b ≤ 0x7A) || b == 0x7C || b == 0x7E || b ≥ 0x7F || b == 0x22 || b == 0x7B || b == 0x7D

/-- A byte allowed in a query as it stands. -/
def isQueryByte (b : Nat) : Bool :=
  b == 0x21 || (0x24 ≤ b && b ≤ 0x3B) || b == 0x3D || (0x3F ≤ b && b ≤ 0x7E) || b ≥ 0x7F

/-- Checks a path and query, and drops a fragment. -/
def checkPath (s : List Nat) : Except UriFault (List Nat) :=
  path s []
where
  path : List Nat → List Nat → Except UriFault (List Nat)
    | [], acc => .ok acc.reverse
    | b :: rest, acc =>
      if b == 0x3F then query rest (b :: acc)
      else if b == 0x23 then .ok acc.reverse
      else if isPathByte b then path rest (b :: acc)
      else .error .invalidUriChar
  query : List Nat → List Nat → Except UriFault (List Nat)
    | [], acc => .ok acc.reverse
    | b :: rest, acc =>
      if b == 0x23 then .ok acc.reverse
      else if isQueryByte b then query rest (b :: acc)
      else .error .invalidUriChar

/-- The longest text accepted. -/
def maxUriLength : Nat := 65534

/-- Text of bytes that came from a string. -/
def bytesText (bs : List Nat) : String := String.ofList (decodeLossy bs)

/-- Reads a URI. -/
def Uri.parse (text : String) : Except UriFault Uri := do
  let s := utf8Bytes text
  if s.length > maxUriLength then throw .tooLong
  match s with
  | [] => throw .empty
  | [0x2F] => return ⟨none, "", "/"⟩
  | [b] =>
    let endAt ← authorityEnd [b]
    if endAt = 1 then return ⟨none, asciiText [b], ""⟩ else throw .invalidFormat
  | 0x2F :: _ => do
    let p ← checkPath s
    return ⟨none, "", bytesText p⟩
  | _ => do
    match ← schemeEnd s with
    | none =>
      let endAt ← authorityEnd s
      if endAt ≠ s.length then throw .invalidFormat
      return ⟨none, asciiText s, ""⟩
    | some n =>
      let scheme := asciiText (s.take n)
      let scheme :=
        if n = 4 ∧ lowerBytes (s.take 4) = utf8Bytes "http" then "http"
        else if n = 5 ∧ lowerBytes (s.take 5) = utf8Bytes "https" then "https" else scheme
      let rest := s.drop (n + 3)
      let endAt ← authorityEnd rest
      if endAt = 0 then throw .invalidFormat
      let p ← checkPath (rest.drop endAt)
      return ⟨some scheme, asciiText (rest.take endAt), bytesText p⟩

/-- The host of an authority: after the last `@`, up to a port; an IPv6 host
keeps its brackets. -/
def hostOf (authority : String) : String :=
  let hostPort := ((authority.splitOn "@").getLast?).getD ""
  match hostPort.toList with
  | '[' :: _ => String.ofList ((hostPort.toList.takeWhile (· ≠ ']')) ++ [']'])
  | cs => String.ofList (cs.takeWhile (· ≠ ':'))

/-- The host, when there is an authority. -/
def Uri.host? (u : Uri) : Option String :=
  if u.authority.isEmpty then none else some (hostOf u.authority)

/-- A port number as text: an optional `+` and decimal digits below 65536. -/
def parsePort? (text : String) : Option Nat :=
  let ds := match text.toList with
    | '+' :: rest => rest
    | cs => cs
  if ds.isEmpty || !ds.all Char.isDigit then none
  else
    let n := ds.foldl (fun acc c => acc * 10 + (c.toNat - 48)) 0
    if n < 65536 then some n else none

/-- The port after the last `:` of the authority, when it is one. -/
def Uri.port? (u : Uri) : Option Nat :=
  if u.authority.isEmpty then none
  else
    match (u.authority.splitOn ":") with
    | [_] => none
    | parts => parsePort? (parts.getLast?.getD "")

end TopicHub.Net
