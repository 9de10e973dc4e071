/-
Request URIs.

A request names its target in one of four forms: a path with an optional
query, a star, an authority alone, or a scheme and an authority with path
and query behind them. Of all of them only path and query matter here; a
fragment is dropped. The path of an absolute URI is `/` when it is empty.
-/
import RoutingGateway.Text.Split

namespace RoutingGateway.Http

open RoutingGateway.Text

/-- What matters of a request URI. -/
structure Uri where
  path : String
  query : Option String
  deriving DecidableEq, Repr

/-- Why a text is no request URI. -/
inductive UriError where
  | empty
  | tooLong
  | invalidChar
  | invalidAuthority
  | invalidFormat
  | schemeTooLong
  deriving DecidableEq, Repr

/-- The wording of a `UriError`. -/
def UriError.message : UriError → String
  | .empty => "empty string"
  | .tooLong => "uri too long"
  | .invalidChar => "invalid uri character"
  | .invalidAuthority => "invalid authority"
  | .invalidFormat => "invalid format"
  | .schemeTooLong => "scheme too long"

namespace Uri

/-! ## Characters -/

/-- Whether the character may stand in a path. -/
def isPathChar (c : Char) : Bool :=
  let n := c.toNat
  n = 0x21 || n = 0x22 || (0x24 ≤ n && n ≤ 0x3B) || n = 0x3D || (0x40 ≤ n && n ≤ 0x5F) ||
    0x61 ≤ n

/-- Whether the character may stand in a query. -/
def isQueryChar (c : Char) : Bool :=
  let n := c.toNat
  n = 0x21 || (0x24 ≤ n && n ≤ 0x3B) || n = 0x3D || 0x3F ≤ n

/-- Whether the character may stand in an authority, unescaped. -/
def isAuthorityChar (c : Char) : Bool :=
  c.isAlphanum || "!$&'()*+,-.:;=@[]_~".toList.contains c

/-- Whether the character may stand in a scheme. -/
def isSchemeChar (c : Char) : Bool := c.isAlphanum || "+-.~".toList.contains c

/-! ## Path and query -/

/-- The text in front of the first character `stop` holds of. -/
def upTo (stop : Char → Bool) (text : List Char) : List Char := text.takeWhile fun c => !stop c

/-- The text from the first character `stop` holds of. -/
def startingAt (stop : Char → Bool) (text : List Char) : List Char :=
  text.dropWhile fun c => !stop c

/-- Reads path and query and drops the fragment. -/
def readTarget (text : List Char) : Except UriError Uri :=
  let stop (c : Char) : Bool := c = '?' || c = '#'
  let path := upTo stop text
  if !path.all isPathChar then .error .invalidChar
  else
    match startingAt stop text with
    | '?' :: rest =>
      let query := upTo (· = '#') rest
      if query.all isQueryChar then
        .ok { path := String.ofList path, query := some (String.ofList query) }
      else .error .invalidChar
    | _ => .ok { path := String.ofList path, query := none }

/-! ## Scheme and authority -/

/-- What stands behind the scheme and its two slashes, if there is a scheme. -/
def afterScheme? (text : List Char) : Except UriError (Option (List Char)) :=
  let scheme := text.takeWhile isSchemeChar
  match text.drop scheme.length with
  | ':' :: '/' :: '/' :: rest =>
    if 64 < scheme.length then .error .schemeTooLong else .ok (some rest)
  | _ => .ok none

/-- The state of reading an authority: colons that may belong to a port,
brackets, and whether a percent sign stands outside the user part. -/
structure AuthorityState where
  colons : Nat := 0
  opened : Bool := false
  closed : Bool := false
  percent : Bool := false

/-- Takes one character of an authority. -/
def AuthorityState.next (s : AuthorityState) (c : Char) : Except UriError AuthorityState :=
  if c = ':' then
    if 8 ≤ s.colons then .error .invalidAuthority else .ok { s with colons := s.colons + 1 }
  else if c = '[' then
    if s.percent || s.opened then .error .invalidAuthority else .ok { s with opened := true }
  else if c = ']' then
    if !s.opened || s.closed then .error .invalidAuthority
    else .ok { s with closed := true, colons := 0, percent := false }
  else if c = '@' then .ok { s with colons := 0, percent := false }
  else if c = '%' then .ok { s with percent := true }
  else if isAuthorityChar c then .ok s
  else .error .invalidChar

/-- Reads an authority and returns the text behind it. -/
def readAuthority (text : List Char) : Except UriError (List Char × List Char) := do
  let stop (c : Char) : Bool := c = '/' || c = '?' || c = '#'
  let authority := upTo stop text
  let s ← authority.foldlM AuthorityState.next {}
  if s.opened ≠ s.closed ∨ 1 < s.colons ∨ authority.getLast? = some '@' ∨ s.percent then
    throw .invalidAuthority
  return (authority, startingAt stop text)

/-! ## Reading -/

/-- Reads a request URI. Without a scheme nothing may stand behind the
authority; where that is all there is, in a text of one character, the
character is what is wrong. -/
def read (text : String) : Except UriError Uri := do
  let chars := text.toList
  if 65534 < width chars then throw .tooLong
  match chars with
  | [] => throw .empty
  | ['*'] => return { path := "*", query := none }
  | '/' :: _ => readTarget chars
  | _ =>
    match ← afterScheme? chars with
    | none =>
      let (_, rest) ← readAuthority chars
      if rest ≠ [] then throw (if chars.length = 1 then .invalidChar else .invalidFormat)
      return { path := "", query := none }
    | some chars =>
      let (authority, rest) ← readAuthority chars
      if authority = [] then throw .invalidFormat
      let target ← readTarget rest
      return if target.path = "" then { target with path := "/" } else target

end Uri

end RoutingGateway.Http
