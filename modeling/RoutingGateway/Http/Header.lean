/-
Header names and values.

Names are compared without regard to the case of ASCII letters, so they are
kept in lower case. A value may hold bytes that no one should read as text;
it is readable when it consists of visible ASCII characters, spaces and
tabs.
-/

namespace RoutingGateway.Http

/-! ## Names and values -/

/-- The characters of header names. -/
def isTokenChar (c : Char) : Bool :=
  c.isAlphanum || "!#$%&'*+-.^_\x60|~".toList.contains c

/-- The longest name of a header, in characters. -/
def maxNameLength : Nat := 65535

/-- Whether the text can name a header. -/
def isHeaderName (name : String) : Bool :=
  name ≠ "" && name.toList.all isTokenChar && name.length ≤ maxNameLength

/-- Whether the character is visible ASCII, a space or a tab. -/
def isVisible (c : Char) : Bool := c = '\t' || (32 ≤ c.toNat && c.toNat < 127)

/-- Whether the value can be read as text. -/
def isReadable (value : String) : Bool := value.toList.all isVisible

/-- Whether the value may be sent at all: it holds no control character besides
the tab. -/
def isHeaderValue (value : String) : Bool :=
  value.toList.all fun c => c = '\t' || (32 ≤ c.toNat && c.toNat ≠ 127)

/-- What is wrong with a header. -/
inductive HeaderFault where
  | name
  | value
  deriving DecidableEq, Repr

/-- The wording of a `HeaderFault`. -/
def HeaderFault.message : HeaderFault → String
  | .name => "invalid HTTP header name"
  | .value => "failed to parse header value"

/-- What forbids a header to be sent. -/
def headerFault? (name value : String) : Option HeaderFault :=
  if !isHeaderName name then some .name
  else if !isHeaderValue value then some .value
  else none

/-! ## Request headers -/

/-- The headers of a request, each under its name in lower case, in the order
of arrival. A name may occur more than once. -/
structure Headers where
  entries : List (String × String)
  deriving Repr, Inhabited, DecidableEq

namespace Headers

/-- No headers. -/
def empty : Headers := ⟨[]⟩

/-- The first value under a name, in whatever case, if it is readable. -/
def get? (headers : Headers) (name : String) : Option String :=
  match headers.entries.find? fun e => e.1 = name.toLower with
  | some (_, value) => if isReadable value then some value else none
  | none => none

/-- Puts one value in the place of all values under the name. -/
def set (headers : Headers) (name value : String) : Headers :=
  ⟨headers.entries.filter (fun e => e.1 ≠ name.toLower) ++ [(name.toLower, value)]⟩

/-- Adds a value behind those that the name has. -/
def add (headers : Headers) (name value : String) : Headers :=
  ⟨headers.entries ++ [(name.toLower, value)]⟩

end Headers

end RoutingGateway.Http
