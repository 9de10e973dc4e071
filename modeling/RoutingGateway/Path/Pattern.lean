/-
Path patterns.

A pattern is literal text with wildcards in it: `{name}` stands for a part of
one path segment that is not empty, and `{*name}` for a rest of the path
that is not empty. A brace that is text is written twice; directly behind a
parameter that holds only where the name of the parameter is one byte long.
-/

namespace RoutingGateway.Path

/-- One element of a pattern. -/
inductive Token where
  | literal (c : Char)
  | parameter (name : String)
  | catchAll (name : String)
  deriving DecidableEq, Repr

/-- A pattern is a sequence of literal characters and wildcards. -/
abbrev Pattern := List Token

/-- Whether the element is a literal character. -/
def Token.isLiteral : Token → Bool
  | .literal _ => true
  | _ => false

/-- The text of an element; literal braces stand for themselves. -/
def Token.text : Token → List Char
  | .literal c => [c]
  | .parameter name => '{' :: (name.toList ++ ['}'])
  | .catchAll name => '{' :: '*' :: (name.toList ++ ['}'])

/-- The text of a pattern; literal braces stand for themselves. -/
def Pattern.text (pattern : Pattern) : String := String.ofList (pattern.flatMap Token.text)

/-- The names of the wildcards, in order. -/
def Pattern.names : Pattern → List String
  | [] => []
  | .literal _ :: rest => names rest
  | .parameter name :: rest => name :: names rest
  | .catchAll name :: rest => name :: names rest

/-- The letter under which a table keeps a parameter. -/
def letter (index : Nat) : String := (Char.ofNat ('a'.toNat + index)).toString

/-- The pattern with letters for the names of its parameters, in their order from
an index on. Patterns of one table are compared in this form. -/
def Pattern.lettered (index : Nat) : Pattern → Pattern
  | [] => []
  | .parameter _ :: rest => .parameter (letter index) :: lettered (index + 1) rest
  | token :: rest => token :: lettered index rest

/-! ## Errors -/

/-- Why a pattern is refused. -/
inductive PatternError where
  /-- Braces do not pair up, or a name between them is no name. -/
  | invalidParameter
  | parameterPerSegment
  | catchAllNotLast
  /-- There are not enough letters for the parameters. -/
  | tooManyParameters
  | conflict (other : Pattern)
  deriving DecidableEq, Repr

/-- The wording of a `PatternError`. -/
def PatternError.message : PatternError → String
  | .invalidParameter => "Parameters must be registered with a valid name"
  | .parameterPerSegment => "Only one parameter is allowed per path segment"
  | .catchAllNotLast => "Catch-all parameters are only allowed at the end of a route"
  | .tooManyParameters => "Too many route parameters."
  | .conflict other =>
    "Insertion failed due to conflict with previously registered route: " ++ other.text

/-! ## Reading -/

/-- Reads doubled braces from a text that begins at a byte offset: the
characters that remain, and the offsets of the braces that are text because
they were doubled. -/
def unescape (offset : Nat) : List Char → List Char × List Nat
  | [] => ([], [])
  | '{' :: '{' :: rest =>
    let (chars, marks) := unescape (offset + 1) rest
    ('{' :: chars, offset :: marks)
  | '}' :: '}' :: rest =>
    let (chars, marks) := unescape (offset + 1) rest
    ('}' :: chars, offset :: marks)
  | c :: rest =>
    let (chars, marks) := unescape (offset + c.utf8Size) rest
    (c :: chars, marks)

/-- The wildcard that a text between braces names. -/
def wildcard? : List Char → Option Token
  | ['*'] => none
  | '*' :: name => some (.catchAll (String.ofList name))
  | name => some (.parameter (String.ofList name))

/-- Where reading stands in a pattern. -/
structure Place where
  /-- The byte offset of the next character. -/
  offset : Nat := 0
  /-- The offsets at which a brace is text. -/
  marks : List Nat
  /-- The parameters read so far. -/
  parameters : Nat := 0

/-- Whether the next character, if it is a brace, is text. -/
def Place.isMarked (place : Place) : Bool := place.marks.contains place.offset

/-- The place behind a character. -/
def Place.past (place : Place) (c : Char) : Place :=
  { place with offset := place.offset + c.utf8Size }

/-- The place behind a parameter of this name. A table keeps one letter for the
name, and the pattern moves up by the bytes that are saved. A mark directly
behind the parameter does not move up with it: its brace is text only behind
a name of one byte, and behind a longer one the mark goes to a later place. -/
def Place.pastParameter (place : Place) (name : String) : Place :=
  { place with
    marks := place.marks.map fun mark =>
      if mark = place.offset then mark + (name.utf8ByteSize - 1) else mark
    parameters := place.parameters + 1 }

/-- The most parameters of a pattern; each takes a letter, and one is spare. -/
def maxParameters : Nat := 25

/-- Reads elements. Between braces `name` holds the characters since the
opening one, the last one first; neither a star nor a slash may stand there
behind the first place. -/
def readTokens (name : Option (List Char)) (place : Place) :
    List Char → Except PatternError Pattern
  | [] => if name.isSome then .error .invalidParameter else .ok []
  | c :: rest =>
    match name with
    | none =>
      if c = '}' ∧ !place.isMarked then .error .invalidParameter
      else if c = '{' ∧ !place.isMarked then readTokens (some []) (place.past c) rest
      else (readTokens none (place.past c) rest).map (.literal c :: ·)
    | some [] =>
      if c = '}' then .error .invalidParameter
      else readTokens (some [c]) (place.past c) rest
    | some (last :: name) =>
      if c = '}' ∧ !place.isMarked then
        match wildcard? (last :: name).reverse with
        | none => .error .invalidParameter
        | some (.parameter name) =>
          if maxParameters ≤ place.parameters then .error .tooManyParameters
          else
            (readTokens none ((place.past c).pastParameter name) rest).map
              (.parameter name :: ·)
        | some token => (readTokens none (place.past c) rest).map (token :: ·)
      else if c = '*' ∨ c = '/' then .error .invalidParameter
      else readTokens (some (c :: last :: name)) (place.past c) rest

/-- Reads a pattern. -/
def Pattern.read (text : String) : Except PatternError Pattern :=
  let (chars, marks) := unescape 0 text.toList
  readTokens none { marks } chars

end RoutingGateway.Path
