/-
What is left of the patterns of a table while a path is followed.

A branch is a registered pattern and the part of it that has not been
followed yet. Behind a parameter the branches come together in forks: one
for each text that may end a segment, the slash included.
-/
import RoutingGateway.Path.Pattern
import RoutingGateway.Text.Split

namespace RoutingGateway.Path

open RoutingGateway.Text

/-! ## Branches -/

/-- A registered pattern and what it stands for, or, without a value, what is
left of a refused one. -/
structure Entry (α : Type) where
  pattern : Pattern
  value : Option α
  /-- The pattern as reports show it. -/
  shown : Pattern := pattern
  deriving Repr

/-- What is left of an entry's pattern, its parameters under letters. -/
structure Branch (α : Type) where
  rest : Pattern
  entry : Entry α

variable {α : Type}

/-- The pattern of a branch and its value, when it has one. -/
def Branch.valued? (b : Branch α) : Option (Pattern × α) :=
  b.entry.value.map fun value => (b.entry.pattern, value)

/-- The pattern with a value that has ended, if there is one. -/
def ended? (branches : List (Branch α)) : Option (Pattern × α) :=
  branches.findSome? fun b => if b.rest.isEmpty then b.valued? else none

/-- The branches that go on with this character, behind it. -/
def afterLiteral (c : Char) (branches : List (Branch α)) : List (Branch α) :=
  branches.filterMap fun b =>
    match b.rest with
    | .literal d :: rest => if c = d then some { b with rest } else none
    | _ => none

/-- The branches that go on with a parameter, behind it. -/
def afterParameter (branches : List (Branch α)) : List (Branch α) :=
  branches.filterMap fun b =>
    match b.rest with
    | .parameter _ :: rest => some { b with rest }
    | _ => none

/-- The pattern with a value that goes on with a catch-all, if there is one. -/
def catchAll? (branches : List (Branch α)) : Option (Pattern × α) :=
  branches.findSome? fun b =>
    match b.rest with
    | .catchAll _ :: _ => b.valued?
    | _ => none

/-! ## Segments -/

/-- The elements of a pattern up to the end of the segment, the slash included,
and the pattern behind them. -/
def splitSegment : Pattern → Pattern × Pattern
  | [] => ([], [])
  | token :: rest =>
    if token = .literal '/' then ([token], rest)
    else (token :: (splitSegment rest).1, (splitSegment rest).2)

theorem length_splitSegment_snd_le (pattern : Pattern) :
    (splitSegment pattern).2.length ≤ pattern.length := by
  induction pattern with
  | nil => exact Nat.le_refl _
  | cons token rest ih =>
    rw [splitSegment]
    split
    · exact Nat.le_succ _
    · exact Nat.le_succ_of_le ih

/-- The letters by which an ending is told from others. A wildcard has the letters
of its text. -/
def spelling (segment : Pattern) : List Char := segment.flatMap Token.text

/-! ## Forks -/

/-- An ending that a segment with a parameter may have, and the branches behind
it. -/
structure Fork (α : Type) where
  ending : List Char
  branches : List (Branch α)

/-- Whether the text has this ending and something in front of it. -/
def Fork.fits (text : List Char) (fork : Fork α) : Bool :=
  fork.ending.length < text.length && fork.ending.isSuffixOf text

/-- The fork with one more branch. -/
def Fork.push (branch : Branch α) (fork : Fork α) : Fork α :=
  { fork with branches := fork.branches ++ [branch] }

/-- The fork with the first `n` characters of its ending. Its branches take up
those it loses. -/
def Fork.cut (n : Nat) (fork : Fork α) : Fork α where
  ending := fork.ending.take n
  branches := fork.branches.map fun b =>
    { b with rest := (fork.ending.drop n).map .literal ++ b.rest }

/-- Changes the first fork with this ending, if there is one. -/
def changeFork? (ending : List Char) (change : Fork α → Fork α) :
    List (Fork α) → Option (List (Fork α))
  | [] => none
  | fork :: rest =>
    if fork.ending = ending then some (change fork :: rest)
    else (changeFork? ending change rest).map (fork :: ·)

/-- Puts a fork in front of the first one with a shorter ending. -/
def insertFork (fork : Fork α) : List (Fork α) → List (Fork α)
  | [] => [fork]
  | other :: rest =>
    if width other.ending < width fork.ending then fork :: other :: rest
    else other :: insertFork fork rest

/-- Leads a branch behind a parameter to its fork. An ending with a wildcard in it
belongs to the literal ending of the same spelling, which from then on ends in
front of the wildcard. -/
def addBranch (forks : List (Fork α)) (b : Branch α) : List (Fork α) :=
  let segment := (splitSegment b.rest).1
  let literals := segment.takeWhile Token.isLiteral
  if segment.isEmpty then forks
  else if literals.length = segment.length then
    let branch := { b with rest := (splitSegment b.rest).2 }
    (changeFork? (spelling segment) (·.push branch) forks).getD
      (insertFork { ending := spelling segment, branches := [branch] } forks)
  else
    let branch := { b with rest := b.rest.drop literals.length }
    (changeFork? (spelling segment) (fun fork => (fork.cut literals.length).push branch)
      forks).getD forks

/-- The forks of the branches behind a parameter, in the order in which their
endings are tried: longer ones first, as long as none has been cut. -/
def forks (branches : List (Branch α)) : List (Fork α) := branches.foldl addBranch []

end RoutingGateway.Path
