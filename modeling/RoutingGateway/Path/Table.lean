/-
Tables of path patterns.

A path is matched character by character against all patterns at once: the
patterns that may still match are kept with what is left of them
(`Branch`). Where some go on with the path's next character, those are tried
first; where that leads nowhere, the wildcard at this place is tried. A
parameter takes its segment up to the first of the endings that fits
(`forks`), and stands by that choice.

Two patterns that differ in the names of their parameters alone cannot be in
one table, nor can a parameter and a catch-all at the same place. A pattern
that is refused is not taken back entirely: the part of it in front of the
fault stays, as an entry without a value. Such an entry matches nothing, but
its parameters hold their places.
-/
import RoutingGateway.Path.Branch

namespace RoutingGateway.Path

/-! ## Tables -/

/-- A table holds its patterns in the order of their registration. -/
structure Table (α : Type) where
  entries : List (Entry α)
  deriving Repr

variable {α : Type}

/-- The table without patterns. -/
def Table.empty : Table α := ⟨[]⟩

/-- All patterns of the table, nothing of them matched yet. -/
def Table.branches (table : Table α) : List (Branch α) :=
  table.entries.map fun entry => { rest := entry.pattern.lettered 0, entry }

/-! ## Matching -/

theorem length_beyond_lt {path : List Char} (h : path.takeWhile (· != '/') ≠ []) :
    ((path.dropWhile (· != '/')).drop 1).length < path.length := by
  have h₁ : 0 < (path.takeWhile (· != '/')).length := List.length_pos_iff.mpr h
  have h₂ := congrArg List.length (List.takeWhile_append_dropWhile (p := (· != '/')) (l := path))
  simp only [List.length_append, List.length_drop] at h₂ ⊢
  omega

/-- The pattern that a path matches with its value, and the texts that its
wildcards stand for. -/
def search (branches : List (Branch α)) (path : List Char) :
    Option ((Pattern × α) × List (List Char)) :=
  match path with
  | [] => (ended? branches).map fun found => (found, [])
  | c :: rest =>
    match (match afterLiteral c branches with
      | [] => none
      | next => search next rest) with
    | some found => some found
    | none =>
      match afterParameter branches with
      | [] => (catchAll? branches).map fun found => (found, [c :: rest])
      | under =>
        let segment := (c :: rest).takeWhile (· != '/')
        let beyond := (c :: rest).dropWhile (· != '/')
        if _h : segment = [] then none
        else
          let text := segment ++ beyond.take 1
          match (forks under).find? (Fork.fits text) with
          | some fork =>
            (search fork.branches (beyond.drop 1)).map fun (found, texts) =>
              (found, text.take (text.length - fork.ending.length) :: texts)
          | none =>
            if beyond = [] then (ended? under).map fun found => (found, [segment]) else none
  termination_by path.length
  decreasing_by
    · simp
    · exact length_beyond_lt (by assumption)

/-- A matched path: what its pattern stands for, and the texts of the wildcards
by name. -/
structure Match (α : Type) where
  value : α
  parameters : List (String × String)
  deriving Repr

/-- The text of the wildcard with this name; of several it is the last. -/
def Match.parameter? (m : Match α) (name : String) : Option String :=
  (m.parameters.reverse.find? fun p => p.1 = name).map Prod.snd

/-- Matches a path. -/
def Table.match? (table : Table α) (path : String) : Option (Match α) :=
  (search table.branches path.toList).map fun ((pattern, value), texts) =>
    { value, parameters := pattern.names.zip (texts.map String.ofList) }

/-! ## Conflicts -/

/-- The first of some characters to be as frequent as any. -/
def leadingChar? (chars : List Char) : Option Char :=
  (chars.foldl (fun (seen, best) c =>
    let seen := c :: seen
    match best with
    | none => (seen, some c)
    | some b => if seen.count b < seen.count c then (seen, some c) else (seen, some b))
    (([] : List Char), (none : Option Char))).2

/-- The next literal character of each branch that has one. -/
def nextLiterals (branches : List (Branch α)) : List Char :=
  branches.filterMap fun b =>
    match b.rest with
    | .literal c :: _ => some c
    | _ => none

/-- The pattern that stands where all literal text and all parameters end: one
with a catch-all behind, or one that ends there, or what is left of one. -/
def standing? (branches : List (Branch α)) : Option Pattern :=
  ((((catchAll? branches).or (ended? branches)).map Prod.fst).or
    (branches.head?.map fun b => b.entry.shown))

/-- The pattern that speaks for some branches: the one found by going on with the
literal text that most of them share, with a parameter only where there is
none, and with the first of the endings behind a parameter. -/
def spokesman? (fuel : Nat) (behindParameter : Bool) (branches : List (Branch α)) :
    Option Pattern :=
  match fuel with
  | 0 => standing? branches
  | fuel + 1 =>
    if behindParameter then
      match forks branches with
      | fork :: _ => spokesman? fuel false fork.branches
      | [] => standing? branches
    else
      match leadingChar? (nextLiterals branches) with
      | some c => spokesman? fuel false (afterLiteral c branches)
      | none =>
        match afterParameter branches with
        | [] => standing? branches
        | under => spokesman? fuel true under

/-- A refused pattern: why it is refused, and what stays of it. -/
structure Refused (α : Type) where
  error : PatternError
  remnant : Entry α

/-- The part of a pattern that has been followed into a table. -/
structure Followed where
  /-- All of it. -/
  pattern : Pattern := []
  /-- The part without the new literal text at its end; the text that completes
  the segment of a parameter is not part of that. -/
  settled : Pattern := []

/-- Follows a literal character; `known` when some pattern of the table has it. -/
def Followed.literal (f : Followed) (c : Char) (known : Bool) : Followed :=
  let pattern := f.pattern ++ [.literal c]
  { pattern, settled := if known then pattern else f.settled }

/-- Follows a parameter and what completes its segment. -/
def Followed.parameter (f : Followed) (name : String) (segment : Pattern) : Followed :=
  let pattern := f.pattern ++ .parameter name :: segment
  { pattern, settled := pattern }

/-- The refusal of a pattern that leaves what has been followed. -/
def Followed.refuse (f : Followed) (error : PatternError) : Refused α :=
  { error, remnant := { pattern := f.pattern, value := none } }

/-- The refusal of a catch-all in the middle of a pattern. Of the new text in
front of it only the first character stays, and reports do not show it. -/
def Followed.refuseCatchAll (f : Followed) : Refused α :=
  { error := .catchAllNotLast
    remnant :=
      { pattern := f.pattern.take (f.settled.length + 1), value := none, shown := f.settled } }

/-- Why a pattern cannot be added to the branches, if it cannot. Only one
wildcard may stand in a segment. A second one is noticed where the segment
of the first one is new: it passes for an ending of the same spelling that
the table has. -/
def refusal? (branches : List (Branch α)) (followed : Followed) (pattern : Pattern) :
    Option (Refused α) :=
  match pattern with
  | [] => (ended? branches).map fun found => followed.refuse (.conflict found.1)
  | .literal c :: rest =>
    let next := afterLiteral c branches
    refusal? next (followed.literal c !next.isEmpty) rest
  | .parameter name :: rest =>
    match catchAll? branches with
    | some found => some (followed.refuse (.conflict found.1))
    | none =>
      let under := afterParameter branches
      let segment := (splitSegment rest).1
      let beyond := (splitSegment rest).2
      let next := followed.parameter name segment
      if segment.isEmpty then refusal? under next beyond
      else
        match segment.dropWhile Token.isLiteral,
          (forks under).find? (·.ending = spelling segment) with
        | [], some fork => refusal? fork.branches next beyond
        | [], none => refusal? [] next beyond
        | _, none => some (followed.refuse .parameterPerSegment)
        | .catchAll _ :: more, some _ =>
          if more.isEmpty && beyond.isEmpty then none else some (next.refuse .catchAllNotLast)
        | _ :: more, some _ =>
          if more.all Token.isLiteral then refusal? [] next beyond
          else some (next.refuse .parameterPerSegment)
  | .catchAll _ :: rest =>
    match catchAll? branches, afterParameter branches with
    | some found, _ => some (followed.refuse (.conflict found.1))
    | none, [] => if rest.isEmpty then none else some followed.refuseCatchAll
    | none, under =>
      let longestRest := under.foldl (fun n b => max n b.rest.length) 0
      (spokesman? (2 * longestRest + 1) true under).map fun p => followed.refuse (.conflict p)
  termination_by pattern.length
  decreasing_by
    all_goals
      have := length_splitSegment_snd_le rest
      simp only [List.length_cons]
      omega

/-- Adds an entry behind the others. -/
def Table.push (table : Table α) (entry : Entry α) : Table α := ⟨table.entries ++ [entry]⟩

/-- Adds a pattern. A refused one leaves its remnant in the table. -/
def Table.insert (table : Table α) (pattern : Pattern) (value : α) :
    Option PatternError × Table α :=
  match refusal? table.branches {} (pattern.lettered 0) with
  | some refused => (some refused.error, table.push refused.remnant)
  | none => (none, table.push { pattern, value := some value })

end RoutingGateway.Path
