/-
What stays of a pattern that is refused.

A pattern that conflicts with another one has been followed into the table up to the place of
the conflict, and what stays of it is that part, without a value. At each of its places there
are branches of the table already (`Follows`), so a path finds what it found before
(`search_append_of_follows`), and a conflict leaves all matches as they were
(`match?_insert_of_conflict`).

The other two refusals have no such part. Where a parameter with a new ending goes in front of
the fault, the remnant is a new fork, and it takes segments away from the forks that were there.
-/
import RoutingGateway.Proofs.Path.BuiltIn

namespace RoutingGateway.Path

variable {α : Type}

/-! ## Searching -/

/-- What is found where the wildcard at this place is tried. -/
def searchWildcard (branches : List (Branch α)) (path : List Char) :
    Option ((Pattern × α) × List (List Char)) :=
  match afterParameter branches with
  | [] => (catchAll? branches).map fun found => (found, [path])
  | under =>
    let segment := path.takeWhile (· != '/')
    let beyond := path.dropWhile (· != '/')
    if segment = [] then none
    else
      let text := segment ++ beyond.take 1
      match (forks under).find? (Fork.fits text) with
      | some fork =>
        (search fork.branches (beyond.drop 1)).map fun (found, texts) =>
          (found, text.take (text.length - fork.ending.length) :: texts)
      | none => if beyond = [] then (ended? under).map fun found => (found, [segment]) else none

/-- Literal text is tried first, and then the wildcard. -/
theorem search_cons (branches : List (Branch α)) (c : Char) (rest : List Char) :
    search branches (c :: rest) =
      (search (afterLiteral c branches) rest).or (searchWildcard branches (c :: rest)) := by
  rw [search, searchWildcard]
  cases hnext : afterLiteral c branches with
  | nil =>
    rw [search_none]
    cases afterParameter branches <;> rfl
  | cons b more =>
    dsimp only
    cases hfound : search (b :: more) rest with
    | none => cases afterParameter branches <;> rfl
    | some found => rfl

/-! ## One branch more -/

section Valueless

variable {entry : Entry α} (hvalue : entry.value = none) (branches : List (Branch α))
  (rest : Pattern)

include hvalue

theorem ended?_append_valueless : ended? (branches ++ [⟨rest, entry⟩]) = ended? branches := by
  simp [ended?, List.findSome?_append, Branch.valued?, hvalue]

theorem catchAll?_append_valueless :
    catchAll? (branches ++ [⟨rest, entry⟩]) = catchAll? branches := by
  have hnone : catchAll? [⟨rest, entry⟩] = none := by
    simp only [catchAll?, List.findSome?_singleton, Branch.valued?, hvalue, Option.map_none]
    split <;> rfl
  rw [catchAll?, List.findSome?_append]
  exact (congrArg _ hnone).trans (Option.or_none ..)

end Valueless

theorem afterLiteral_append (c : Char) (front back : List (Branch α)) :
    afterLiteral c (front ++ back) = afterLiteral c front ++ afterLiteral c back :=
  List.filterMap_append

theorem afterParameter_append (front back : List (Branch α)) :
    afterParameter (front ++ back) = afterParameter front ++ afterParameter back :=
  List.filterMap_append

/-! ## Forks -/

theorem exists_changeFork? {forks : List (Fork α)} {ending : List Char} {fork : Fork α}
    (h : forks.find? (·.ending = ending) = some fork) (change : Fork α → Fork α) :
    ∃ front back, forks = front ++ fork :: back ∧
      changeFork? ending change forks = some (front ++ change fork :: back) := by
  induction forks with
  | nil => cases h
  | cons first rest ih =>
    by_cases hfirst : first.ending = ending
    · simp only [List.find?_cons, hfirst, decide_true, Option.some.injEq] at h
      subst h
      exact ⟨[], rest, rfl, by rw [changeFork?, if_pos hfirst, List.nil_append]⟩
    · rw [List.find?_cons_of_neg (by simpa using hfirst)] at h
      obtain ⟨front, back, hrest, hchange⟩ := ih h
      exact ⟨first :: front, back, by rw [hrest, List.cons_append],
        by rw [changeFork?, if_neg hfirst, hchange, Option.map_some, List.cons_append]⟩

/-- A branch more in a fork does not change which fork a text goes to. -/
theorem find?_push (front back : List (Fork α)) (fork : Fork α) (b : Branch α)
    (text : List Char) :
    (front ++ fork.push b :: back).find? (Fork.fits text) =
        (front ++ fork :: back).find? (Fork.fits text) ∨
      (front ++ fork :: back).find? (Fork.fits text) = some fork ∧
        (front ++ fork.push b :: back).find? (Fork.fits text) = some (fork.push b) := by
  rw [List.find?_append, List.find?_append]
  cases front.find? (Fork.fits text) with
  | some found => exact .inl rfl
  | none =>
    have hpush : (fork.push b).fits text = fork.fits text := rfl
    rw [Option.none_or, Option.none_or, List.find?_cons, List.find?_cons, hpush]
    cases fork.fits text with
    | true => exact .inr ⟨rfl, rfl⟩
    | false => exact .inl rfl

theorem forks_concat (branches : List (Branch α)) (b : Branch α) :
    forks (branches ++ [b]) = addBranch (forks branches) b :=
  List.foldl_concat ..

/-- A branch whose ending has a fork goes there. -/
theorem addBranch_of_find? {forks : List (Fork α)} {b : Branch α} {segment rest : Pattern}
    {fork : Fork α} (hsegment : segment ≠ []) (hliteral : ∀ token ∈ segment, token.isLiteral = true)
    (hsplit : splitSegment b.rest = (segment, rest))
    (hfork : forks.find? (·.ending = spelling segment) = some fork) :
    ∃ front back, forks = front ++ fork :: back ∧
      addBranch forks b = front ++ fork.push { b with rest } :: back := by
  obtain ⟨front, back, hforks, hchange⟩ := exists_changeFork? hfork (·.push { b with rest })
  refine ⟨front, back, hforks, ?_⟩
  have hall : segment.takeWhile Token.isLiteral = segment :=
    List.takeWhile_eq_self_iff.mpr hliteral
  rw [addBranch]
  simp only [hsplit, hall, if_true, hchange, Option.getD_some]
  rw [if_neg (by simpa using hsegment)]

/-! ## Remnants -/

/-- The pattern leads through the branches: behind each of its parameters there is a fork with its
ending, and no parameter of it is new. -/
inductive Follows : List (Branch α) → Pattern → Prop
  | nil (branches : List (Branch α)) : Follows branches []
  | literal {branches : List (Branch α)} {c : Char} {rest : Pattern} :
      Follows (afterLiteral c branches) rest → Follows branches (.literal c :: rest)
  | parameter {branches : List (Branch α)} (name : String) :
      afterParameter branches ≠ [] → Follows branches [.parameter name]
  | segment {branches : List (Branch α)} {segment rest : Pattern} {fork : Fork α} (name : String) :
      segment ≠ [] → (∀ token ∈ segment, token.isLiteral = true) →
      splitSegment (segment ++ rest) = (segment, rest) →
      (forks (afterParameter branches)).find? (·.ending = spelling segment) = some fork →
      Follows fork.branches rest → Follows branches (.parameter name :: (segment ++ rest))

/-- What is found at a parameter depends on the forks that texts go to, and on what ends there. -/
theorem searchWildcard_congr {branches branches' : List (Branch α)} {path : List Char}
    (hunder : afterParameter branches ≠ []) (hunder' : afterParameter branches' ≠ [])
    (hended : ended? (afterParameter branches') = ended? (afterParameter branches))
    (hforks : ∀ text rest, rest.length < path.length →
      ((forks (afterParameter branches')).find? (Fork.fits text)).map
          (fun fork => (fork.ending, search fork.branches rest)) =
        ((forks (afterParameter branches)).find? (Fork.fits text)).map
          (fun fork => (fork.ending, search fork.branches rest))) :
    searchWildcard branches' path = searchWildcard branches path := by
  obtain ⟨b, more, hmore⟩ := List.exists_cons_of_ne_nil hunder
  obtain ⟨b', more', hmore'⟩ := List.exists_cons_of_ne_nil hunder'
  rw [hmore, hmore'] at hforks hended
  rw [searchWildcard, searchWildcard, hmore, hmore']
  dsimp only
  by_cases hsegment : path.takeWhile (· != '/') = []
  · rw [if_pos hsegment, if_pos hsegment]
  · rw [if_neg hsegment, if_neg hsegment, hended]
    have hsame := hforks (path.takeWhile (· != '/') ++ (path.dropWhile (· != '/')).take 1)
      ((path.dropWhile (· != '/')).drop 1) (length_beyond_lt hsegment)
    cases hfound : (forks (b :: more)).find? (Fork.fits
        (path.takeWhile (· != '/') ++ (path.dropWhile (· != '/')).take 1)) with
    | none =>
      rw [hfound] at hsame
      rw [Option.map_eq_none_iff.mp hsame]
    | some fork =>
      rw [hfound] at hsame
      obtain ⟨fork', hfound', hpair⟩ := Option.map_eq_some_iff.mp hsame
      obtain ⟨hending, hsearch⟩ := Prod.mk.inj hpair
      rw [hfound']
      dsimp only
      rw [hending, hsearch]

theorem searchWildcard_append {entry : Entry α} (hvalue : entry.value = none)
    (branches : List (Branch α)) {rest : Pattern} (hrest : afterParameter [⟨rest, entry⟩] = [])
    (path : List Char) :
    searchWildcard (branches ++ [⟨rest, entry⟩]) path = searchWildcard branches path := by
  rw [searchWildcard, searchWildcard, afterParameter_append, hrest, List.append_nil,
    catchAll?_append_valueless hvalue]

/-- An entry without a value that leads where others have led makes no difference. -/
theorem search_append_of_follows {entry : Entry α} (hvalue : entry.value = none)
    {branches : List (Branch α)} {rest : Pattern} (h : Follows branches rest) (path : List Char) :
    search (branches ++ [⟨rest, entry⟩]) path = search branches path := by
  -- on the path and not on the pattern, for a parameter takes a whole segment of it
  induction hlength : path.length using Nat.strongRecOn generalizing branches rest path with
  | _ n ih =>
    subst hlength
    cases path with
    | nil => rw [search, search, ended?_append_valueless hvalue]
    | cons c path =>
      rw [search_cons, search_cons, afterLiteral_append]
      cases h with
      | nil =>
        rw [searchWildcard_append hvalue branches rfl,
          show afterLiteral c [⟨[], entry⟩] = [] from rfl, List.append_nil]
      | @literal _ d more hfollows =>
        rw [searchWildcard_append hvalue branches rfl]
        by_cases hc : c = d
        · subst hc
          have hliteral : afterLiteral c [⟨.literal c :: more, entry⟩] =
              [⟨more, entry⟩] := by
            simp [afterLiteral]
          rw [hliteral, ih path.length (Nat.lt_succ_self _) hfollows path rfl]
        · have hliteral : afterLiteral c [⟨.literal d :: more, entry⟩] = [] := by
            simp [afterLiteral, hc]
          rw [hliteral, List.append_nil]
      | parameter name hunder =>
        have hparameter : afterParameter (branches ++ [⟨[.parameter name], entry⟩]) =
            afterParameter branches ++ [⟨[], entry⟩] := afterParameter_append ..
        rw [show afterLiteral c [⟨[.parameter name], entry⟩] = [] from rfl, List.append_nil,
          searchWildcard_congr hunder]
        · simp [hparameter]
        · rw [hparameter, ended?_append_valueless hvalue]
        · intro text beyond _
          rw [hparameter, forks_concat]
          rfl
      | @segment _ segment more fork name hsegment hall hsplit hfork hfollows =>
        have hparameter :
            afterParameter (branches ++ [⟨.parameter name :: (segment ++ more), entry⟩]) =
              afterParameter branches ++ [⟨segment ++ more, entry⟩] := afterParameter_append ..
        have hunder : afterParameter branches ≠ [] := fun hnil => by
          rw [hnil] at hfork
          cases hfork
        rw [show afterLiteral c [⟨.parameter name :: (segment ++ more), entry⟩] = [] from rfl,
          List.append_nil, searchWildcard_congr hunder]
        · simp [hparameter]
        · rw [hparameter, ended?_append_valueless hvalue]
        · intro text beyond hlt
          obtain ⟨front, back, hforks, hadd⟩ := addBranch_of_find?
            (b := ⟨segment ++ more, entry⟩) hsegment hall hsplit hfork
          rw [hparameter, forks_concat, hadd, hforks]
          rcases find?_push front back fork ⟨more, entry⟩ text with hsame | ⟨hold, hnew⟩
          · rw [hsame]
          · rw [hold, hnew, Option.map_some, Option.map_some, Fork.push,
              ih beyond.length hlt hfollows beyond rfl]

/-! ## Segments -/

theorem append_splitSegment (pattern : Pattern) :
    (splitSegment pattern).1 ++ (splitSegment pattern).2 = pattern := by
  induction pattern with
  | nil => rfl
  | cons token rest ih =>
    rw [splitSegment]
    split
    · rfl
    · exact congrArg (token :: ·) ih

theorem splitSegment_eq_nil {pattern : Pattern} (h : (splitSegment pattern).1 = []) :
    pattern = [] := by
  cases pattern with
  | nil => rfl
  | cons token rest =>
    rw [splitSegment] at h
    split at h <;> cases h

/-- A segment ends where it does whatever stands behind it, unless nothing did. -/
theorem splitSegment_append {segment rest rest' : Pattern}
    (h : splitSegment (segment ++ rest) = (segment, rest)) (hrest : rest = [] → rest' = []) :
    splitSegment (segment ++ rest') = (segment, rest') := by
  induction segment with
  | nil =>
    have hnil : rest = [] := splitSegment_eq_nil (congrArg Prod.fst h)
    rw [hrest hnil]
    rfl
  | cons token more ih =>
    rw [List.cons_append, splitSegment] at h ⊢
    by_cases hslash : token = .literal '/'
    · rw [if_pos hslash, Prod.mk.injEq, List.cons.injEq] at h
      rw [if_pos hslash, ← h.1.2, List.nil_append]
    · rw [if_neg hslash, Prod.mk.injEq, List.cons.injEq] at h
      rw [if_neg hslash, ih (Prod.ext h.1.2 h.2)]

theorem lettered_append {segment : Pattern} (h : ∀ token ∈ segment, token.isLiteral = true)
    (index : Nat) (rest : Pattern) :
    Pattern.lettered index (segment ++ rest) = segment ++ rest.lettered index := by
  induction segment with
  | nil => rfl
  | cons token more ih =>
    obtain ⟨htoken, hmore⟩ := List.forall_mem_cons.mp h
    cases token with
    | literal c => exact congrArg (Token.literal c :: ·) (ih hmore)
    | parameter name | catchAll name => cases htoken

/-! ## Conflicts -/

section Conflict

variable {branches : List (Branch α)} {followed : Followed} {pattern : Pattern}
  {refused : Refused α} {other : Pattern}
  (h : refusal? branches followed pattern = some refused)
  (hconflict : refused.error = .conflict other)

include h hconflict

/-- Where nothing is registered, nothing conflicts. -/
theorem ne_nil_of_conflict : branches ≠ [] := by
  fun_induction refusal? branches followed pattern
  case case1 | case3 | case12 =>
    rintro rfl
    simp_all [ended?, catchAll?]
  case case2 ih | case4 ih =>
    rintro rfl
    exact ih h rfl
  case case5 hfork _ _ =>
    rintro rfl
    cases hfork
  case case6 ih | case10 ih => exact absurd rfl (ih h)
  case case7 | case9 | case11 | case14 =>
    cases h
    cases hconflict
  case case8 | case13 => cases h
  case case15 hunder _ =>
    rintro rfl
    exact hunder rfl

/-- What stays of a pattern that conflicts with another one leads through the table. -/
theorem follows_of_conflict : ∃ walked, walked <+: pattern ∧ Follows branches walked ∧
    refused.remnant = { pattern := followed.pattern ++ walked, value := none } := by
  have hstop {branches : List (Branch α)} {followed : Followed} {pattern : Pattern}
      {error : PatternError} (hrefused : followed.refuse error = refused) :
      ∃ walked, walked <+: pattern ∧ Follows branches walked ∧
        refused.remnant = { pattern := followed.pattern ++ walked, value := none } :=
    ⟨[], List.nil_prefix, .nil branches, by rw [← hrefused, List.append_nil]; rfl⟩
  fun_induction refusal? branches followed pattern
  case case1 | case15 =>
    obtain ⟨_, _, hrefused⟩ := Option.map_eq_some_iff.mp h
    exact hstop hrefused
  case case3 | case12 => exact hstop (Option.some.inj h)
  case case2 ih =>
    obtain ⟨walked, hprefix, hfollows, hremnant⟩ := ih h
    refine ⟨_ :: walked, List.cons_prefix_cons.mpr ⟨rfl, hprefix⟩, .literal hfollows, ?_⟩
    rw [hremnant, Followed.literal, List.append_assoc, List.singleton_append]
  case case4 followed name rest _ _ segment _ _ hsegment ih =>
    obtain ⟨walked, hprefix, -, hremnant⟩ := ih h
    have hsegment : segment = [] := List.isEmpty_iff.mp hsegment
    have hrest : rest = [] := splitSegment_eq_nil hsegment
    subst hrest
    obtain rfl := List.prefix_nil.mp hprefix
    refine ⟨[.parameter name], List.prefix_refl _, .parameter name (ne_nil_of_conflict h hconflict),
      ?_⟩
    rw [hremnant, List.append_nil]
    rfl
  case case5 followed name rest _ _ segment beyond next hsegment fork hfork hliteral ih =>
    obtain ⟨walked, hprefix, hfollows, hremnant⟩ := ih h
    have hall : ∀ token ∈ segment, token.isLiteral = true := List.dropWhile_eq_nil_iff.mp hliteral
    have hrest : splitSegment (segment ++ beyond) = (segment, beyond) := by
      rw [append_splitSegment]
    have hsplit : splitSegment (segment ++ walked) = (segment, walked) :=
      splitSegment_append hrest fun hbeyond => List.prefix_nil.mp (hbeyond ▸ hprefix)
    refine ⟨.parameter name :: (segment ++ walked), ?_,
      .segment name (mt List.isEmpty_iff.mpr hsegment) hall hsplit hfork hfollows, ?_⟩
    · rw [List.cons_prefix_cons, ← append_splitSegment rest]
      exact ⟨rfl, (List.prefix_append_right_inj _).mpr hprefix⟩
    · have hnext : next.pattern = followed.pattern ++ .parameter name :: segment := rfl
      rw [hremnant, hnext, List.append_assoc, List.cons_append]
  case case6 | case10 => exact absurd rfl (ne_nil_of_conflict h hconflict)
  case case7 | case9 | case11 | case14 =>
    cases h
    cases hconflict
  case case8 | case13 => cases h

end Conflict

/-! ## Tables -/

/-- The letters of parameters do not matter to where a pattern leads. -/
theorem Follows.lettered {branches : List (Branch α)} {pattern : Pattern}
    (h : Follows branches pattern) (index : Nat) : Follows branches (pattern.lettered index) := by
  induction h generalizing index with
  | nil branches => exact .nil branches
  | literal _ ih => exact .literal (ih index)
  | parameter name hunder => exact .parameter (letter index) hunder
  | @segment branches segment rest fork name hsegment hall hsplit hfork _ ih =>
    have hlettered : Pattern.lettered index (.parameter name :: (segment ++ rest)) =
        .parameter (letter index) :: (segment ++ rest.lettered (index + 1)) :=
      congrArg (Token.parameter (letter index) :: ·) (lettered_append hall (index + 1) rest)
    rw [hlettered]
    refine .segment _ hsegment hall (splitSegment_append hsplit fun hrest => ?_) hfork
      (ih (index + 1))
    rw [hrest]
    rfl

/-- A pattern is refused for its second parameter in a segment, for its catch-all, or because it
conflicts with another one. -/
theorem refusal?_cases {branches : List (Branch α)} {followed : Followed} {pattern : Pattern}
    {refused : Refused α} (h : refusal? branches followed pattern = some refused) :
    refused.error = .parameterPerSegment ∨ refused.error = .catchAllNotLast ∨
      ∃ other, refused.error = .conflict other := by
  fun_induction refusal? branches followed pattern
  case case1 | case15 =>
    obtain ⟨_, _, rfl⟩ := Option.map_eq_some_iff.mp h
    exact .inr (.inr ⟨_, rfl⟩)
  case case3 | case12 =>
    cases h
    exact .inr (.inr ⟨_, rfl⟩)
  case case2 ih | case4 ih | case5 ih | case6 ih | case10 ih => exact ih h
  case case7 | case11 =>
    cases h
    exact .inl rfl
  case case9 | case14 =>
    cases h
    exact .inr (.inl rfl)
  case case8 | case13 => cases h

/-- A pattern that conflicts with another one leaves all matches as they were. -/
theorem Table.match?_insert_of_conflict {table : Table α} {pattern other : Pattern} {value : α}
    (h : (table.insert pattern value).1 = some (.conflict other)) (path : String) :
    (table.insert pattern value).2.match? path = table.match? path := by
  unfold Table.insert at h ⊢
  cases hrefused : refusal? table.branches {} (pattern.lettered 0) with
  | none =>
    rw [hrefused] at h
    cases h
  | some refused =>
    rw [hrefused] at h
    obtain ⟨walked, -, hfollows, hremnant⟩ := follows_of_conflict hrefused (Option.some.inj h)
    have hbranches : (table.push refused.remnant).branches =
        table.branches ++ [⟨Pattern.lettered 0 walked, refused.remnant⟩] := by
      simp [Table.push, branches, hremnant]
    have hvalue : refused.remnant.value = none := by rw [hremnant]
    show (table.push refused.remnant).match? path = table.match? path
    rw [Table.match?, Table.match?, hbranches,
      search_append_of_follows hvalue (hfollows.lettered 0)]

theorem Table.insert_cases {table : Table α} {pattern : Pattern} {value : α}
    {error : PatternError} (h : (table.insert pattern value).1 = some error) :
    error = .parameterPerSegment ∨ error = .catchAllNotLast ∨ ∃ other, error = .conflict other := by
  unfold Table.insert at h
  cases hrefused : refusal? table.branches {} (pattern.lettered 0) with
  | none =>
    rw [hrefused] at h
    cases h
  | some refused =>
    rw [hrefused] at h
    cases h
    exact refusal?_cases hrefused

end RoutingGateway.Path
