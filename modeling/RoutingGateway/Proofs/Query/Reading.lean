/-
What a reading of a query comes to, for every query.

`query_cases` says that there are three kinds of queries. Some have no good
list of coordinates; some spell a sentence; and the others are a text of a
sentence, a separator, a pair that is rejected there and a tail. The kinds are
told apart by the grammar alone, and `read_of_noCoordinates`, `read_of_spells`
and `read_of_firstRejected` compute the reading of each.

The proof follows the reader. A query has its `Parts`: the layout, the text in
the place of the coordinates and the text of the options (`exists_parts`). A
run over the pairs keeps the invariant `Seen` and adds up the bytes of the
pairs passed (`readPairs_append`), and the first pair that cannot be read
ends it.
-/
import RoutingGateway.Proofs.Query.Pair

namespace RoutingGateway.Query

open RoutingGateway.Text

/-! ## Parting a query -/

/-- The text behind the coordinates. -/
def behind (layout : Layout) : Option (List Char) → List Char
  | none => []
  | some options => layout.separator :: options

/-- Up to the separator of its layout a text is the text in front of it. -/
theorem takeWhile_behind {layout : Layout} {list : List Char} (h : layout.separator ∉ list)
    (options : Option (List Char)) :
    (list ++ behind layout options).takeWhile (· ≠ layout.separator) = list := by
  have hall : ∀ c ∈ list, decide (c ≠ layout.separator) = true :=
    fun c hc => decide_eq_true fun e => h (e ▸ hc)
  rw [List.takeWhile_append_of_pos hall]
  cases options <;> simp [behind]

theorem Layout.utf8Size_separator (layout : Layout) : layout.separator.utf8Size = 1 := by
  cases layout <;> decide

theorem cut_behind {layout : Layout} {list : List Char} (h : layout.separator ∉ list)
    (options : Option (List Char)) :
    cut layout.separator (list ++ behind layout options) = options.map fun o => (list, o) := by
  cases options with
  | none => simpa [behind] using cut_eq_none_iff.mpr h
  | some options => exact cut_eq_some_iff.mpr ⟨rfl, h⟩

/-- A query by its parts. What it begins with tells its layout, and the place of the
coordinates ends at the first separator of the layout. -/
structure Parts where
  layout : Layout
  /-- The text in the place of the coordinates. -/
  list : List Char
  /-- The text behind the separator, where there is one. -/
  options : Option (List Char)
  opens : layout = .bare → ¬ Layout.keyed.opening <+: list
  ends : layout.separator ∉ list

/-- A text that goes on behind a question mark begins with the opening of the other layout
in front of it or not at all. -/
theorem dropStart?_opening_eq_none {list : List Char} (h : ¬ Layout.keyed.opening <+: list)
    (options : Option (List Char)) :
    dropStart? Layout.keyed.opening (list ++ behind .bare options) = none := by
  cases hstart : dropStart? Layout.keyed.opening (list ++ behind .bare options) with
  | none => rfl
  | some rest =>
    have hparts := dropStart?_eq_some_iff.mp hstart
    rcases List.append_eq_append_iff.mp hparts with ⟨more, hopening, hbehind⟩ | ⟨more, hlist, -⟩
    · cases more with
      | nil => exact absurd ⟨[], by rw [hopening, List.append_nil, List.append_nil]⟩ h
      | cons c more =>
        -- the opening would take up the question mark
        have hc : c = '?' := by
          cases options with
          | none => cases hbehind
          | some options => exact (List.cons.inj hbehind).1.symm
        have hmem : c ∈ Layout.keyed.opening := by rw [hopening]; simp
        rw [hc] at hmem
        exact absurd hmem (by decide)
    · exact absurd ⟨more, hlist.symm⟩ h

namespace Parts

def text (q : Parts) : List Char := q.layout.opening ++ (q.list ++ behind q.layout q.options)

/-- The pairs of the options. -/
def pairs (q : Parts) : List (List Char) :=
  match q.options with
  | none => []
  | some options => options.splitOn '&'

theorem layoutOf_text (q : Parts) :
    layoutOf q.text = (q.layout, q.list ++ behind q.layout q.options) := by
  obtain ⟨layout, list, options, hopens, -⟩ := q
  cases layout with
  | keyed =>
    unfold layoutOf text
    rw [dropStart?_append]
  | bare =>
    unfold layoutOf text
    rw [show Layout.bare.opening = [] from rfl, List.nil_append,
      dropStart?_opening_eq_none (hopens rfl)]

/-- A query is read by its parts. -/
theorem read_text (q : Parts) :
    read q.text = readParts (width q.layout.opening) q.list q.options := by
  unfold read
  rw [q.layoutOf_text]
  simp only [cut_behind q.ends]
  cases q.options with
  | none => simp [behind]
  | some options => rfl

theorem coordinateText_text (q : Parts) : coordinateText q.text = q.list := by
  obtain ⟨layout, list, options, hopens, hends⟩ := q
  cases layout with
  | keyed =>
    have hprefix : "coordinates=".toList.isPrefixOf
        (Layout.keyed.opening ++ (list ++ behind .keyed options)) = true :=
      List.isPrefixOf_iff_prefix.mpr (List.prefix_append ..)
    have hdrop : (Layout.keyed.opening ++ (list ++ behind .keyed options)).drop
        "coordinates=".toList.length = list ++ behind .keyed options := List.drop_left
    rw [text, coordinateText, if_pos hprefix, hdrop]
    exact takeWhile_behind hends options
  | bare =>
    have hprefix : ¬ "coordinates=".toList.isPrefixOf (list ++ behind .bare options) = true := by
      intro h
      obtain ⟨rest, hrest⟩ := List.isPrefixOf_iff_prefix.mp h
      have hsome := dropStart?_eq_some_iff.mpr hrest.symm
      cases hsome.symm.trans (dropStart?_opening_eq_none (hopens rfl) options)
    rw [text, show Layout.bare.opening = [] from rfl, List.nil_append, coordinateText,
      if_neg hprefix]
    exact takeWhile_behind hends options

end Parts

/-- Every query has its parts. -/
theorem exists_parts (query : List Char) : ∃ q : Parts, q.text = query := by
  have parted (layout : Layout) (rest : List Char) : ∃ list options,
      list ++ behind layout options = rest ∧ layout.separator ∉ list := by
    cases hcut : cut layout.separator rest with
    | none => exact ⟨rest, none, by simp [behind], cut_eq_none_iff.mp hcut⟩
    | some parts =>
      obtain ⟨hrest, hnot⟩ := cut_eq_some_iff.mp (show _ = some (parts.1, parts.2) from hcut)
      exact ⟨parts.1, some parts.2, hrest.symm, hnot⟩
  cases hstart : dropStart? Layout.keyed.opening query with
  | some rest =>
    obtain ⟨list, options, hrest, hnot⟩ := parted .keyed rest
    refine ⟨⟨.keyed, list, options, nofun, hnot⟩, ?_⟩
    rw [Parts.text, hrest, dropStart?_eq_some_iff.mp hstart]
  | none =>
    obtain ⟨list, options, hrest, hnot⟩ := parted .bare query
    refine ⟨⟨.bare, list, options, fun _ hprefix => ?_, hnot⟩, hrest⟩
    obtain ⟨more, rfl⟩ := hprefix
    rw [List.append_assoc] at hrest
    rw [← hrest, dropStart?_append] at hstart
    cases hstart

theorem CoordinatesText.separator_not_mem {list : List Char} {cs : List Coordinate}
    (h : CoordinatesText list cs) (layout : Layout) : layout.separator ∉ list := fun hmem =>
  (h.isValueChar _ hmem).1.ne (by cases layout <;> simp [Layout.separator]) rfl

theorem CoordinatesText.equals_not_mem {list : List Char} {cs : List Coordinate}
    (h : CoordinatesText list cs) : '=' ∉ list := fun hmem => (h.isValueChar _ hmem).2 rfl

/-- The parts of a query that is made of a good list of coordinates. -/
def CoordinatesText.parts (layout : Layout) {list : List Char} {cs : List Coordinate}
    (h : CoordinatesText list cs) (options : Option (List Char)) : Parts where
  layout
  list
  options
  opens := fun _ hstart => h.equals_not_mem (hstart.subset (by decide))
  ends := h.separator_not_mem layout

/-- A query with a good list of coordinates is read from the parts it is made of. -/
theorem read_of_coordinatesText (layout : Layout) {list : List Char} {cs : List Coordinate}
    (h : CoordinatesText list cs) (options : Option (List Char)) :
    read (layout.opening ++ (list ++ behind layout options)) =
      readParts (width layout.opening) list options :=
  (CoordinatesText.parts layout h options).read_text

/-! ## Runs over pairs -/

/-- Pairs that are texts of settings with fresh keys are all read, and what follows
them is read on top of the settings, with their keys seen. -/
theorem readPairs_append {given seen : List Key} (hseen : Seen given seen) (p : Parameters)
    (start : Nat) {good : List (List Char)} (rest : List (List Char)) {settings : List Setting}
    (hgood : List.Forall₂ PairText good settings)
    (hfresh : (given ++ settings.map Setting.key).Nodup) :
    ∃ seen', Seen (given ++ settings.map Setting.key) seen' ∧
      readPairs seen p (located start (good ++ rest)) =
        readPairs seen' (settings.foldl (fun p s => s.put p) p)
          (located (start + extent good) rest) := by
  induction hgood generalizing given seen p start with
  | nil => exact ⟨seen, by simpa using hseen, by simp⟩
  | @cons pair s good settings hpair _ ih =>
    have hgiven : s.key ∉ given := fun h =>
      List.nodup_append.mp hfresh |>.2.2 s.key h s.key (by simp) rfl
    have hread : readPair seen p pair = .ok (s.key, s.put p) :=
      (readPair_eq_ok_iff hseen).mpr ⟨s, hpair, rfl, hgiven, rfl⟩
    have hseen' : Seen (given ++ [s.key]) (s.key :: seen) := by
      intro key
      rw [List.mem_cons, hseen key, List.mem_append, List.mem_singleton]
      tauto
    have hfresh' : (given ++ [s.key] ++ settings.map Setting.key).Nodup := by simpa using hfresh
    obtain ⟨seen', hseen'', hrun⟩ := ih hseen' (s.put p) (start + width pair + 1) hfresh'
    refine ⟨seen', by simpa using hseen'', ?_⟩
    rw [List.cons_append, located_cons, readPairs, hread, List.foldl_cons, extent_cons,
      show start + (width pair + 1 + extent good) = start + width pair + 1 + extent good by omega]
    exact hrun

/-- Either all pairs are texts of settings with fresh keys, or there is a first
one that is rejected behind the settings in front of it. -/
theorem accepted_or_rejected {given : List Key} (hgiven : given.Nodup)
    (pieces : List (List Char)) :
    (∃ settings, List.Forall₂ PairText pieces settings ∧
      (given ++ settings.map Setting.key).Nodup) ∨
    ∃ good settings bad more e, pieces = good ++ bad :: more ∧
      List.Forall₂ PairText good settings ∧ (given ++ settings.map Setting.key).Nodup ∧
      Rejected (given ++ settings.map Setting.key) bad e := by
  induction pieces generalizing given with
  | nil => exact .inl ⟨[], .nil, by simpa using hgiven⟩
  | cons pair rest ih =>
    have hseen : Seen given (.coordinates :: given) := fun key => List.mem_cons
    cases hread : readPair (.coordinates :: given) default pair with
    | error e =>
      refine .inr ⟨[], [], pair, rest, e, rfl, .nil, by simpa using hgiven, ?_⟩
      simpa using (readPair_eq_error_iff hseen).mp hread
    | ok result =>
      obtain ⟨key, q⟩ := result
      obtain ⟨s, hpair, -, hfresh, -⟩ := (readPair_eq_ok_iff hseen).mp hread
      have hgiven' : (given ++ [s.key]).Nodup := by
        rw [List.nodup_append]
        refine ⟨hgiven, by simp, fun key hkey other hother => ?_⟩
        rw [List.mem_singleton.mp hother]
        exact fun e => hfresh (e ▸ hkey)
      rcases ih hgiven' with ⟨settings, hall, hnodup⟩ | ⟨good, settings, bad, more, e, hsplit, hall,
        hnodup, hbad⟩
      · exact .inl ⟨s :: settings, .cons hpair hall, by simpa using hnodup⟩
      · refine .inr ⟨pair :: good, s :: settings, bad, more, e, by simp [hsplit],
          .cons hpair hall, by simpa using hnodup, by simpa using hbad⟩

/-! ## Readings of sentences -/

theorem seen_nil : Seen [] [.coordinates] := by simp [Seen]

/-- Pairs that are texts of settings, no two of the same key, are all read. -/
theorem readPairs_of_accepted {p : Parameters} {start : Nat} {pairs : List (List Char)}
    {settings : List Setting} (h : List.Forall₂ PairText pairs settings)
    (hdistinct : (settings.map Setting.key).Nodup) :
    readPairs [.coordinates] p (located start pairs) =
      .complete (settings.foldl (fun p s => s.put p) p) := by
  obtain ⟨seen, -, hrun⟩ := readPairs_append seen_nil p start [] h (by simpa using hdistinct)
  rw [List.append_nil] at hrun
  exact hrun

/-- A text of options whose pairs are all accepted is read to its end. -/
theorem readPairs_of_separated {p : Parameters} {start : Nat} {options : List Char}
    {settings : List Setting} (h : Separated '&' PairText options settings)
    (hdistinct : (settings.map Setting.key).Nodup) :
    readPairs [.coordinates] p (located start (options.splitOn '&')) =
      .complete (settings.foldl (fun p s => s.put p) p) :=
  readPairs_of_accepted
    ((separated_iff_splitOn fun _ _ => ampersand_not_mem_of_pairText).mp h) hdistinct

theorem readParts_none {start : Nat} {list : List Char} {cs : List Coordinate}
    (h : CoordinatesText list cs) :
    readParts start list none = .complete { coordinates := cs } := by
  simp only [readParts, coordinates?_eq_some_iff.mpr h]

theorem readParts_some {start : Nat} {list options : List Char} {cs : List Coordinate}
    (h : CoordinatesText list cs) :
    readParts start list (some options) =
      readPairs [.coordinates] { coordinates := cs }
        (located (start + width list + 1) (options.splitOn '&')) := by
  simp only [readParts, coordinates?_eq_some_iff.mpr h]

/-- A query that spells a sentence is read to its end, as the parameters of the
sentence. -/
theorem read_of_spells {s : Sentence} {query : List Char} (h : s.Spells query) :
    read query = .complete s.parameters := by
  cases h with
  | @alone list hlist hnone =>
    have hread := read_of_coordinatesText s.layout hlist none
    rw [behind, List.append_nil, readParts_none hlist] at hread
    rw [hread, Sentence.parameters, hnone]
    rfl
  | @withOptions list options hlist hoptions =>
    have hread := read_of_coordinatesText s.layout hlist (some options)
    rw [behind, readParts_some hlist, readPairs_of_separated hoptions s.distinct] at hread
    exact hread

/-- A text that begins with a pair has it for its first piece. -/
theorem splitOn_of_endsPair {bad tail : List Char} (hbad : '&' ∉ bad) (htail : EndsPair tail) :
    ∃ more, (bad ++ tail).splitOn '&' = bad :: more := by
  cases tail with
  | nil => exact ⟨[], by rw [List.append_nil, List.splitOn_eq_singleton hbad]⟩
  | cons c rest =>
    rw [htail c (by simp), List.splitOn_append_cons_self_of_not_mem hbad]
    exact ⟨rest.splitOn '&', rfl⟩

/-- A rejected pair behind accepted ones stops the reading in front of it. -/
theorem readPairs_of_rejected {p : Parameters} {start : Nat} {good more : List (List Char)}
    {settings : List Setting} {bad : List Char} {e : PairError}
    (hgood : List.Forall₂ PairText good settings)
    (hdistinct : (settings.map Setting.key).Nodup)
    (hbad : Rejected (settings.map Setting.key) bad e) :
    readPairs [.coordinates] p (located start (good ++ bad :: more)) =
      .stopped (settings.foldl (fun p s => s.put p) p) (start + extent good - 1) e := by
  obtain ⟨seen, hseen, hrun⟩ := readPairs_append seen_nil p start
    (bad :: more) hgood (by simpa using hdistinct)
  rw [List.nil_append] at hseen
  rw [hrun, located_cons, readPairs, (readPair_eq_error_iff hseen).mpr hbad]

theorem Sentence.nextSeparator_of_eq_nil (s : Sentence) (h : s.settings = []) :
    s.nextSeparator = s.layout.separator := by
  cases hl : s.layout <;> simp [Sentence.nextSeparator, Layout.separator, hl, h]

theorem Sentence.nextSeparator_of_ne_nil (s : Sentence) (h : s.settings ≠ []) :
    s.nextSeparator = '&' := if_neg fun hbare => h hbare.2

theorem Sentence.nextSeparator_cases (s : Sentence) :
    s.nextSeparator = '&' ∨ s.nextSeparator = '?' := by
  by_cases h : s.settings = []
  · rw [s.nextSeparator_of_eq_nil h]
    cases s.layout with
    | keyed => exact .inl rfl
    | bare => exact .inr rfl
  · exact .inl (s.nextSeparator_of_ne_nil h)

/-- A text of a sentence with more behind it is the same list of coordinates with
more options. The pairs of the sentence come first, and the bytes of the text
are those of its parts. -/
theorem Sentence.Spells.extend {s : Sentence} {head : List Char} (h : s.Spells head)
    (rest : List Char) : ∃ list good options, CoordinatesText list s.coordinates ∧
      List.Forall₂ PairText good s.settings ∧
      head ++ s.nextSeparator :: rest =
        s.layout.opening ++ (list ++ behind s.layout (some options)) ∧
      options.splitOn '&' = good ++ rest.splitOn '&' ∧
      width head = width s.layout.opening + width list + extent good := by
  cases h with
  | @alone list hlist hnone =>
    refine ⟨list, [], rest, hlist, by rw [hnone]; exact .nil, ?_, rfl, by simp⟩
    rw [s.nextSeparator_of_eq_nil hnone, behind, List.append_assoc]
  | @withOptions list options hlist hoptions =>
    have hall := (separated_iff_splitOn fun _ _ => ampersand_not_mem_of_pairText).mp hoptions
    refine ⟨list, options.splitOn '&', options ++ '&' :: rest, hlist, hall, ?_,
      List.splitOn_append_cons_self options rest, ?_⟩
    · rw [s.nextSeparator_of_ne_nil hoptions.values_ne_nil, behind]
      simp
    · have hwidth := width_intercalate (show '&'.utf8Size = 1 by decide)
        (List.splitOn_ne_nil '&' options)
      rw [List.intercalate_splitOn] at hwidth
      rw [width_append, width_append, width_cons, s.layout.utf8Size_separator]
      omega

/-- A rejected pair behind a text of a sentence stops the reading at the separator
between them. What the sentence says is kept, and what follows the pair is not
looked at. -/
theorem read_of_firstRejected {query : List Char} {s : Sentence} {head bad tail : List Char}
    {e : PairError} (h : FirstRejected query s head bad tail e) :
    read query = .stopped s.parameters (width head) e := by
  obtain ⟨list, good, options, hlist, hgood, htext, hsplit, hwidth⟩ := h.spells.extend (bad ++ tail)
  obtain ⟨more, hmore⟩ := splitOn_of_endsPair h.pair h.ends
  rw [h.text, htext, read_of_coordinatesText s.layout hlist, readParts_some hlist, hsplit, hmore,
    readPairs_of_rejected hgood s.distinct h.rejected, Sentence.parameters,
    show width s.layout.opening + width list + 1 + extent good - 1 = width head by omega]

/-! ## Texts of sentences -/

theorem Sentence.Spells.ne_nil {s : Sentence} {head : List Char} (h : s.Spells head) :
    head ≠ [] := by
  cases h with
  | alone hlist _ => exact List.append_ne_nil_of_right_ne_nil _ hlist.ne_nil
  | withOptions _ _ => simp

theorem options_ne_nil {options : List Char} {settings : List Setting}
    (h : Separated '&' PairText options settings) : options ≠ [] := by
  intro hnil
  have hall := (separated_iff_splitOn fun _ _ => ampersand_not_mem_of_pairText).mp h
  rw [hnil, List.splitOn_nil] at hall
  cases hall with
  | cons hpair _ =>
    have hequals := hpair.equals_mem
    cases hequals

theorem questionMark_not_mem_options {options : List Char} {settings : List Setting}
    (h : Separated '&' PairText options settings) : '?' ∉ options := by
  have hall : ∀ c ∈ options, c ≠ '?' :=
    h.forall_mem (by decide) fun _ _ hpair c hc => (hpair.isValueChar c hc).ne (.inr (.inl rfl))
  exact fun hmem => hall _ hmem rfl

/-- A question mark in a text of a sentence ends the coordinates and has options
behind it. -/
theorem Sentence.Spells.behind_questionMark {s : Sentence} {before after : List Char}
    (h : s.Spells (before ++ '?' :: after)) (hbefore : '?' ∉ before) : after ≠ [] := by
  generalize hhead : before ++ '?' :: after = head at h
  have hmark : '?' ∈ head := by simp [← hhead]
  have hopening : '?' ∉ s.layout.opening := by cases s.layout <;> decide
  cases h with
  | alone hlist _ =>
    rcases List.mem_append.mp hmark with hmem | hmem
    · exact absurd hmem hopening
    · exact absurd hmem (hlist.separator_not_mem .bare)
  | @withOptions list options hlist hoptions =>
    cases hlayout : s.layout with
    | keyed =>
      rw [hlayout] at hmark hopening
      rcases List.mem_append.mp hmark with hmem | hmem
      · exact absurd hmem hopening
      · rcases List.mem_append.mp hmem with hmem | hmem
        · exact absurd hmem (hlist.separator_not_mem .bare)
        · have hoption : '?' ∈ options := List.mem_of_ne_of_mem (by decide) hmem
          exact absurd hoption (questionMark_not_mem_options hoptions)
    | bare =>
      rw [hlayout] at hhead
      have hcut : cut '?' (before ++ '?' :: after) = some (list, options) :=
        cut_eq_some_iff.mpr ⟨hhead, hlist.separator_not_mem .bare⟩
      rw [cut_eq_some_iff.mpr ⟨rfl, hbefore⟩] at hcut
      cases hcut
      exact options_ne_nil hoptions

/-! ## The three kinds of queries -/

/-- Without good coordinates nothing is read. -/
theorem read_of_noCoordinates {query : List Char}
    (h : ∀ cs, ¬ CoordinatesText (coordinateText query) cs) :
    read query = .noCoordinates (String.ofList (coordinateText query)) := by
  obtain ⟨q, rfl⟩ := exists_parts query
  rw [q.coordinateText_text] at h ⊢
  have hnone : coordinates? q.list = none :=
    Option.eq_none_iff_forall_ne_some.mpr fun cs hcs => h cs (coordinates?_eq_some_iff.mp hcs)
  rw [q.read_text, readParts, hnone]

/-- A query is rejected behind good coordinates only. -/
theorem FirstRejected.exists_coordinates {query : List Char} {s : Sentence}
    {head bad tail : List Char} {e : PairError} (h : FirstRejected query s head bad tail e) :
    ∃ cs, CoordinatesText (coordinateText query) cs := by
  by_contra hnone
  have hread := read_of_noCoordinates (not_exists.mp hnone)
  rw [read_of_firstRejected h] at hread
  cases hread

/-- Pieces of which one is rejected are joined from an accepted text, that piece and
a tail. -/
theorem exists_tail (bad : List Char) (more : List (List Char)) :
    ∃ tail, EndsPair tail ∧ ['&'].intercalate (bad :: more) = bad ++ tail := by
  cases more with
  | nil => exact ⟨[], by simp [EndsPair], by simp⟩
  | cons next more =>
    exact ⟨'&' :: ['&'].intercalate (next :: more), by simp [EndsPair], by simp⟩

/-- Accepted pairs behind a list of coordinates make a text of a sentence, and
further pairs stand behind its separator. -/
theorem Sentence.exists_head (s : Sentence) {list : List Char} {good more : List (List Char)}
    (hlist : CoordinatesText list s.coordinates) (hgood : List.Forall₂ PairText good s.settings)
    (hmore : more ≠ []) : ∃ head, s.Spells head ∧
      s.layout.opening ++ (list ++ behind s.layout (some (['&'].intercalate (good ++ more)))) =
        head ++ s.nextSeparator :: ['&'].intercalate more := by
  cases good with
  | nil =>
    have hnone : s.settings = [] := List.forall₂_nil_left_iff.mp hgood
    refine ⟨s.layout.opening ++ list, .alone hlist hnone, ?_⟩
    rw [s.nextSeparator_of_eq_nil hnone, behind, List.nil_append, List.append_assoc]
  | cons pair good =>
    have hoptions : Separated '&' PairText (['&'].intercalate (pair :: good)) s.settings :=
      ⟨pair :: good, by simp, rfl, hgood⟩
    refine ⟨_, .withOptions hlist hoptions, ?_⟩
    rw [s.nextSeparator_of_ne_nil hoptions.values_ne_nil, behind,
      intercalate_append (by simp) hmore]
    simp

/-- There are three kinds of queries: those without good coordinates, those that
spell a sentence, and those with a first rejected pair behind a text of a
sentence. -/
theorem query_cases (query : List Char) :
    (∀ cs, ¬ CoordinatesText (coordinateText query) cs) ∨
    (∃ s : Sentence, s.Spells query) ∨
    ∃ s head bad tail e, FirstRejected query s head bad tail e := by
  obtain ⟨⟨layout, list, options, hopens, hends⟩, htext⟩ := exists_parts query
  have hlist : coordinateText query = list := htext ▸ Parts.coordinateText_text _
  have hquery : query = layout.opening ++ (list ++ behind layout options) := htext.symm
  by_cases hgood : ∃ cs, CoordinatesText list cs
  · obtain ⟨cs, hcs⟩ := hgood
    cases options with
    | none =>
      let s : Sentence := { layout, coordinates := cs, settings := [], distinct := by simp }
      have hs : s.Spells query := by
        rw [hquery, behind, List.append_nil]
        exact .alone hcs rfl
      exact .inr (.inl ⟨s, hs⟩)
    | some options =>
      rcases accepted_or_rejected List.nodup_nil (options.splitOn '&') with
        ⟨settings, hall, hnodup⟩ | ⟨good, settings, bad, more, e, hsplit, hall, hnodup, hrejected⟩
      · let s : Sentence := { layout, coordinates := cs, settings, distinct := hnodup }
        have hoptions : Separated '&' PairText options settings :=
          (separated_iff_splitOn fun _ _ => ampersand_not_mem_of_pairText).mpr hall
        have hs : s.Spells query := by
          rw [hquery, behind]
          exact .withOptions hcs hoptions
        exact .inr (.inl ⟨s, hs⟩)
      · let s : Sentence := { layout, coordinates := cs, settings, distinct := hnodup }
        have hbad : '&' ∉ bad :=
          not_mem_of_mem_splitOn (show bad ∈ options.splitOn '&' by rw [hsplit]; simp)
        obtain ⟨tail, htail, hjoined⟩ := exists_tail bad more
        obtain ⟨head, hs, htext⟩ := s.exists_head hcs hall (List.cons_ne_nil bad more)
        have hparted : query = head ++ s.nextSeparator :: (bad ++ tail) := by
          rw [← hjoined, ← htext, ← hsplit, List.intercalate_splitOn, hquery]
        exact .inr (.inr ⟨s, head, bad, tail, e, hparted, hs, hbad, htail, hrejected⟩)
  · exact .inl (hlist ▸ not_exists.mp hgood)

end RoutingGateway.Query
