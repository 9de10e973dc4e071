/-
The scan over the pairs of a query.

The text of the options is cut at its ampersands, and each piece has the byte offset at which it
begins. These offsets are kept by counting, piece by piece, and the whole scan rests on one
fact about what was counted: it is the width of the text in front of the piece
(`exists_around`). So a piece stands where its offset says, also behind empty pieces and behind
characters of several bytes (`standsAt_of_mem_located`).

In the query the options stand behind the coordinates, and each pair has a separator in front of
it (`Parts.exists_separator`). That is the place a reading tells if it stops
(`Parts.exists_of_read_eq_stopped`).
-/
import RoutingGateway.Proofs.Query.Entries
import RoutingGateway.Proofs.Text.Utf8

namespace RoutingGateway

open RoutingGateway.Text

namespace Text

/-! ## Bytes of a part -/

/-- The bytes of the piece stand at byte `place` of the text, and begin there with a character. -/
structure StandsAt (text : String) (place : Nat) (piece : List Char) : Prop where
  bytes : ((utf8 text).drop place).take (width piece) = utf8 (String.ofList piece)
  boundary : String.Pos.Raw.IsValid text ⟨place⟩

theorem length_utf8_ofList (text : List Char) :
    (utf8 (String.ofList text)).length = width text := by
  rw [length_utf8, utf8ByteSize_ofList]

theorem utf8_of_toList {text : String} {before after : List Char}
    (h : text.toList = before ++ after) :
    utf8 text = utf8 (String.ofList before) ++ utf8 (String.ofList after) := by
  rw [← utf8_append, ← String.ofList_append, ← h, String.ofList_toList]

theorem standsAt_of_toList {text : String} {before piece after : List Char}
    (h : text.toList = before ++ (piece ++ after)) : StandsAt text (width before) piece where
  bytes := by
    rw [utf8_of_toList h, List.drop_left' (length_utf8_ofList before), String.ofList_append,
      utf8_append, List.take_left' (length_utf8_ofList piece)]
  boundary := by
    refine String.Pos.Raw.isValid_iff_exists_append.mpr
      ⟨String.ofList before, String.ofList (piece ++ after), ?_, ?_⟩
    · rw [← String.ofList_append, ← h, String.ofList_toList]
    · rw [String.rawEndPos, utf8ByteSize_ofList]

/-- A character of one byte is found at its place. -/
theorem utf8_getElem?_of_toList {text : String} {before after : List Char} {c : Char}
    (h : text.toList = before ++ c :: after) (hc : c.utf8Size = 1) :
    (utf8 text)[width before]? = some c.toUInt8 := by
  have hbyte : utf8 (String.ofList [c]) = [c.toUInt8] := by
    rw [utf8_eq_flatMap, String.toList_ofList, List.flatMap_singleton,
      String.utf8EncodeChar_eq_singleton hc]
    rfl
  have hafter : utf8 (String.ofList (c :: after)) = c.toUInt8 :: utf8 (String.ofList after) := by
    rw [← List.singleton_append, String.ofList_append, utf8_append, hbyte, List.singleton_append]
  rw [utf8_of_toList h, List.getElem?_append_right (Nat.le_of_eq (length_utf8_ofList before)),
    length_utf8_ofList, Nat.sub_self, hafter, List.getElem?_cons_zero]

/-- A piece stands one byte behind the separator in front of it. -/
theorem standsAt_of_separator {text : String} {before piece after : List Char} {c : Char}
    (h : text.toList = before ++ c :: (piece ++ after)) (hc : c.utf8Size = 1) :
    StandsAt text (width before + 1) piece := by
  have hwidth : width (before ++ [c]) = width before + 1 := by
    rw [width_append, width_cons, hc, width_nil]
  have hsplit : text.toList = (before ++ [c]) ++ (piece ++ after) := by
    rw [h, List.append_assoc, List.singleton_append]
  exact hwidth ▸ standsAt_of_toList hsplit

/-! ## Located pieces -/

theorem length_located (start : Nat) (pieces : List (List Char)) :
    (located start pieces).length = pieces.length := by
  induction pieces generalizing start with
  | nil => rfl
  | cons piece rest ih => rw [located_cons, List.length_cons, ih, List.length_cons]

theorem map_snd_located (start : Nat) (pieces : List (List Char)) :
    (located start pieces).map Prod.snd = pieces := by
  induction pieces generalizing start with
  | nil => rfl
  | cons piece rest ih => rw [located_cons, List.map_cons, ih]

/-- Every piece begins one byte behind the end of the one in front of it. -/
theorem isChain_located (start : Nat) (pieces : List (List Char)) :
    (located start pieces).IsChain fun a b => b.1 = a.1 + width a.2 + 1 := by
  induction pieces generalizing start with
  | nil => exact .nil
  | cons piece rest ih =>
    cases rest with
    | nil => exact .singleton _
    | cons next rest => exact .cons_cons rfl (ih _)

/-- Further back, all pieces stand further back. -/
theorem located_add (base start : Nat) (pieces : List (List Char)) :
    located (base + start) pieces =
      (located start pieces).map fun item => (base + item.1, item.2) := by
  induction pieces generalizing start with
  | nil => rfl
  | cons piece rest ih =>
    have hnext : base + start + width piece + 1 = base + (start + width piece + 1) := by omega
    rw [located_cons, located_cons, List.map_cons, hnext, ih]

/-- A piece begins behind the bytes of the pieces in front of it. -/
theorem exists_of_mem_located {start place : Nat} {pieces : List (List Char)} {piece : List Char}
    (h : (place, piece) ∈ located start pieces) :
    ∃ front rest, pieces = front ++ piece :: rest ∧ place = start + extent front := by
  induction pieces generalizing start with
  | nil => cases h
  | cons first more ih =>
    rw [located_cons] at h
    rcases List.mem_cons.mp h with h | h
    · cases h
      exact ⟨[], more, rfl, rfl⟩
    · obtain ⟨front, rest, hpieces, hplace⟩ := ih h
      refine ⟨first :: front, rest, by rw [hpieces, List.cons_append], ?_⟩
      rw [hplace, extent_cons]
      omega

/-- The last piece ends with the bytes of all pieces. -/
theorem exists_getLast?_located (start : Nat) {pieces : List (List Char)} (h : pieces ≠ []) :
    ∃ place piece, (located start pieces).getLast? = some (place, piece) ∧
      place + width piece + 1 = start + extent pieces := by
  induction pieces generalizing start with
  | nil => exact absurd rfl h
  | cons first rest ih =>
    cases rest with
    | nil => exact ⟨start, first, rfl, by rw [extent_cons, extent_nil]; omega⟩
    | cons next rest =>
      obtain ⟨place, piece, hlast, hend⟩ := ih (start + width first + 1) (List.cons_ne_nil _ _)
      refine ⟨place, piece, ?_, by rw [hend, extent_cons first]; omega⟩
      rw [located_cons, located_cons, List.getLast?_cons_cons, ← located_cons, hlast]

end Text

namespace Query

/-! ## Pairs of a text -/

/-- A piece begins with the text, or behind an ampersand of the text that was counted. -/
theorem exists_around {text : List Char} {place : Nat} {piece : List Char}
    (h : (place, piece) ∈ located 0 (text.splitOn '&')) :
    ∃ tail, (place = 0 ∧ text = piece ++ tail) ∨
      ∃ before, text = before ++ '&' :: (piece ++ tail) ∧ width before + 1 = place := by
  obtain ⟨front, rest, hpieces, hplace⟩ := exists_of_mem_located h
  obtain ⟨tail, -, htail⟩ := exists_tail piece rest
  refine ⟨tail, ?_⟩
  have htext : ['&'].intercalate (front ++ piece :: rest) = text := by
    rw [← hpieces, List.intercalate_splitOn]
  by_cases hfront : front = []
  · subst hfront
    refine .inl ⟨hplace, ?_⟩
    rw [← htext, ← htail, List.nil_append]
  · refine .inr ⟨['&'].intercalate front, ?_, ?_⟩
    · rw [← htext, intercalate_append hfront (List.cons_ne_nil piece rest), htail]
    · rw [width_intercalate (by decide) hfront, hplace, Nat.zero_add]

theorem not_mem_of_mem_located {text : List Char} {place : Nat} {piece : List Char}
    (h : (place, piece) ∈ located 0 (text.splitOn '&')) : '&' ∉ piece := by
  have hmem : piece ∈ (located 0 (text.splitOn '&')).map Prod.snd := List.mem_map_of_mem h
  rw [map_snd_located] at hmem
  exact not_mem_of_mem_splitOn hmem

/-- A piece stands at its offset, and if that is not the beginning of the text, there is an
ampersand in front of it. -/
theorem standsAt_of_mem_located {text : String} {place : Nat} {piece : List Char}
    (h : (place, piece) ∈ located 0 (text.toList.splitOn '&')) :
    StandsAt text place piece ∧ (place = 0 ∨ (utf8 text)[place - 1]? = some '&'.toUInt8) := by
  have hsize : '&'.utf8Size = 1 := by decide
  obtain ⟨tail, ⟨rfl, htext⟩ | ⟨before, htext, rfl⟩⟩ := exists_around h
  · have hsplit : text.toList = [] ++ (piece ++ tail) := htext
    exact ⟨standsAt_of_toList hsplit, .inl rfl⟩
  · exact ⟨standsAt_of_separator htext hsize, .inr (utf8_getElem?_of_toList htext hsize)⟩

/-- The last piece ends where the text does. -/
theorem exists_getLast?_splitOn (text : String) :
    ∃ place piece, (located 0 (text.toList.splitOn '&')).getLast? = some (place, piece) ∧
      place + width piece = text.utf8ByteSize := by
  have hne : text.toList.splitOn '&' ≠ [] := List.splitOn_ne_nil '&' text.toList
  obtain ⟨place, piece, hlast, hend⟩ := exists_getLast?_located 0 hne
  have hwidth := width_intercalate (show '&'.utf8Size = 1 by decide) hne
  rw [List.intercalate_splitOn, ← utf8ByteSize_eq_width] at hwidth
  exact ⟨place, piece, hlast, by omega⟩

/-- Where reading pairs stops, there is a pair behind. -/
theorem exists_of_readPairs_eq_stopped {seen : List Key} {p p' : Parameters}
    {items : List (Nat × List Char)} {stop : Nat} {e : PairError}
    (h : readPairs seen p items = .stopped p' stop e) : ∃ item ∈ items, stop = item.1 - 1 := by
  induction items generalizing seen p with
  | nil => cases h
  | cons item rest ih =>
    obtain ⟨offset, pair⟩ := item
    rw [readPairs] at h
    cases hread : readPair seen p pair with
    | error error =>
      rw [hread] at h
      cases h
      exact ⟨(offset, pair), List.mem_cons_self, rfl⟩
    | ok result =>
      rw [hread] at h
      obtain ⟨item, hitem, hstop⟩ := ih h
      exact ⟨item, List.mem_cons_of_mem _ hitem, hstop⟩

/-! ## Pairs of a query -/

namespace Parts

variable {q : Parts} {options : List Char} (hoptions : q.options = some options)

include hoptions

/-- In front of a pair there is the separator of the layout, if it is the first one, and an
ampersand otherwise. -/
theorem exists_separator {place : Nat} {piece : List Char}
    (h : (place, piece) ∈ located 0 (options.splitOn '&')) :
    ∃ before tail,
      q.text = before ++ (if place = 0 then q.layout.separator else '&') :: (piece ++ tail) ∧
        width before = width q.layout.opening + width q.list + place := by
  have htext : q.text = (q.layout.opening ++ q.list) ++ q.layout.separator :: options := by
    rw [text, hoptions, behind, List.append_assoc]
  obtain ⟨tail, ⟨rfl, hpiece⟩ | ⟨before, hpiece, rfl⟩⟩ := exists_around h
  · refine ⟨q.layout.opening ++ q.list, tail, ?_, width_append _ _⟩
    rw [if_pos rfl, ← hpiece, htext]
  · refine ⟨q.layout.opening ++ q.list ++ q.layout.separator :: before, tail, ?_, ?_⟩
    · rw [if_neg (Nat.succ_ne_zero _), htext, hpiece, List.append_assoc (_ ++ _), List.cons_append]
    · rw [width_append, width_append, width_cons, q.layout.utf8Size_separator]
      omega

/-- A pair stands in the query at its offset behind the separator of the coordinates, and the byte
in front of it is its separator. -/
theorem standsAt_of_mem_located {query : String} (hquery : query.toList = q.text) {place : Nat}
    {piece : List Char} (h : (place, piece) ∈ located 0 (options.splitOn '&')) :
    StandsAt query (width q.layout.opening + width q.list + 1 + place) piece ∧
      (utf8 query)[width q.layout.opening + width q.list + 1 + place - 1]? =
        some (if place = 0 then q.layout.separator else '&').toUInt8 := by
  obtain ⟨before, tail, htext, hwidth⟩ := exists_separator hoptions h
  have hplace : width q.layout.opening + width q.list + 1 + place = width before + 1 := by omega
  have hsize : (if place = 0 then q.layout.separator else '&').utf8Size = 1 := by
    split
    · exact q.layout.utf8Size_separator
    · decide
  rw [← hquery] at htext
  rw [hplace, Nat.add_sub_cancel]
  exact ⟨standsAt_of_separator htext hsize, utf8_getElem?_of_toList htext hsize⟩

/-- A query is read by the pieces of its options, moved back behind the coordinates. -/
theorem read_text_of_items :
    read q.text =
      match coordinates? q.list with
      | none => .noCoordinates (String.ofList q.list)
      | some coordinates =>
        readPairs [.coordinates] { coordinates } ((located 0 (options.splitOn '&')).map
          fun item => (width q.layout.opening + width q.list + 1 + item.1, item.2)) := by
  have hpairs : q.pairs = options.splitOn '&' := by simp only [pairs, hoptions]
  have hread := q.read_text_of_pairs
  rw [hpairs, ← Nat.add_zero (_ + 1), located_add] at hread
  exact hread

/-- A reading stops at the place in front of one of the pieces. -/
theorem exists_of_read_eq_stopped {p : Parameters} {stop : Nat} {e : PairError}
    (h : read q.text = .stopped p stop e) :
    ∃ item ∈ located 0 (options.splitOn '&'),
      stop = width q.layout.opening + width q.list + 1 + item.1 - 1 := by
  rw [read_text_of_items hoptions] at h
  cases hcoordinates : coordinates? q.list with
  | none =>
    rw [hcoordinates] at h
    cases h
  | some coordinates =>
    rw [hcoordinates] at h
    obtain ⟨moved, hmoved, hstop⟩ := exists_of_readPairs_eq_stopped h
    obtain ⟨item, hitem, rfl⟩ := List.mem_map.mp hmoved
    exact ⟨item, hitem, hstop⟩

end Parts

/-- The scan yields one item more than there are ampersands. No item holds one, each stands in the
text where its offset says, with an ampersand in front of it unless it begins the text; the
offsets follow one another, and the items make up the text to its end.

Where the text is the options of a query, the query is read by these items, each moved back by
what stands in front of the options. The byte in front of each is the separator that ends what
comes before, and a reading that stops tells the place of such a byte. (Every query has its parts,
by `exists_parts`.) -/
theorem scan_items (text : String) :
    let items := located 0 (text.toList.splitOn '&')
    items.length = text.toList.count '&' + 1 ∧
    (∀ place piece, (place, piece) ∈ items → '&' ∉ piece ∧ StandsAt text place piece ∧
      (place = 0 ∨ (utf8 text)[place - 1]? = some '&'.toUInt8)) ∧
    items.IsChain (fun a b => b.1 = a.1 + width a.2 + 1) ∧
    ['&'].intercalate (items.map Prod.snd) = text.toList ∧
    (∃ place piece, items.getLast? = some (place, piece) ∧
      place + width piece = text.utf8ByteSize) ∧
    ∀ (q : Parts) (query : String), q.options = some text.toList → query.toList = q.text →
      let base := width q.layout.opening + width q.list + 1
      (∀ cs, coordinates? q.list = some cs → read query.toList =
        readPairs [.coordinates] { coordinates := cs }
          (items.map fun item => (base + item.1, item.2))) ∧
      (∀ place piece, (place, piece) ∈ items →
        0 < base + place ∧ StandsAt query (base + place) piece ∧
          (utf8 query)[base + place - 1]? =
            some (if place = 0 then q.layout.separator else '&').toUInt8) ∧
      ∀ p stop e, read query.toList = .stopped p stop e →
        ∃ item ∈ items, stop = base + item.1 - 1 := by
  intro items
  have hsnd : items.map Prod.snd = text.toList.splitOn '&' := map_snd_located 0 _
  refine ⟨?_, fun place piece h => ⟨not_mem_of_mem_located h, standsAt_of_mem_located h⟩,
    isChain_located 0 _, ?_, exists_getLast?_splitOn text, ?_⟩
  · rw [length_located, length_splitOn]
  · rw [hsnd, List.intercalate_splitOn]
  · intro q query hoptions hquery base
    refine ⟨fun cs hcs => ?_, fun place piece h => ⟨by omega, ?_⟩, fun p stop e h => ?_⟩
    · rw [hquery, Parts.read_text_of_items hoptions, hcs]
    · exact Parts.standsAt_of_mem_located hoptions hquery h
    · rw [hquery] at h
      exact Parts.exists_of_read_eq_stopped hoptions h

/-- An empty piece has its place too, and a character of two bytes counts for two. -/
example : located 0 ("é=1&&x".toList.splitOn '&') =
    [(0, "é=1".toList), (5, []), (6, "x".toList)] := by decide

end Query

end RoutingGateway
