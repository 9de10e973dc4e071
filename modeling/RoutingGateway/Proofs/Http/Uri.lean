/-
Request URIs by the parts of their texts.

Of a URI the path and the query are kept as they stand in its text, with the question mark
between them (`Uri.target`). The fragment behind them is dropped, and so are the scheme and
the authority in front of them, where there are any (`Uri.read_parts`).

A URI that is a path with a query is nothing but that. So there is one request for such a text,
whichever way it is made (`Request.ofUri_eq_ofTarget`).
-/
import Mathlib.Data.List.TakeWhile
import RoutingGateway.Http.Request

namespace RoutingGateway.Http

open RoutingGateway.Text

namespace Uri

/-! ## Path and query in the text -/

/-- Path and query as they stand in the text of the URI. -/
def target (uri : Uri) : List Char :=
  uri.path.toList ++
    match uri.query with
    | none => []
    | some query => '?' :: query.toList

/-- The text begins with a hash, or it is empty. -/
def IsFragment (text : List Char) : Prop := ∀ c ∈ text.head?, c = '#'

/-- What ends a path. -/
def endsPath (c : Char) : Bool := c = '?' || c = '#'

theorem mem_upTo {stop : Char → Bool} {text : List Char} {c : Char} (h : c ∈ upTo stop text) :
    stop c = false := by
  have hkept := List.mem_takeWhile_imp h
  simpa using hkept

theorem head?_startingAt (stop : Char → Bool) (text : List Char) :
    ∀ c ∈ (startingAt stop text).head?, stop c = true := by
  intro c hc
  have hdropped := List.head?_dropWhile_not (fun c => !stop c) text
  unfold startingAt at hc
  rw [hc] at hdropped
  simpa using hdropped

theorem upTo_append_startingAt (stop : Char → Bool) (text : List Char) :
    upTo stop text ++ startingAt stop text = text :=
  List.takeWhile_append_dropWhile

/-- What is read as a target is path and query, with a fragment behind them. -/
theorem readTarget_parts {text : List Char} {uri : Uri} (h : readTarget text = .ok uri) :
    ∃ fragment, text = uri.target ++ fragment ∧ IsFragment fragment ∧ '#' ∉ uri.target ∧
      '?' ∉ uri.path.toList := by
  have htext := upTo_append_startingAt endsPath text
  have hends : ∀ c ∈ upTo endsPath text, endsPath c = false := fun c => mem_upTo
  have hhead := head?_startingAt endsPath text
  generalize hpath : upTo endsPath text = path at htext hends
  generalize hrest : startingAt endsPath text = rest at htext hhead
  have hmark : '?' ∉ path := fun hc => absurd (hends _ hc) (by decide)
  have hhash : '#' ∉ path := fun hc => absurd (hends _ hc) (by decide)
  unfold endsPath at hpath hrest
  unfold readTarget at h
  simp only [hpath, hrest] at h
  split at h
  · cases h
  · split at h
    · next query =>
      split at h
      · cases h
        have hquery := upTo_append_startingAt (· = '#') query
        refine ⟨startingAt (· = '#') query, ?_, fun c hc => ?_, ?_, ?_⟩
        · simp [target, ← htext, hquery]
        · simpa using head?_startingAt (· = '#') query c hc
        · have hnot : '#' ∉ upTo (· = '#') query := fun hc => by simpa using mem_upTo hc
          simp [target, hhash, hnot]
        · simpa using hmark
      · cases h
    · next hother =>
      cases h
      refine ⟨rest, ?_, fun c hc => ?_, ?_, ?_⟩
      · simp [target, ← htext]
      · obtain ⟨more, hmore⟩ := List.head?_eq_some_iff.mp hc
        have hc' : c = '?' ∨ c = '#' := by simpa [endsPath] using hhead c hc
        exact hc'.resolve_left fun e => hother more (e ▸ hmore)
      · simpa [target] using hhash
      · simpa using hmark

/-! ## In front of path and query -/

/-- What ends an authority. -/
def endsAuthority (c : Char) : Bool := c = '/' || c = '?' || c = '#'

/-- What may stand in front of path and query: nothing, or a scheme and an authority. -/
inductive Front : List Char → Prop
  | empty : Front []
  | authority {scheme authority : List Char} : (∀ c ∈ scheme, isSchemeChar c = true) →
      authority ≠ [] → (∀ c ∈ authority, endsAuthority c = false) →
      Front (scheme ++ ("://".toList ++ authority))

/-- What a reader returns in the end, its first step has made possible. -/
theorem exists_of_bind_eq_ok {ε α β : Type} {first : Except ε α} {next : α → Except ε β} {b : β}
    (h : first >>= next = .ok b) : ∃ a, first = .ok a ∧ next a = .ok b := by
  cases first with
  | error e => cases h
  | ok a => exact ⟨a, rfl, h⟩

theorem afterScheme?_parts {text rest : List Char} (h : afterScheme? text = .ok (some rest)) :
    ∃ scheme, text = scheme ++ ("://".toList ++ rest) ∧ ∀ c ∈ scheme, isSchemeChar c = true := by
  obtain ⟨behind, hbehind⟩ := List.takeWhile_prefix isSchemeChar (l := text)
  have hdrop : (text.takeWhile isSchemeChar ++ behind).drop (text.takeWhile isSchemeChar).length =
      behind := List.drop_left
  rw [hbehind] at hdrop
  unfold afterScheme? at h
  simp only [hdrop] at h
  split at h
  · split at h
    · cases h
    · cases h
      exact ⟨_, hbehind.symm, fun c hc => List.mem_takeWhile_imp hc⟩
  · cases h

theorem readAuthority_parts {text authority rest : List Char}
    (h : readAuthority text = .ok (authority, rest)) :
    text = authority ++ rest ∧ ∀ c ∈ authority, endsAuthority c = false := by
  obtain ⟨s, -, hparts⟩ := exists_of_bind_eq_ok h
  have hsame : (upTo endsAuthority text, startingAt endsAuthority text) = (authority, rest) := by
    split at hparts
    · cases hparts
    · exact Except.ok.inj hparts
  cases hsame
  exact ⟨(upTo_append_startingAt endsAuthority text).symm, fun c => mem_upTo⟩

/-- A text that begins with a slash is read as a target. Any other text is a star or an authority,
or it is an authority behind a scheme; what follows then is read as a target, with a slash for an
empty path. -/
theorem read_cases {text : String} {uri : Uri} (h : Uri.read text = .ok uri) :
    (text.toList.head? = some '/' ∧ readTarget text.toList = .ok uri) ∨
    (text.toList.head? ≠ some '/' ∧ (uri.path ∈ ["*", "", "/"] ∨ ∃ behind authority rest,
      afterScheme? text.toList = .ok (some behind) ∧
      readAuthority behind = .ok (authority, rest) ∧ authority ≠ [] ∧
      readTarget rest = .ok uri)) := by
  unfold Uri.read at h
  generalize text.toList = chars at h
  by_cases hlong : 65534 < width chars
  · simp only [if_pos hlong] at h
    cases h
  simp only [if_neg hlong] at h
  split at h
  · cases h
  · cases h
    exact .inr ⟨by decide, .inl (by decide)⟩
  · exact .inl ⟨rfl, h⟩
  · next hslash =>
    have hhead : chars.head? ≠ some '/' := by
      intro hhead
      obtain ⟨rest, hrest⟩ := List.head?_eq_some_iff.mp hhead
      exact hslash rest hrest
    refine .inr ⟨hhead, ?_⟩
    obtain ⟨scheme?, hscheme, h⟩ := exists_of_bind_eq_ok h
    cases scheme? with
    | none =>
      obtain ⟨parts, -, h⟩ := exists_of_bind_eq_ok h
      split at h
      · cases h
      · cases h
        exact .inl (by decide)
    | some behind =>
      obtain ⟨⟨authority, rest⟩, hauthority, h⟩ := exists_of_bind_eq_ok h
      split at h
      · cases h
      · next hne =>
        obtain ⟨target, htarget, h⟩ := exists_of_bind_eq_ok h
        split at h
        · cases h
          exact .inl (by simp)
        · cases h
          exact .inr ⟨behind, authority, rest, hscheme, hauthority, hne, htarget⟩

/-- There is no question mark in a path. -/
theorem questionMark_not_mem_path {text : String} {uri : Uri} (h : Uri.read text = .ok uri) :
    '?' ∉ uri.path.toList := by
  rcases read_cases h with ⟨-, htarget⟩ | ⟨-, hfixed | ⟨_, _, _, -, -, -, htarget⟩⟩
  · obtain ⟨_, -, -, -, hmark⟩ := readTarget_parts htarget
    exact hmark
  · have hall : ∀ path ∈ ["*", "", "/"], '?' ∉ path.toList := by decide
    exact hall _ hfixed
  · obtain ⟨_, -, -, -, hmark⟩ := readTarget_parts htarget
    exact hmark

/-- The text of a URI with a path of some length is path and query, with what may stand in front
of them and a fragment behind them. -/
theorem read_parts {text : String} {uri : Uri} (h : Uri.read text = .ok uri)
    (hpath : 1 < uri.path.toList.length) :
    ∃ front fragment, text.toList = front ++ (uri.target ++ fragment) ∧ Front front ∧
      (front = [] ↔ text.toList.head? = some '/') ∧
      IsFragment fragment ∧ '#' ∉ uri.target := by
  rcases read_cases h with ⟨hhead, htarget⟩ |
    ⟨hhead, hfixed | ⟨behind, authority, rest, hscheme, hauthority, hne, htarget⟩⟩
  · obtain ⟨fragment, htext, hfragment, hhash, -⟩ := readTarget_parts htarget
    exact ⟨[], fragment, htext, .empty, by simp [hhead], hfragment, hhash⟩
  · have hall : ∀ path ∈ ["*", "", "/"], ¬ 1 < path.toList.length := by decide
    exact absurd hpath (hall _ hfixed)
  · obtain ⟨scheme, hchars, hschemeChars⟩ := afterScheme?_parts hscheme
    obtain ⟨hbehind, hends⟩ := readAuthority_parts hauthority
    obtain ⟨fragment, htext, hfragment, hhash, -⟩ := readTarget_parts htarget
    refine ⟨scheme ++ ("://".toList ++ authority), fragment, ?_,
      .authority hschemeChars hne hends, by simp [hhead], hfragment, hhash⟩
    rw [hchars, hbehind, htext]
    simp only [List.append_assoc]

end Uri

/-! ## Paths with a query -/

/-- The text is a path with a query or without one: it begins with a slash, and there is no
fragment. -/
structure OriginForm (text : String) : Prop where
  slash : text.toList.head? = some '/'
  fragment : '#' ∉ text.toList

/-- Such a text is path and query of its URI, and nothing else. -/
theorem OriginForm.target {text : String} (h : OriginForm text) {uri : Uri}
    (hread : Uri.read text = .ok uri) : text.toList = uri.target := by
  rcases Uri.read_cases hread with ⟨-, htarget⟩ | ⟨hhead, -⟩
  · obtain ⟨fragment, htext, hfragment, -⟩ := Uri.readTarget_parts htarget
    cases fragment with
    | nil => rw [htext, List.append_nil]
    | cons c more =>
      have hhash : '#' ∈ text.toList := by
        rw [htext, hfragment c rfl]
        simp
      exact absurd hhash h.fragment
  · exact absurd h.slash hhead

/-- The request for a path with a query is the same, whether the text is read as a URI or cut as
a target. -/
theorem Request.ofUri_eq_ofTarget {text : String} (h : OriginForm text) {uri : Uri}
    (hread : Uri.read text = .ok uri) (method : Method) (headers : Headers) :
    Request.ofUri method uri headers = { Request.ofTarget method text with headers } := by
  have htext := h.target hread
  have hmark := Uri.questionMark_not_mem_path hread
  obtain ⟨path, query⟩ := uri
  unfold ofUri ofTarget
  cases query with
  | none =>
    simp only [Uri.target, List.append_nil] at htext
    have hcut : cut '?' text.toList = none := cut_eq_none_iff.mpr (htext ▸ hmark)
    rw [hcut, String.toList_inj.mp htext]
  | some query =>
    have hcut : cut '?' text.toList = some (path.toList, query.toList) :=
      cut_eq_some_iff.mpr ⟨htext, hmark⟩
    simp only [hcut, String.ofList_toList]

end RoutingGateway.Http
