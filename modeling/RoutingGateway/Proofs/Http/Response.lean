/-
The headers of a response over whole runs.

A response that is made has no headers besides its content type, and from then on headers are
set, under names in any case (`Reached`). Its headers stay in order (`Ordered`): their names are
in lower case, no name stands twice, and the content type is not among them. So what is found
under a name is what was set last under it, in whatever case (`lastSet?`), and what goes out has
one value for each name (`setBy_setAll`).
-/
import Mathlib.Data.List.Induction
import Mathlib.Data.List.Nodup
import RoutingGateway.Proofs.Server.FrontEnd

namespace RoutingGateway.Http

open Middleware (setAll)

/-! ## Names in lower case -/

theorem toLower_toLower (name : String) : name.toLower.toLower = name.toLower := by
  have hchar : Char.toLower ∘ Char.toLower = Char.toLower := by
    funext c
    have hlower : ¬(c.toLower.val ≥ 'A'.val ∧ c.toLower.val ≤ 'Z'.val) := by
      unfold Char.toLower
      split <;> grind
    exact dif_neg hlower
  change (name.map Char.toLower).map Char.toLower = name.map Char.toLower
  rw [String.map_map, hchar]

theorem toLower_contentType : "content-type".toLower = "content-type" := by
  decide +kernel

/-- The values that go out under a name, in whatever case. -/
def WireResponse.values (w : WireResponse) (name : String) : List String :=
  (w.headers.filter fun entry => entry.1.toLower = name.toLower).map Prod.snd

namespace Response

/-! ## Responses in order -/

/-- The names of the headers are in lower case and stand once, the content type not among
them. -/
structure Ordered (r : Response) : Prop where
  lower : ∀ entry ∈ r.headers, entry.1.toLower = entry.1
  apart : ∀ entry ∈ r.headers, entry.1 ≠ "content-type"
  once : (r.headers.map Prod.fst).Nodup

/-- The responses that come about: they are made, headers are set, and anything else may be
written over. -/
inductive Reached : Response → Prop
  | new (status : Nat) (contentType : String) (body : List UInt8) :
      Reached (new status contentType body)
  | ofContainer (status : Nat) (container : Container) : Reached (ofContainer status container)
  | setHeader {r : Response} (name value : String) : Reached r → Reached (r.setHeader name value)
  | write {r r' : Response} : Reached r → r'.headers = r.headers → Reached r'

theorem ordered_of_headers {r r' : Response} (h : r.Ordered) (hheaders : r'.headers = r.headers) :
    r'.Ordered where
  lower := hheaders ▸ h.lower
  apart := hheaders ▸ h.apart
  once := hheaders ▸ h.once

theorem keys_putHeader (name value : String) (headers : List (String × String)) :
    (putHeader name value headers).map Prod.fst = if name ∈ headers.map Prod.fst
      then headers.map Prod.fst else headers.map Prod.fst ++ [name] := by
  induction headers with
  | nil => rfl
  | cons first rest ih =>
    obtain ⟨key, old⟩ := first
    by_cases hkey : key = name
    · simp [putHeader, hkey]
    · simp only [putHeader, hkey, if_false, List.map_cons, ih, List.mem_cons, Ne.symm hkey,
        false_or]
      split <;> rfl

/-- One step. -/
theorem Ordered.setHeader {r : Response} (h : r.Ordered) (name value : String) :
    (r.setHeader name value).Ordered := by
  rw [Response.setHeader]
  split
  case isTrue => exact ordered_of_headers h rfl
  case isFalse hname =>
    refine ⟨fun entry hentry => ?_, fun entry hentry => ?_, ?_⟩
    · rcases mem_putHeader hentry with rfl | hentry
      · exact toLower_toLower name
      · exact h.lower entry hentry
    · rcases mem_putHeader hentry with rfl | hentry
      · exact hname
      · exact h.apart entry hentry
    · rw [keys_putHeader]
      split
      case isTrue => exact h.once
      case isFalse hnew =>
        exact h.once.append (List.nodup_singleton _)
          (List.disjoint_singleton.mpr hnew)

theorem Reached.ordered {r : Response} (h : Reached r) : r.Ordered := by
  induction h with
  | new | ofContainer => exact ⟨nofun, nofun, List.nodup_nil⟩
  | setHeader name value _ ih => exact ih.setHeader name value
  | write _ hheaders ih => exact ordered_of_headers ih hheaders

/-! ## What was set last -/

/-- The value that was set last under a name, in whatever case. -/
def lastSet? (calls : List (String × String)) (name : String) : Option String :=
  ((calls.filter fun call => call.1.toLower = name.toLower).getLast?).map Prod.snd

theorem lastSet?_concat (calls : List (String × String)) (call : String × String)
    (name : String) : lastSet? (calls ++ [call]) name =
      if call.1.toLower = name.toLower then some call.2 else lastSet? calls name := by
  by_cases hname : call.1.toLower = name.toLower <;> simp [lastSet?, hname]

variable {r : Response}

theorem setAll_concat (calls : List (String × String)) (call : String × String) (r : Response) :
    setAll (calls ++ [call]) r = (setAll calls r).setHeader call.1 call.2 :=
  List.foldl_concat ..

theorem ordered_setAll (h : r.Ordered) (calls : List (String × String)) :
    (setAll calls r).Ordered := by
  induction calls using List.reverseRecOn with
  | nil => exact h
  | append_singleton calls call ih =>
    rw [setAll_concat]
    exact ih.setHeader call.1 call.2

theorem header?_setAll {name : String} (h : name.toLower ≠ "content-type")
    (calls : List (String × String)) (r : Response) :
    (setAll calls r).header? name = (lastSet? calls name).or (r.header? name) := by
  induction calls using List.reverseRecOn with
  | nil => rfl
  | append_singleton calls call ih =>
    rw [setAll_concat, lastSet?_concat]
    split
    case isTrue hname =>
      rw [header?, ← hname]
      exact header?_setHeader_self _ (hname ▸ h) _
    case isFalse hname => rw [header?_setHeader_of_ne _ (Ne.symm hname), ih]

theorem status_setHeader (r : Response) (name value : String) :
    (r.setHeader name value).status = r.status := by
  unfold Response.setHeader
  split <;> rfl

theorem contentType_setHeader (r : Response) (name value : String) :
    (r.setHeader name value).contentType =
      if name.toLower = "content-type" then value else r.contentType := by
  unfold Response.setHeader
  split <;> rfl

theorem contentType_setAll (calls : List (String × String)) (r : Response) :
    (setAll calls r).contentType = (lastSet? calls "content-type").getD r.contentType := by
  induction calls using List.reverseRecOn with
  | nil => rfl
  | append_singleton calls call ih =>
    rw [setAll_concat, lastSet?_concat, contentType_setHeader, toLower_contentType, ih]
    split <;> rfl

/-- What is not a header stays. -/
theorem kept_setAll (calls : List (String × String)) (r : Response) :
    (setAll calls r).status = r.status ∧ (setAll calls r).body = r.body := by
  induction calls using List.reverseRecOn with
  | nil => exact ⟨rfl, rfl⟩
  | append_singleton calls call ih =>
    rw [setAll_concat, status_setHeader, body_setHeader]
    exact ih

/-! ## What goes out -/

/-- All that the response says about itself may be sent. -/
def Legal (r : Response) : Prop :=
  isHeaderValue r.contentType = true ∧
    ∀ entry ∈ r.headers, isHeaderName entry.1 = true ∧ isHeaderValue entry.2 = true

theorem fault?_eq_none_iff_legal : r.fault? = none ↔ r.Legal := by
  have htype : headerFault? "content-type" r.contentType = none ↔
      isHeaderValue r.contentType = true := by
    rw [headerFault?_eq_none_iff, and_iff_right (by decide +kernel)]
  simp only [fault?_eq_none_iff, htype, headerFault?_eq_none_iff, Legal]

/-- Where no name stands twice, all that is found under one is what is found first. -/
theorem filter_eq_find?_of_nodup {headers : List (String × String)}
    (h : (headers.map Prod.fst).Nodup) (name : String) :
    headers.filter (fun entry => entry.1 = name) =
      (headers.find? fun entry => entry.1 = name).toList := by
  induction headers with
  | nil => rfl
  | cons first rest ih =>
    obtain ⟨hfirst, hrest⟩ := List.nodup_cons.mp h
    by_cases hname : first.1 = name
    · have hnone : rest.filter (fun entry => entry.1 = name) = [] :=
        List.filter_eq_nil_iff.mpr fun entry hentry hsame =>
          hfirst (List.mem_map.mpr ⟨entry, hentry, (of_decide_eq_true hsame).trans hname.symm⟩)
      simp [hname, hnone]
    · simp [hname, ih hrest]

theorem Ordered.filter_headers (h : r.Ordered) (name : String) :
    (r.headers.filter fun entry => entry.1.toLower = name.toLower).map Prod.snd =
      (r.header? name).toList := by
  have hlower : r.headers.filter (fun entry => entry.1.toLower = name.toLower) =
      r.headers.filter fun entry => entry.1 = name.toLower :=
    List.filter_congr fun entry hentry => by rw [h.lower entry hentry]
  rw [hlower, filter_eq_find?_of_nodup h.once, header?]
  cases r.headers.find? fun entry => entry.1 = name.toLower <;> rfl

theorem Ordered.header?_of_mem (h : r.Ordered) {entry : String × String}
    (hentry : entry ∈ r.headers) : r.header? entry.1 = some entry.2 := by
  have hmem : entry.2 ∈ (r.header? entry.1).toList := by
    rw [← h.filter_headers]
    exact List.mem_map.mpr ⟨entry, List.mem_filter.mpr ⟨hentry, decide_eq_true rfl⟩, rfl⟩
  exact Option.mem_toList.mp hmem

theorem Ordered.header?_contentType (h : r.Ordered) {name : String}
    (hname : name.toLower = "content-type") : r.header? name = none := by
  rw [header?, hname, Option.map_eq_none_iff]
  exact List.find?_eq_none.mpr fun entry hentry hsame =>
    h.apart entry hentry (of_decide_eq_true hsame)

/-- One value goes out for each name. -/
theorem Ordered.values_wire (h : r.Ordered) (hlegal : r.Legal) (name : String) :
    r.wire.values name =
      if name.toLower = "content-type" then [r.contentType] else (r.header? name).toList := by
  rw [wire_of_fault? (fault?_eq_none_iff_legal.mpr hlegal), WireResponse.values]
  simp only [allHeaders, List.filter_cons, toLower_contentType, eq_comm (a := "content-type")]
  split
  case isTrue hname =>
    rw [if_pos (of_decide_eq_true hname), List.map_cons, h.filter_headers,
      h.header?_contentType (of_decide_eq_true hname)]
    rfl
  case isFalse hname =>
    rw [if_neg (mt decide_eq_true hname), h.filter_headers]

/-! ## Whole runs -/

/-- `s` is what comes of `r` when these headers are set, one after the other. -/
structure SetBy (calls : List (String × String)) (r s : Response) : Prop where
  /-- The content type is not among the headers. -/
  apart : ∀ entry ∈ s.headers, entry.1.toLower ≠ "content-type"
  /-- No name stands twice, in whatever case. -/
  once : (s.headers.map fun entry => entry.1.toLower).Nodup
  found : ∀ entry ∈ s.headers, s.header? entry.1 = some entry.2
  /-- A name has the value that was set last, in whatever case. -/
  header : ∀ name, name.toLower ≠ "content-type" →
    s.header? name = (lastSet? calls name).or (r.header? name)
  contentType : s.contentType = (lastSet? calls "content-type").getD r.contentType
  /-- No other name changes. -/
  others : ∀ name value other, other.toLower ≠ name.toLower →
    (s.setHeader name value).header? other = s.header? other
  otherType : ∀ name value, name.toLower ≠ "content-type" →
    (s.setHeader name value).contentType = s.contentType
  /-- The content type goes out once, and so does each name. -/
  sent : s.Legal →
    s.wire.status = (if 100 ≤ r.status ∧ r.status ≤ 999 then r.status else 500) ∧
    s.wire.body = r.body ∧ s.wire.headers.length = s.headers.length + 1 ∧
    ∀ name, s.wire.values name = if name.toLower = "content-type"
      then [(lastSet? calls "content-type").getD r.contentType]
      else ((lastSet? calls name).or (r.header? name)).toList
  spoiled : ¬s.Legal → s.wire =
    { status := 500, headers := [], body := Text.utf8 "Internal Server Error" }

/-- Whatever headers are set, each name has what was set last, and goes out once. -/
theorem setBy_setAll (h : Reached r) (calls : List (String × String)) :
    SetBy calls r (setAll calls r) := by
  have hordered := ordered_setAll h.ordered calls
  obtain ⟨hstatus, hbody⟩ := kept_setAll calls r
  exact
    { apart := fun entry hentry =>
        (hordered.lower entry hentry).trans_ne (hordered.apart entry hentry)
      once := List.map_congr_left hordered.lower ▸ hordered.once
      found := fun entry => hordered.header?_of_mem
      header := fun name hname => header?_setAll hname calls r
      contentType := contentType_setAll calls r
      others := fun name value other hother => header?_setHeader_of_ne _ hother value
      otherType := fun name value hname => by rw [contentType_setHeader, if_neg hname]
      sent := fun hlegal => by
        have hwire := wire_of_fault? (fault?_eq_none_iff_legal.mpr hlegal)
        refine ⟨?_, ?_, ?_, fun name => ?_⟩
        · rw [hwire, hstatus]
        · rw [hwire]
          exact hbody
        · rw [hwire]
          rfl
        · rw [hordered.values_wire hlegal, contentType_setAll]
          exact ite_congr rfl (fun _ => rfl) fun hname => by rw [header?_setAll hname]
      spoiled := fun hspoiled => by
        cases hfault : (setAll calls r).fault? with
        | none => exact absurd (fault?_eq_none_iff_legal.mp hfault) hspoiled
        | some fault => rw [wire, hfault, WireResponse.unsendable] }

/-- One name in two cases, and the content type in between. -/
theorem setBy_setAll_trace :
    Reached (new 404 "text/plain" []) ∧
      SetBy [("X-Trace", "1"), ("CONTENT-TYPE", "text/html"), ("x-trace", "2")]
        (new 404 "text/plain" [])
        { new 404 "text/html" [] with headers := [("x-trace", "2")] } := by
  have hreached := Reached.new 404 "text/plain" []
  have hupper : "X-Trace".toLower = "x-trace" := by decide +kernel
  have hlower : "x-trace".toLower = "x-trace" := by decide +kernel
  have htype : "CONTENT-TYPE".toLower = "content-type" := by decide +kernel
  have hset : setAll [("X-Trace", "1"), ("CONTENT-TYPE", "text/html"), ("x-trace", "2")]
      (new 404 "text/plain" []) =
      { new 404 "text/html" [] with headers := [("x-trace", "2")] } := by
    simp [setAll, Response.setHeader, putHeader, new, hupper, hlower, htype]
  have hsetBy := setBy_setAll hreached
    [("X-Trace", "1"), ("CONTENT-TYPE", "text/html"), ("x-trace", "2")]
  rw [hset] at hsetBy
  exact ⟨hreached, hsetBy⟩

end Response

end RoutingGateway.Http
