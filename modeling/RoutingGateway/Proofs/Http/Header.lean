/-
Headers that are set and found again.

A header that is set is found under its name, and no other one changes. This
holds of requests, which keep the values of a name in the order in which they
came, and of responses, which keep one value for each name. What is found in a
request is readable, and what is readable may be sent. The names that the gateway
makes up for requests are readable (`isReadable_generate`).

A response can be sent when none of its headers has a fault (`fault?_eq_none_iff`).
Setting a header without a fault keeps it so.
-/
import Mathlib.Data.List.Forall2
import RoutingGateway.Http.Request
import RoutingGateway.Http.RequestId
import RoutingGateway.Http.Response

namespace RoutingGateway.Http

/-! ## Readable values -/

/-- What can be read may be sent. -/
theorem isHeaderValue_of_isReadable {value : String} (h : isReadable value = true) :
    isHeaderValue value = true := by
  refine List.all_eq_true.mpr fun c hc => ?_
  have hvisible := List.all_eq_true.mp h c hc
  simp only [isVisible, Bool.or_eq_true, Bool.and_eq_true, decide_eq_true_eq] at hvisible ⊢
  exact hvisible.imp_right fun ⟨hlow, hhigh⟩ => ⟨hlow, Nat.ne_of_lt hhigh⟩

theorem exists_digitChar_of_mem_toDigits {base n : Nat} (hbase : 1 < base) {c : Char}
    (h : c ∈ Nat.toDigits base n) : ∃ d < base, c = d.digitChar := by
  induction n using Nat.strongRecOn with
  | _ n ih =>
    by_cases hn : n < base
    · rw [Nat.toDigits_of_lt_base hn] at h
      exact ⟨n, hn, List.mem_singleton.mp h⟩
    · rw [Nat.toDigits_of_base_le hbase (Nat.le_of_not_lt hn)] at h
      rcases List.mem_append.mp h with h | h
      · exact ih (n / base) (Nat.div_lt_self (by omega) hbase) h
      · exact ⟨n % base, Nat.mod_lt n (by omega), List.mem_singleton.mp h⟩

theorem isVisible_of_mem_hexDigits {n : Nat} {c : Char} (h : c ∈ Text.hexDigits n) :
    isVisible c = true := by
  have hall : ∀ d < 16, isVisible d.digitChar = true := by decide
  obtain ⟨d, hd, rfl⟩ := exists_digitChar_of_mem_toDigits (by decide) h
  exact hall d hd

/-- A name that is made up can be read. -/
theorem isReadable_generate (nanoseconds number : Nat) :
    isReadable (RequestId.generate nanoseconds number) = true := by
  rw [isReadable, RequestId.generate, String.toList_ofList]
  refine List.all_eq_true.mpr fun c hc => ?_
  rcases List.mem_append.mp hc with hc | hc
  · exact isVisible_of_mem_hexDigits hc
  · rcases List.mem_cons.mp hc with rfl | hc
    · decide
    · exact isVisible_of_mem_hexDigits hc

/-! ## Headers of a request -/

namespace Headers

/-- What is found can be read. -/
theorem isReadable_of_get? {headers : Headers} {name value : String}
    (h : headers.get? name = some value) : isReadable value = true := by
  unfold get? at h
  split at h
  · obtain ⟨hreadable, hvalue⟩ := Option.ite_none_right_eq_some.mp h
    exact Option.some.inj hvalue ▸ hreadable
  · cases h

theorem get?_set_self (headers : Headers) (name : String) {value : String}
    (h : isReadable value = true) : (headers.set name value).get? name = some value := by
  have hnone : (headers.entries.filter fun e => e.1 ≠ name.toLower).find?
      (fun e => e.1 = name.toLower) = none :=
    List.find?_eq_none.mpr fun e he hname =>
      of_decide_eq_true (List.mem_filter.mp he).2 (of_decide_eq_true hname)
  have hfind : (headers.set name value).entries.find? (fun e => e.1 = name.toLower) =
      some (name.toLower, value) := by
    rw [set, List.find?_append, hnone]
    simp
  rw [get?, hfind]
  exact if_pos h

theorem get?_set_of_ne (headers : Headers) {name other : String}
    (h : other.toLower ≠ name.toLower) (value : String) :
    (headers.set name value).get? other = headers.get? other := by
  have hfilter : (headers.entries.filter fun e => e.1 ≠ name.toLower).find?
      (fun e => e.1 = other.toLower) = headers.entries.find? fun e => e.1 = other.toLower := by
    rw [List.find?_filter]
    congr 1
    funext e
    by_cases he : e.1 = other.toLower <;> simp [he, h]
  have hfind : (headers.set name value).entries.find? (fun e => e.1 = other.toLower) =
      headers.entries.find? fun e => e.1 = other.toLower := by
    rw [set, List.find?_append, hfilter]
    simp [h.symm]
  rw [get?, get?, hfind]

end Headers

namespace Request

theorem header?_setHeader_self (request : Request) {name value : String}
    (hname : isHeaderName name = true) (hvalue : isReadable value = true) :
    (request.setHeader name value).header? name = some value := by
  rw [setHeader, hname, isHeaderValue_of_isReadable hvalue]
  exact request.headers.get?_set_self name hvalue

theorem header?_setHeader_of_ne (request : Request) {name other : String}
    (h : other.toLower ≠ name.toLower) (value : String) :
    (request.setHeader name value).header? other = request.header? other := by
  unfold setHeader
  split
  · exact request.headers.get?_set_of_ne h value
  · rfl

end Request

/-! ## Headers of a response -/

namespace Response

theorem find?_putHeader_self (name value : String) (headers : List (String × String)) :
    (putHeader name value headers).find? (fun h => h.1 = name) = some (name, value) := by
  induction headers with
  | nil => simp [putHeader]
  | cons entry rest ih =>
    obtain ⟨key, old⟩ := entry
    by_cases hkey : key = name
    · simp [putHeader, hkey]
    · simp only [putHeader, hkey, if_false]
      rw [List.find?_cons_of_neg (by simpa using hkey), ih]

/-- A header that is put in is among the headers, and besides it are those from before. -/
theorem mem_putHeader {name value : String} {headers : List (String × String)}
    {entry : String × String} (h : entry ∈ putHeader name value headers) :
    entry = (name, value) ∨ entry ∈ headers := by
  induction headers with
  | nil => exact .inl (List.mem_singleton.mp h)
  | cons first rest ih =>
    obtain ⟨key, old⟩ := first
    by_cases hkey : key = name
    · simp only [putHeader, hkey, if_true] at h
      rcases List.mem_cons.mp h with h | h
      · exact .inl h
      · exact .inr (List.mem_cons_of_mem _ h)
    · simp only [putHeader, hkey, if_false] at h
      rcases List.mem_cons.mp h with h | h
      · exact .inr (h ▸ List.mem_cons_self)
      · exact (ih h).imp_right (List.mem_cons_of_mem _)

theorem header?_setHeader_self (response : Response) {name : String}
    (h : name.toLower ≠ "content-type") (value : String) :
    (response.setHeader name value).header? name = some value := by
  rw [setHeader, if_neg h, header?]
  simp only [find?_putHeader_self, Option.map_some]

theorem find?_putHeader_of_ne {name other : String} (h : other ≠ name) (value : String)
    (headers : List (String × String)) :
    (putHeader name value headers).find? (fun h => h.1 = other) =
      headers.find? fun h => h.1 = other := by
  induction headers with
  | nil => simp [putHeader, h.symm]
  | cons entry rest ih =>
    obtain ⟨key, old⟩ := entry
    by_cases hkey : key = name
    · simp [putHeader, hkey, h.symm]
    · simp only [putHeader, hkey, if_false, List.find?_cons, ih]

theorem header?_setHeader_of_ne (response : Response) {name other : String}
    (h : other.toLower ≠ name.toLower) (value : String) :
    (response.setHeader name value).header? other = response.header? other := by
  unfold setHeader
  split
  · rfl
  · rw [header?, header?, find?_putHeader_of_ne h]

/-- A response can be sent exactly where no header has a fault. -/
theorem fault?_eq_none_iff {response : Response} :
    response.fault? = none ↔ headerFault? "content-type" response.contentType = none ∧
      ∀ entry ∈ response.headers, headerFault? entry.1 entry.2 = none := by
  rw [fault?, allHeaders, List.findSome?_eq_none_iff]
  exact List.forall_mem_cons

/-- A header without a fault does not spoil a response. -/
theorem fault?_setHeader {response : Response} (h : response.fault? = none) {name value : String}
    (hname : name.toLower ≠ "content-type")
    (hfault : headerFault? name.toLower value = none) :
    (response.setHeader name value).fault? = none := by
  obtain ⟨htype, hheaders⟩ := fault?_eq_none_iff.mp h
  rw [setHeader, if_neg hname]
  refine fault?_eq_none_iff.mpr ⟨htype, fun entry hentry => ?_⟩
  rcases mem_putHeader hentry with rfl | hentry
  · exact hfault
  · exact hheaders entry hentry

end Response

theorem headerFault?_eq_none_iff {name value : String} :
    headerFault? name value = none ↔ isHeaderName name = true ∧ isHeaderValue value = true := by
  unfold headerFault?
  cases isHeaderName name <;> cases isHeaderValue value <;> simp

end RoutingGateway.Http
