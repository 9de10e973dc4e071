/-
Documents that are updated.

A field that is put into a document takes the place of the one of its name, or the place
behind all others. The fields of other names (`Document.without`) are the same before and
after, in the same order. So what comes of putting in a whole document of news, field by
field, can be told without the steps (`Document.UpdatedBy`): its fields have the values of the
news, those of names that are new stand behind the others, and all else is as it was
(`updatedBy_insertAll`).

Where one begins with the empty document and a name may be put in again and again, the names
stand in the order in which they were first put in (`keys_insertAll_empty`), each with the
value that was put in last (`get?_insertAll_empty`).
-/
import Mathlib.Data.List.Induction
import Mathlib.Data.List.Nodup
import RoutingGateway.Json.Value

namespace RoutingGateway

variable {name : String} {names : List String}

/-! ## One field -/

/-- A field of a new name goes behind the others. -/
theorem Json.insertField_of_not_mem {fields : List (String × Json)}
    (h : name ∉ fields.map Prod.fst) (value : Json) :
    insertField name value fields = fields ++ [(name, value)] := by
  induction fields with
  | nil => rfl
  | cons first rest ih =>
    obtain ⟨hfirst, hrest⟩ := not_or.mp (mt List.mem_cons.mpr h)
    rw [insertField, if_neg (Ne.symm hfirst), ih hrest, List.cons_append]

/-- A field of a name that is there takes its place. -/
theorem Json.insertField_append_cons {front : List (String × Json)}
    (h : name ∉ front.map Prod.fst) (old value : Json) (rest : List (String × Json)) :
    insertField name value (front ++ (name, old) :: rest) = front ++ (name, value) :: rest := by
  induction front with
  | nil => rw [List.nil_append, insertField, if_pos rfl, List.nil_append]
  | cons first front ih =>
    obtain ⟨hfirst, hfront⟩ := not_or.mp (mt List.mem_cons.mpr h)
    rw [List.cons_append, insertField, if_neg (Ne.symm hfirst), ih hfront, List.cons_append]

theorem Json.filter_insertField (keep : String → Bool) (h : keep name = false) (value : Json)
    (fields : List (String × Json)) :
    (insertField name value fields).filter (fun field => keep field.1) =
      fields.filter fun field => keep field.1 := by
  induction fields with
  | nil => simp [insertField, h]
  | cons first rest ih =>
    obtain ⟨key, old⟩ := first
    by_cases hkey : key = name
    · simp [insertField, hkey, h]
    · rw [insertField, if_neg hkey, List.filter_cons, List.filter_cons, ih]

namespace Document

/-- The fields that have none of these names, in their order. -/
def without (doc : Document) (names : List String) : List (String × Json) :=
  doc.fields.filter fun field => field.1 ∉ names

/-- `written` is `doc` with the fields of `news` put in, each in the place of the field of its
name, or else behind all others. -/
structure UpdatedBy (doc news written : Document) : Prop where
  keys : written.keys = doc.keys ++ news.keys.filter (· ∉ doc.keys)
  values : ∀ name ∈ news.keys, written.get? name = news.get? name
  others : written.without news.keys = doc.without news.keys

theorem without_insert (h : name ∈ names) (doc : Document) (value : Json) :
    (doc.insert name value).without names = doc.without names :=
  Json.filter_insertField (fun key => key ∉ names) (decide_eq_false (not_not_intro h)) value
    doc.fields

/-! ## Several fields -/

/-- Puts fields in, one after the other. -/
def insertAll (doc : Document) (fields : List (String × Json)) : Document :=
  fields.foldl (fun doc field => doc.insert field.1 field.2) doc

theorem insertAll_cons (doc : Document) (first : String × Json) (rest : List (String × Json)) :
    doc.insertAll (first :: rest) = (doc.insert first.1 first.2).insertAll rest := rfl

variable {fields : List (String × Json)}

theorem without_insertAll (h : ∀ field ∈ fields, field.1 ∈ names) (doc : Document) :
    (doc.insertAll fields).without names = doc.without names := by
  induction fields generalizing doc with
  | nil => rfl
  | cons first rest ih =>
    obtain ⟨hfirst, hrest⟩ := List.forall_mem_cons.mp h
    rw [insertAll_cons, ih hrest, without_insert hfirst]

theorem get?_insertAll_of_not_mem (h : name ∉ fields.map Prod.fst) (doc : Document) :
    (doc.insertAll fields).get? name = doc.get? name := by
  induction fields generalizing doc with
  | nil => rfl
  | cons first rest ih =>
    obtain ⟨hfirst, hrest⟩ := not_or.mp (mt List.mem_cons.mpr h)
    rw [insertAll_cons, ih hrest, get?_insert, if_neg hfirst]

/-- What is put in is found, where no name is put in twice. -/
theorem get?_insertAll_of_mem (hdistinct : (fields.map Prod.fst).Nodup)
    (h : name ∈ fields.map Prod.fst) (doc : Document) :
    (doc.insertAll fields).get? name = Json.field? name fields := by
  induction fields generalizing doc with
  | nil => cases h
  | cons first rest ih =>
    obtain ⟨hfirst, hrest⟩ := List.nodup_cons.mp hdistinct
    rw [insertAll_cons]
    by_cases hname : first.1 = name
    · subst hname
      rw [get?_insertAll_of_not_mem hfirst, get?_insert, if_pos rfl, Json.field?, if_pos rfl]
    · have hmem := (List.mem_cons.mp h).resolve_left (Ne.symm hname)
      rw [ih hrest hmem, Json.field?, if_neg hname]

/-- Names that are there keep their places, and the new ones go behind them. -/
theorem keys_insertAll (hdistinct : (fields.map Prod.fst).Nodup) (doc : Document) :
    (doc.insertAll fields).keys =
      doc.keys ++ (fields.map Prod.fst).filter fun name => name ∉ doc.keys := by
  induction fields generalizing doc with
  | nil => simp [insertAll]
  | cons first rest ih =>
    obtain ⟨hfirst, hrest⟩ := List.nodup_cons.mp hdistinct
    -- the first field is no news to the others, whose names differ from its own
    have hnew : (rest.map Prod.fst).filter (· ∉ (doc.insert first.1 first.2).keys) =
        (rest.map Prod.fst).filter (· ∉ doc.keys) := by
      refine List.filter_congr fun name hname => ?_
      have hne : name ≠ first.1 := fun e => hfirst (e ▸ hname)
      by_cases hmem : first.1 ∈ doc.keys <;> simp [keys_insert, hmem, hne]
    rw [insertAll_cons, ih hrest, hnew, keys_insert, List.map_cons, List.filter_cons]
    by_cases hmem : first.1 ∈ doc.keys <;> simp [hmem]

theorem insertAll_append (doc : Document) (fields more : List (String × Json)) :
    doc.insertAll (fields ++ more) = (doc.insertAll fields).insertAll more :=
  List.foldl_append

theorem updatedBy_insertAll {news : Document} (hdistinct : news.keys.Nodup) (doc : Document) :
    doc.UpdatedBy news (doc.insertAll news.fields) where
  keys := keys_insertAll hdistinct doc
  values _ h := get?_insertAll_of_mem hdistinct h doc
  others := without_insertAll (fun _ h => List.mem_map_of_mem h) doc

/-! ## From the start -/

/-- The names stand in the order in which they were first put in. -/
theorem keys_insertAll_empty (fields : List (String × Json)) :
    (empty.insertAll fields).keys = (fields.map Prod.fst).eraseDups := by
  induction fields using List.reverseRecOn with
  | nil => rfl
  | append_singleton fields last ih =>
    rw [insertAll_append, insertAll_cons, insertAll, List.foldl_nil, keys_insert, ih,
      List.map_append, List.eraseDups_append, List.map_singleton]
    by_cases hmem : last.1 ∈ fields.map Prod.fst
    · simp [List.mem_eraseDups, List.removeAll, hmem]
    · simp [List.mem_eraseDups, List.removeAll, List.eraseDups_cons, hmem]

/-- No name stands there twice. -/
theorem nodup_keys_insertAll_empty (fields : List (String × Json)) :
    (empty.insertAll fields).keys.Nodup := by
  induction fields using List.reverseRecOn with
  | nil => exact List.nodup_nil
  | append_singleton fields last ih =>
    rw [insertAll_append, insertAll_cons, insertAll, List.foldl_nil, keys_insert]
    split
    · exact ih
    · next hnew => exact ih.append (List.nodup_singleton _) (List.disjoint_singleton.mpr hnew)

/-- Under each name stands what was put in last. -/
theorem get?_insertAll_empty (fields : List (String × Json)) (name : String) :
    (empty.insertAll fields).get? name =
      ((fields.filter fun field => field.1 = name).getLast?).map Prod.snd := by
  induction fields using List.reverseRecOn with
  | nil => rfl
  | append_singleton fields last ih =>
    rw [insertAll_append, insertAll_cons, insertAll, List.foldl_nil, get?_insert, ih,
      List.filter_append]
    by_cases hname : last.1 = name
    · simp [hname]
    · simp [hname, Ne.symm hname]

end Document

end RoutingGateway
