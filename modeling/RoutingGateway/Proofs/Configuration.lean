/-
What the environment makes of the configuration.

`Heeds` says what it is to drop no value that is configured: an outcome holds the reading of every
variable that is set, or names the first one that does not read, and a speed is positive. Bytes
that are no text do not read as any value.

Loading keeps this rule for what it gets to see, and variables that are no text are not among that:
it makes of an environment what it would make of it without them (`Environment.decoded`). So it
heeds the whole environment exactly where no such variable is passed over, that is, where each
stands behind one at which loading has stopped (`load_heeds`). On the way loading is told by its
first fault (`load_cases`).

The environment is the one that the process keeps: each variable has its bytes there, text or not
(`bytes?_ofBlock`).
-/
import RoutingGateway.Configuration
import RoutingGateway.Proofs.Text.Utf8

namespace RoutingGateway

open RoutingGateway.Decimal RoutingGateway.Network RoutingGateway.Text

/-! ## Positive numbers -/

theorem Decimal.lt_iff_compare {x y : Float} :
    x < y ↔ x.toModel.unpack.compare y.toModel.unpack = some .lt := by
  change decide (x.toModel < y.toModel) = true ↔ _
  rw [decide_eq_true_iff]
  exact beq_iff_eq

/-- What is greater than zero is a number, and it is neither zero nor less. -/
theorem Decimal.of_pos {x : Float} (h : 0 < x) :
    x.isNaN = false ∧ (x == 0) = false ∧ ¬ x < 0 := by
  have hzero : (0 : Float).toModel.unpack = .zero .positive := rfl
  rw [lt_iff_compare, hzero] at h
  rw [lt_iff_compare, hzero]
  change x.toModel.unpack.isNaN = false ∧ x.toModel.unpack.beq (.zero .positive) = false ∧ _
  cases hx : x.toModel.unpack with
  | notANumber =>
    rw [hx] at h
    cases h
  | zero sign =>
    rw [hx] at h
    cases h
  | infinity sign =>
    rw [hx] at h
    cases sign with
    | positive => exact ⟨rfl, rfl, nofun⟩
    | negative => cases h
  | finite sign mantissa exponent hmantissa =>
    rw [hx] at h
    cases sign with
    | positive => exact ⟨rfl, rfl, nofun⟩
    | negative => cases h

/-! ## Settings -/

/-- The type of a setting. -/
def Setting.Value : Setting → Type
  | address => SocketAddress
  | maxQueryLength => Nat
  | shutdownTimeout => Nat
  | speed => Float

/-- The value that a configuration has for a setting. -/
def Configuration.value (c : Configuration) : (setting : Setting) → setting.Value
  | .address => c.server.address
  | .maxQueryLength => c.server.maxQueryLength
  | .shutdownTimeout => c.server.shutdownSeconds
  | .speed => c.speed

namespace Setting

/-- Reads a text at the type of a setting. -/
def read : (setting : Setting) → List Char → Except ValueFault setting.Value
  | address => readAddress
  | maxQueryLength => readCount
  | shutdownTimeout => readCount
  | speed => readNumber

/-- The value of a setting that is not set. -/
def standard (setting : Setting) : setting.Value := Configuration.standard.value setting

/-- The settings that are read before this one. -/
def before (setting : Setting) : List Setting := all.takeWhile (· ≠ setting)

/-- Of two settings, one is read before the other. -/
theorem eq_or_before (a b : Setting) : a = b ∨ a ∈ before b ∨ b ∈ before a := by
  cases a <;> cases b <;> decide

theorem before_trans {a b c : Setting} (hab : a ∈ b.before) (hbc : b ∈ c.before) :
    a ∈ c.before := by
  revert hab hbc
  cases a <;> cases b <;> cases c <;> decide

variable (setting : Setting) (environment : Environment)

/-- The value that the environment gives: the default, where the variable is not set, and else what
its text is read as. -/
inductive Gives : setting.Value → Prop
  | unset : environment.bytes? setting.key = none → Gives setting.standard
  | set {text : String} {value : setting.Value} :
      environment.bytes? setting.key = some (utf8 text) →
      setting.read text.toList = .ok value → Gives value

/-- The variable is set to a text that is not read. -/
def Unreadable (text : String) (fault : ValueFault) : Prop :=
  environment.bytes? setting.key = some (utf8 text) ∧ setting.read text.toList = .error fault

/-- The variable is set to bytes that are no text. -/
def Undecodable : Prop :=
  ∃ bytes, environment.bytes? setting.key = some bytes ∧ ∀ text, bytes ≠ utf8 text

variable {setting environment}

theorem Gives.not_undecodable {value : setting.Value} (h : setting.Gives environment value) :
    ¬ setting.Undecodable environment := by
  rintro ⟨bytes, hbytes, hnot⟩
  cases h with
  | unset hnone => cases hnone.symm.trans hbytes
  | @set text _ htext _ => exact hnot text (Option.some.inj (hbytes.symm.trans htext))

theorem Unreadable.not_undecodable {text : String} {fault : ValueFault}
    (h : setting.Unreadable environment text fault) : ¬ setting.Undecodable environment := by
  rintro ⟨bytes, hbytes, hnot⟩
  exact hnot text (Option.some.inj (hbytes.symm.trans h.1))

end Setting

/-! ## Variables of a process -/

namespace Environment

/-- A variable of a process. A zero byte ends it, so it holds none, and the equals sign behind its
name is the first one. -/
structure Variable where
  name : List UInt8
  value : List UInt8
  zero_not_mem_name : 0 ∉ name
  zero_not_mem_value : 0 ∉ value
  equals_not_mem_name : '='.toUInt8 ∉ name

/-- The entry of a variable. -/
def Variable.entry (v : Variable) : List UInt8 := v.name ++ '='.toUInt8 :: v.value

/-- The block in which the variables of a process are kept. -/
def block (vars : List Variable) : List UInt8 := vars.flatMap fun v => v.entry ++ [0]

theorem Variable.zero_not_mem_entry (v : Variable) : 0 ∉ v.entry := by
  rw [entry, List.mem_append, List.mem_cons, not_or, not_or]
  exact ⟨v.zero_not_mem_name, by decide, v.zero_not_mem_value⟩

/-- The entry of a variable begins with a name and the equals sign only if the name is its own. -/
theorem Variable.name_of_prefix {v : Variable} {name : List UInt8}
    (hname : '='.toUInt8 ∉ name) (h : name ++ ['='.toUInt8] <+: v.entry) : v.name = name := by
  obtain ⟨rest, hrest⟩ := h
  have hentry : name ++ '='.toUInt8 :: rest = v.name ++ '='.toUInt8 :: v.value := by
    rw [← List.singleton_append, ← List.append_assoc]
    exact hrest
  -- both sides are cut at their first equals sign
  have hcut := congrArg (List.splitOn '='.toUInt8) hentry
  rw [List.splitOn_append_cons_self_of_not_mem hname,
    List.splitOn_append_cons_self_of_not_mem v.equals_not_mem_name] at hcut
  exact (List.cons.inj hcut).1.symm

theorem valueOf?_entry {name : String} (hname : '='.toUInt8 ∉ utf8 name) (v : Variable) :
    valueOf? name v.entry = if v.name = utf8 name then some v.value else none := by
  by_cases hown : v.name = utf8 name
  · have hentry : v.entry = (utf8 name ++ ['='.toUInt8]) ++ v.value := by
      rw [Variable.entry, hown, List.append_assoc, List.singleton_append]
    rw [if_pos hown, hentry]
    refine (if_pos (List.isPrefixOf_iff_prefix.mpr (List.prefix_append _ _))).trans ?_
    rw [List.drop_left]
  · rw [if_neg hown]
    exact if_neg fun h => hown (Variable.name_of_prefix hname (List.isPrefixOf_iff_prefix.mp h))

theorem valueOf?_nil (name : String) : valueOf? name [] = none := by
  refine if_neg fun hprefix => ?_
  have hnil := List.prefix_nil.mp (List.isPrefixOf_iff_prefix.mp hprefix)
  exact List.append_ne_nil_of_right_ne_nil _ (List.cons_ne_nil _ _) hnil

/-- Cutting the block at its zero bytes yields the entries again, and nothing behind the last. -/
theorem splitOn_block (vars : List Variable) :
    (block vars).splitOn 0 = vars.map Variable.entry ++ [[]] := by
  induction vars with
  | nil => rfl
  | cons v rest ih =>
    have hblock : block (v :: rest) = v.entry ++ 0 :: block rest := by
      rw [block, List.flatMap_cons, List.append_assoc, List.singleton_append, block]
    rw [hblock, List.splitOn_append_cons_self_of_not_mem v.zero_not_mem_entry, ih, List.map_cons,
      List.cons_append]

/-- The environment has the bytes of each variable as the process keeps them, be they a text or
not. Of variables with one name it has the first. -/
theorem bytes?_ofBlock (vars : List Variable) {name : String}
    (hname : '='.toUInt8 ∉ utf8 name) :
    (ofBlock (block vars)).bytes? name =
      (vars.find? fun v => v.name = utf8 name).map Variable.value := by
  change ((block vars).splitOn 0).findSome? (valueOf? name) = _
  rw [splitOn_block]
  induction vars with
  | nil =>
    rw [List.map_nil, List.nil_append, List.findSome?_singleton, valueOf?_nil]
    rfl
  | cons v rest ih =>
    rw [List.map_cons, List.cons_append, List.findSome?_cons, valueOf?_entry hname, ih,
      List.find?_cons]
    by_cases hown : v.name = utf8 name
    · rw [if_pos hown, decide_eq_true hown]
      rfl
    · rw [if_neg hown, decide_eq_false hown]

/-- No setting has an equals sign in its name, so all are found in the block. -/
theorem bytes?_key_ofBlock (vars : List Variable) (setting : Setting) :
    (ofBlock (block vars)).bytes? setting.key =
      (vars.find? fun v => v.name = utf8 setting.key).map Variable.value :=
  bytes?_ofBlock vars (by cases setting <;> decide)

end Environment

/-! ## Readings -/

namespace Environment

/-- A setting as it is read from the environment. -/
def get (environment : Environment) (setting : Setting) : Except ConfigurationError setting.Value :=
  environment.setting setting setting.read setting.standard

variable {environment : Environment} {setting : Setting}

theorem get_of_text? {text : String} (h : environment.text? setting.key = some text) :
    environment.get setting =
      (setting.read text.toList).mapError (.unreadable setting text) := by
  simp only [get, Environment.setting, h]

theorem get_of_text?_eq_none (h : environment.text? setting.key = none) :
    environment.get setting = .ok setting.standard := by
  simp only [get, Environment.setting, h]

theorem text?_of_bytes? {text : String}
    (h : environment.bytes? setting.key = some (utf8 text)) :
    environment.text? setting.key = some text := by
  rw [text?, h, Option.bind_some, ofUtf8?_utf8]

theorem get_of_gives {value : setting.Value} (h : setting.Gives environment value) :
    environment.get setting = .ok value := by
  cases h with
  | unset hnone => exact get_of_text?_eq_none (by rw [text?, hnone, Option.bind_none])
  | set htext hread =>
    rw [get_of_text? (text?_of_bytes? htext), hread]
    rfl

theorem get_of_unreadable {text : String} {fault : ValueFault}
    (h : setting.Unreadable environment text fault) :
    environment.get setting = .error (.unreadable setting text fault) := by
  rw [get_of_text? (text?_of_bytes? h.1), h.2]
  rfl

theorem get_of_undecodable (h : setting.Undecodable environment) :
    environment.get setting = .ok setting.standard := by
  obtain ⟨bytes, hbytes, hnot⟩ := h
  refine get_of_text?_eq_none ?_
  rw [text?, hbytes, Option.bind_some]
  exact Option.eq_none_iff_forall_ne_some.mpr fun text htext =>
    hnot text (ofUtf8?_eq_some_iff.mp htext)

/-- A variable gives a value, or its text is not read, or it is no text. -/
theorem gives_or (environment : Environment) (setting : Setting) :
    (∃ value, setting.Gives environment value) ∨
      (∃ text fault, setting.Unreadable environment text fault) ∨
        setting.Undecodable environment := by
  cases hbytes : environment.bytes? setting.key with
  | none => exact .inl ⟨_, .unset hbytes⟩
  | some bytes =>
    by_cases htext : ∃ text, bytes = utf8 text
    · obtain ⟨text, rfl⟩ := htext
      cases hread : setting.read text.toList with
      | ok value => exact .inl ⟨value, .set hbytes hread⟩
      | error fault => exact .inr (.inl ⟨text, fault, hbytes, hread⟩)
    · exact .inr (.inr ⟨bytes, hbytes, not_exists.mp htext⟩)

theorem unreadable_of_get {error : ConfigurationError}
    (h : environment.get setting = .error error) :
    ∃ text fault, setting.Unreadable environment text fault ∧
      error = .unreadable setting text fault := by
  rcases environment.gives_or setting with ⟨value, hgives⟩ | ⟨text, fault, hfault⟩ | hbytes
  · cases (get_of_gives hgives).symm.trans h
  · have herror := (get_of_unreadable hfault).symm.trans h
    cases herror
    exact ⟨text, fault, hfault, rfl⟩
  · cases (get_of_undecodable hbytes).symm.trans h

/-- The environment without the variables that are no text. -/
def decoded (environment : Environment) : Environment where
  bytes? name := (environment.text? name).map utf8

theorem bytes?_decoded (environment : Environment) (name : String) :
    environment.decoded.bytes? name = (environment.text? name).map utf8 := rfl

/-- What is read from the environment is what it gives without the variables that are no text. -/
theorem gives_decoded_of_get {value : setting.Value} (h : environment.get setting = .ok value) :
    setting.Gives environment.decoded value := by
  cases htext : environment.text? setting.key with
  | none =>
    cases (get_of_text?_eq_none htext).symm.trans h
    exact .unset (by rw [bytes?_decoded, htext, Option.map_none])
  | some text =>
    rw [get_of_text? htext] at h
    cases hread : setting.read text.toList with
    | error fault =>
      rw [hread] at h
      cases h
    | ok value' =>
      rw [hread] at h
      cases h
      exact .set (by rw [bytes?_decoded, htext, Option.map_some]) hread

theorem unreadable_decoded {text : String} {fault : ValueFault}
    (h : setting.Unreadable environment text fault) :
    setting.Unreadable environment.decoded text fault :=
  ⟨by rw [bytes?_decoded, text?_of_bytes? h.1, Option.map_some], h.2⟩

end Environment

namespace Configuration

theorem load_eq (environment : Environment) :
    load environment =
      (environment.get .address).bind fun address =>
      (environment.get .maxQueryLength).bind fun maxQueryLength =>
      (environment.get .shutdownTimeout).bind fun shutdownSeconds =>
      (environment.get .speed).bind fun (speed : Float) =>
        if 0 < speed then
          .ok { server := { address, maxQueryLength, shutdownSeconds }, speed }
        else .error (.speedNotPositive speed) := rfl

/-- Loading stops at the first setting that is not read. Where all are read, the speed decides. -/
theorem load_cases (environment : Environment) :
    (∃ setting error, environment.get setting = .error error ∧
      (∀ earlier ∈ setting.before, ∃ value, environment.get earlier = .ok value) ∧
      load environment = .error error) ∨
    ∃ c, (∀ setting, environment.get setting = .ok (c.value setting)) ∧
      load environment = if 0 < c.speed then .ok c else .error (.speedNotPositive c.speed) := by
  rw [load_eq]
  cases haddress : environment.get .address with
  | error error => exact .inl ⟨.address, error, haddress, List.forall_mem_nil _, rfl⟩
  | ok address =>
  cases hlength : environment.get .maxQueryLength with
  | error error =>
    refine .inl ⟨.maxQueryLength, error, hlength, ?_, rfl⟩
    exact List.forall_mem_singleton.mpr ⟨address, haddress⟩
  | ok maxQueryLength =>
  cases htimeout : environment.get .shutdownTimeout with
  | error error =>
    refine .inl ⟨.shutdownTimeout, error, htimeout, ?_, rfl⟩
    exact List.forall_mem_cons.mpr ⟨⟨address, haddress⟩,
      List.forall_mem_singleton.mpr ⟨maxQueryLength, hlength⟩⟩
  | ok shutdownSeconds =>
  cases hspeed : environment.get .speed with
  | error error =>
    refine .inl ⟨.speed, error, hspeed, ?_, rfl⟩
    exact List.forall_mem_cons.mpr ⟨⟨address, haddress⟩,
      List.forall_mem_cons.mpr ⟨⟨maxQueryLength, hlength⟩,
        List.forall_mem_singleton.mpr ⟨shutdownSeconds, htimeout⟩⟩⟩
  | ok speed =>
    refine .inr ⟨{ server := { address, maxQueryLength, shutdownSeconds }, speed }, ?_, rfl⟩
    intro setting
    cases setting with
    | address => exact haddress
    | maxQueryLength => exact hlength
    | shutdownTimeout => exact htimeout
    | speed => exact hspeed

/-! ## Outcomes that drop no value -/

/-- The outcome drops no value that is configured. The configuration holds what every variable
gives, and its speed is positive; or the first variable that gives nothing is named, or the speed
is. Bytes that are no text are to be named too, however they are shown. -/
inductive Heeds (environment : Environment) : Except ConfigurationError Configuration → Prop
  | configured {c : Configuration} :
      (∀ setting : Setting, setting.Gives environment (c.value setting)) →
      0 < c.speed → Heeds environment (.ok c)
  | unreadable {setting : Setting} {text : String} {fault : ValueFault} :
      setting.Unreadable environment text fault →
      (∀ earlier ∈ setting.before, ∃ value, earlier.Gives environment value) →
      Heeds environment (.error (.unreadable setting text fault))
  | undecodable {setting : Setting} {text : String} {fault : ValueFault} :
      setting.Undecodable environment →
      (∀ earlier ∈ setting.before, ∃ value, earlier.Gives environment value) →
      Heeds environment (.error (.unreadable setting text fault))
  | notPositive {speed : Float} :
      (∀ setting : Setting, ∃ value, setting.Gives environment value) →
      Setting.speed.Gives environment speed → ¬ 0 < speed →
      Heeds environment (.error (.speedNotPositive speed))

/-- What the speed decides where every variable gives what the configuration has. -/
theorem heeds_of_gives {environment : Environment} {c : Configuration}
    (h : ∀ setting : Setting, setting.Gives environment (c.value setting)) :
    Heeds environment (if 0 < c.speed then .ok c else .error (.speedNotPositive c.speed)) := by
  split
  · next hspeed => exact .configured h hspeed
  · next hspeed => exact .notPositive (fun setting => ⟨_, h setting⟩) (h .speed) hspeed

theorem load_heeds_decoded (environment : Environment) :
    Heeds environment.decoded (load environment) := by
  rcases load_cases environment with ⟨setting, error, herror, hearlier, hload⟩ | ⟨c, hall, hload⟩
  · obtain ⟨text, fault, hfault, rfl⟩ := Environment.unreadable_of_get herror
    rw [hload]
    refine .unreadable (Environment.unreadable_decoded hfault) fun earlier hbefore => ?_
    obtain ⟨value, hvalue⟩ := hearlier earlier hbefore
    exact ⟨value, Environment.gives_decoded_of_get hvalue⟩
  · rw [hload]
    exact heeds_of_gives fun setting => Environment.gives_decoded_of_get (hall setting)

/-- In front of the setting there is one whose text is not read. -/
def Hidden (environment : Environment) (setting : Setting) : Prop :=
  ∃ earlier ∈ setting.before, ∃ text fault, earlier.Unreadable environment text fault

theorem not_hidden {environment : Environment} {setting : Setting}
    (h : ∀ earlier ∈ setting.before, ∃ value, environment.get earlier = .ok value) :
    ¬ Hidden environment setting := by
  rintro ⟨earlier, hbefore, text, fault, hfault⟩
  obtain ⟨value, hvalue⟩ := h earlier hbefore
  cases (Environment.get_of_unreadable hfault).symm.trans hvalue

/-- A value that was read is one that the environment gives, unless the variable is no text. -/
theorem exists_gives_of_get {environment : Environment} {setting : Setting}
    {value : setting.Value} (hget : environment.get setting = .ok value)
    (hbytes : ¬ setting.Undecodable environment) : ∃ value, setting.Gives environment value := by
  rcases environment.gives_or setting with hgives | ⟨text, fault, hfault⟩ | hnot
  · exact hgives
  · cases (Environment.get_of_unreadable hfault).symm.trans hget
  · exact absurd hnot hbytes

theorem heeds_of_hidden {environment : Environment}
    (h : ∀ setting : Setting, setting.Undecodable environment → Hidden environment setting) :
    Heeds environment (load environment) := by
  rcases load_cases environment with ⟨setting, error, herror, hearlier, hload⟩ | ⟨c, hall, hload⟩
  · obtain ⟨text, fault, hfault, rfl⟩ := Environment.unreadable_of_get herror
    rw [hload]
    refine .unreadable hfault fun earlier hbefore => ?_
    obtain ⟨value, hvalue⟩ := hearlier earlier hbefore
    refine exists_gives_of_get hvalue fun hbytes => not_hidden (fun other hother => ?_) (h _ hbytes)
    exact hearlier other (Setting.before_trans hother hbefore)
  · rw [hload]
    refine heeds_of_gives fun setting => ?_
    obtain ⟨value, hvalue⟩ := exists_gives_of_get (hall setting) fun hbytes =>
      not_hidden (fun other _ => ⟨_, hall other⟩) (h _ hbytes)
    cases (Environment.get_of_gives hvalue).symm.trans (hall setting)
    exact hvalue

theorem hidden_of_heeds {environment : Environment} (h : Heeds environment (load environment))
    {setting : Setting} (hbytes : setting.Undecodable environment) :
    Hidden environment setting := by
  rcases load_cases environment with ⟨first, error, herror, -, hload⟩ | ⟨c, -, hload⟩
  · obtain ⟨text, fault, hfault, rfl⟩ := Environment.unreadable_of_get herror
    have hearlier : ∀ earlier ∈ first.before, ∃ value, earlier.Gives environment value := by
      rw [hload] at h
      cases h with
      | unreadable _ hearlier => exact hearlier
      | undecodable hnot _ => exact absurd hnot hfault.not_undecodable
    rcases Setting.eq_or_before setting first with rfl | hbefore | hbehind
    · exact absurd hbytes hfault.not_undecodable
    · obtain ⟨value, hvalue⟩ := hearlier setting hbefore
      exact absurd hbytes hvalue.not_undecodable
    · exact ⟨first, hbehind, text, fault, hfault⟩
  · have hgives : ∃ value, setting.Gives environment value := by
      rw [hload] at h
      split at h
      · cases h with
        | configured hall _ => exact ⟨_, hall setting⟩
      · cases h with
        | notPositive hall _ _ => exact hall setting
    obtain ⟨value, hvalue⟩ := hgives
    exact absurd hbytes hvalue.not_undecodable

/-- Loading heeds what there is without the variables that are no text. It heeds all variables
exactly where each that is no text stands behind one whose text is not read. A speed that is loaded
is a number greater than zero, so it can be divided by. -/
theorem load_heeds (environment : Environment) :
    Heeds environment.decoded (load environment) ∧
    (Heeds environment (load environment) ↔
      ∀ setting : Setting, setting.Undecodable environment →
        ∃ earlier ∈ setting.before, ∃ text fault, earlier.Unreadable environment text fault) ∧
    ∀ c, load environment = .ok c →
      0 < c.speed ∧ c.speed.isNaN = false ∧ (c.speed == 0) = false ∧ ¬ c.speed < 0 := by
  refine ⟨load_heeds_decoded environment,
    ⟨fun h setting hbytes => hidden_of_heeds h hbytes, heeds_of_hidden⟩, fun c hload => ?_⟩
  have hheeds := load_heeds_decoded environment
  rw [hload] at hheeds
  cases hheeds with
  | configured _ hspeed => exact ⟨hspeed, of_pos hspeed⟩

/-- A limit that is no text is dropped, and the configuration is the one for no variables at all. -/
theorem load_undecodable :
    let environment : Environment :=
      { bytes? := fun name =>
          if name = "ROUTEGATE_MAX_QUERY_LENGTH" then some [0xFF] else none }
    load environment = .ok { server := {}, speed := 13.9 } ∧
      ¬ Heeds environment (load environment) := by
  intro environment
  have hload : load environment = .ok { server := {}, speed := 13.9 } := rfl
  have hnot : ofUtf8? [0xFF] = none := by decide
  have hbytes : Setting.maxQueryLength.Undecodable environment := by
    refine ⟨[0xFF], rfl, fun text htext => ?_⟩
    rw [ofUtf8?_eq_some_iff.mpr htext] at hnot
    cases hnot
  refine ⟨hload, fun h => ?_⟩
  rw [hload] at h
  cases h with
  | configured hall _ => exact (hall .maxQueryLength).not_undecodable hbytes

end Configuration

end RoutingGateway
