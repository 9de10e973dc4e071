/-
Which log events are written.

A filter is a list of directives with commas between them. A directive is a
level, which holds for every event; a target, whose events are all admitted;
or a target, an equals sign and a level. A target stands for all targets that
begin with it, and the longest one that fits an event decides about it. A
directive may also name spans in brackets; the gateway opens no spans, so
such a directive admits nothing.
-/
import RoutingGateway.Decimal.Numeral
import RoutingGateway.Event
import RoutingGateway.Text.Split

namespace RoutingGateway

open RoutingGateway.Text

/-! ## Levels in filters -/

/-- The place of a level, counted from the heaviest. -/
def Level.rank : Level → Nat
  | .error => 1
  | .warn => 2
  | .info => 3
  | .debug => 4
  | .trace => 5

/-- The lightest level that is admitted; without one nothing is. -/
structure Threshold where
  lightest : Option Level
  deriving DecidableEq, Repr

namespace Threshold

/-- Admits nothing. -/
def off : Threshold := ⟨none⟩

/-- All thresholds by their numbers. -/
def all : List Threshold :=
  [off, ⟨some .error⟩, ⟨some .warn⟩, ⟨some .info⟩, ⟨some .debug⟩, ⟨some .trace⟩]

/-- The name of a threshold, in lower case. -/
def name (t : Threshold) : String :=
  match t.lightest with
  | none => "off"
  | some level => level.name.toLower

/-- Reads a number, or a name in any case. -/
def read? (text : List Char) : Option Threshold :=
  match Decimal.readWhole (UInt64.size - 1) text with
  | .ok number => all[number]?
  | .error _ => all.find? fun t => t.name = (String.ofList text).toLower

/-- Whether events of the level are admitted. -/
def admits (t : Threshold) (level : Level) : Bool :=
  match t.lightest with
  | none => false
  | some lightest => level.rank ≤ lightest.rank

end Threshold

/-! ## Directives -/

/-- One directive of a filter. -/
inductive Directive where
  /-- Decides about the events of targets that begin with this one. -/
  | events (target : List Char) (threshold : Threshold)
  /-- Decides about events inside spans. -/
  | spans
  deriving DecidableEq, Repr

namespace Directive

/-- Whether the character is a blank. -/
def isBlank (c : Char) : Bool := c = ' ' || ('\t' ≤ c && c ≤ '\r')

/-- The text without the blanks around it. -/
def trim (text : List Char) : List Char :=
  ((text.dropWhile isBlank).reverse.dropWhile isBlank).reverse

/-- Whether a directive without brackets may begin with the character; beyond
ASCII any may. -/
def mayBegin (c : Char) : Bool := c.isAlphanum || c = '-' || c = ':' || c = '_' || 128 ≤ c.toNat

/-- Reads the level behind an equals sign; none at all is the lightest. -/
def readThreshold? : List Char → Option Threshold
  | [] => some ⟨some .trace⟩
  | text => Threshold.read? text

/-- Reads what follows an opening bracket. -/
def readSpans? (text : List Char) : Option Directive :=
  match cut ']' text with
  | some (_, []) => some .spans
  | some (_, '=' :: rest) => (readThreshold? rest).map fun _ => .spans
  | _ => none

/-- Reads a directive. Its parts are cut out of the text as it stands, at the
places they have without the blanks around it. -/
def read? (text : List Char) : Option Directive :=
  let body := trim text
  let head := body.takeWhile fun c => c ≠ '=' && c ≠ '['
  match body, body.drop head.length with
  | '[' :: rest, _ => readSpans? rest
  | c :: _, [] =>
    if mayBegin c then
      match Threshold.read? text with
      | some threshold => some (.events [] threshold)
      | none => some (.events text ⟨some .trace⟩)
    else none
  | c :: _, '=' :: _ =>
    if mayBegin c then
      (readThreshold? (text.drop (head.length + 1))).map
        (.events (text.take head.length))
    else none
  | c :: _, _ :: rest => if mayBegin c then readSpans? rest else none
  | [], _ => none

end Directive

/-! ## Filters -/

/-- A filter of log events. -/
structure LogFilter where
  directives : List Directive
  deriving DecidableEq, Repr

namespace LogFilter

/-- The filter of a gateway that is told nothing else. -/
def standard : LogFilter := ⟨[.events "routegate".toList ⟨some .info⟩]⟩

/-- The filter without any directive admits errors. -/
def bare : LogFilter := ⟨[.events [] ⟨some .error⟩]⟩

/-- Reads a filter; empty directives are skipped. -/
def read? (text : String) : Option LogFilter :=
  match (text.toList.splitOn ',').filter fun piece => piece ≠ [] with
  | [] => some bare
  | pieces => (pieces.mapM Directive.read?).map (⟨·⟩)

/-- The filter that a setting asks for. -/
def ofSetting (setting : Option String) : LogFilter := (setting.bind read?).getD standard

/-- What a directive decides about a target: the length of the part it names, and
the threshold. -/
def decision? (target : List Char) : Directive → Option (Nat × Threshold)
  | .events start threshold =>
    if start.isPrefixOf target then some (start.length, threshold) else none
  | .spans => none

/-- Whether an event is admitted. Of the directives that fit its target, the most
specific decides, and of equals the last. -/
def admits (filter : LogFilter) (event : Event) : Bool :=
  let best := (filter.directives.filterMap (decision? event.target.toList)).foldl
    (fun best d => if best.1 ≤ d.1 then d else best) (0, Threshold.off)
  best.2.admits event.level

/-- The lines of the log for some events. -/
def lines (filter : LogFilter) (events : List Event) : List Json :=
  (events.filter filter.admits).map Event.line

end LogFilter

end RoutingGateway
