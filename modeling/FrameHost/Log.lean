import FrameHost.Table
import FrameHost.Text.Case
import FrameHost.Value.Display

/-!
# The log

A message has a tag, which says how much it matters, and a category, which says what it is about. It is
written when logging is on, its category is on, and the log's level admits its tag.

* `Log.admits`: which messages are written.
* `Log.emit`: writes a message.
* `Log.apply`: changes the settings as a configuration says.
-/

namespace FrameHost

/-- How much is logged. -/
inductive LogLevel
  | none
  | error
  | warn
  | info
  | verbose
  deriving DecidableEq, Inhabited, Repr

namespace LogLevel

def all : List LogLevel := [.none, .error, .warn, .info, .verbose]

def name : LogLevel → String
  | .none => "NONE"
  | .error => "ERROR"
  | .warn => "WARN"
  | .info => "INFO"
  | .verbose => "VERBOSE"

/-- The place of a level: a higher one logs more. -/
def rank : LogLevel → Nat
  | .none => 0
  | .error => 1
  | .warn => 2
  | .info => 3
  | .verbose => 4

def ofName? (s : String) : Option LogLevel := all.find? fun l => l.name == s

end LogLevel

/-- What kind of message it is. -/
inductive LogTag
  | init
  | system
  | state
  | trace
  | warn
  | fail
  deriving DecidableEq, Inhabited, Repr

namespace LogTag

def all : List LogTag := [.init, .system, .state, .trace, .warn, .fail]

def name : LogTag → String
  | .init => "INIT"
  | .system => "SYSTEM"
  | .state => "STATE"
  | .trace => "TRACE"
  | .warn => "WARN"
  | .fail => "FAIL"

/-- The least level that logs a tag. -/
def level : LogTag → LogLevel
  | .init | .system | .state => .info
  | .trace => .verbose
  | .warn => .warn
  | .fail => .error

def color : LogTag → String
  | .init => "97"
  | .system => "95"
  | .state => "96"
  | .trace => "94"
  | .warn => "93"
  | .fail => "91"

def ofName? (s : String) : Option LogTag := all.find? fun t => t.name == s

end LogTag

/-- The settings of the log, and what was written. -/
structure Log where
  enabled : Bool := false
  level : LogLevel := .info
  timestamps : Bool := false
  source : Bool := true
  color : Bool := false
  categories : Table Key Bool :=
    ⟨[(.str "system", true), (.str "loading", false), (.str "registry", true),
      (.str "layout", false), (.str "script", true), (.str "event", true), (.str "timer", true)]⟩
  /-- What was written, line by line. -/
  lines : Array String := #[]
  deriving Inhabited, Repr

namespace Log

variable (log : Log)

/-- Whether a message of a category that needs a level is written. -/
def admits (category : String) (needed : LogLevel) : Bool :=
  log.enabled && (log.categories.get? (.str category)).getD false && needed.rank ≤ log.level.rank

/-- Whether a message is written, by the names of its category and tag. An unknown tag is logged like
news. -/
def admitsNamed (category tag : String) : Bool :=
  log.admits category (((LogTag.ofName? tag).map LogTag.level).getD .info)

def paint (code text : String) : String := "\x1b[" ++ code ++ "m" ++ text ++ "\x1b[0m"

/-- Writes a text, in a colour if the log is coloured. -/
def write (text code : String) : Log :=
  let text := if log.color then paint code text else text
  { log with lines := log.lines ++ (Text.lines (text ++ "\n")).toArray }

/-- The time that is written before a message. -/
def stamp : String := "[03:04:05]"

/-- A message with what stands before it. -/
def format (source : String) (tag : LogTag) (category message : String) : String :=
  " ".intercalate
    ((if log.timestamps then [stamp] else []) ++
      (if log.source then ["[" ++ source ++ "]"] else []) ++
      ["[" ++ category ++ ":" ++ tag.name ++ "]", message])

/-- Writes a message, if it is admitted. -/
def emit (source : String) (tag : LogTag) (category message : String) : Log :=
  if log.admits category tag.level then log.write (log.format source tag category message) tag.color
  else log

/-! ## The report at the start -/

def width : Nat := 59

/-- A text in the middle of the report; an odd blank goes to its left. -/
def centre (s : String) : String :=
  let pad := width - s.length
  let left := pad - pad / 2
  "".pushn ' ' left ++ s ++ "".pushn ' ' (pad / 2)

def heading (title : String) : Log :=
  if log.enabled then
    log.write ("\n" ++ "".pushn '─' width ++ "\n" ++ centre ("[" ++ title ++ "]") ++ "\n") "97"
  else log

/-- Writes that a part of the host is ready, or what else its status is. -/
def entry (name status : String) : Log :=
  if log.enabled then
    let status := Text.upper status
    let label := "> " ++ name
    let badge := "[" ++ status ++ "]"
    let dots := max (width - (label.length + badge.length + 2)) 3
    let badge :=
      if log.color then
        "\x1b[" ++ (if status = "FAIL" then "91" else "92") ++ "m" ++ badge ++ "\x1b[97m"
      else badge
    log.write (label ++ " " ++ "".pushn '.' dots ++ " " ++ badge) "97"
  else log

/-- Writes a detail under an entry. -/
def detail (text : String) (depth : Int) : Log :=
  if log.enabled then log.write ("".pushn ' ' (depth * 4).toNat ++ "• " ++ text) "97" else log

/-! ## Settings -/

/-- A setting that a configuration may change. -/
def flag (config : Entries) (name : String) (now : Bool) : Bool :=
  ((Entries.field? config name).map Value.isTrue).getD now

/-- Changes the settings as a configuration says. An unknown level is ignored; what is no mapping is a
fault, after the settings before it have been changed. -/
def apply (config : Value) : Log × Option Fault :=
  if !config.isTrue then (log, none)
  else match config with
    | .map es =>
      let log := { log with
        enabled := flag es "enabled" log.enabled
        color := flag es "color" log.color
        timestamps := flag es "timestamps" log.timestamps }
      let level := Text.upper (((Entries.field? es "level").map (·.text showInt)).getD log.level.name)
      let log := { log with level := (LogLevel.ofName? level).getD log.level }
      match (Entries.field? es "categories").getD .null with
      | .map cs =>
        ({ log with categories :=
            cs.foldl (fun t e => t.insert e.1 e.2.isTrue) log.categories }, none)
      | v => (log, if v.isTrue then some .missingPart else none)
    | _ => (log, some .missingPart)

def settings : Value :=
  .map [(.str "enable_logging", .bool log.enabled), (.str "log_level", .str log.level.name),
    (.str "show_timestamp", .bool log.timestamps), (.str "show_source", .bool log.source),
    (.str "use_color", .bool log.color),
    (.str "categories", .map (log.categories.entries.map fun e => (e.1, .bool e.2)))]

end Log

end FrameHost
