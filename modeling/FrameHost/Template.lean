import FrameHost.Config.Load
import FrameHost.Walk
import FrameHost.Widget

/-!
# Templates for frames

A template names a widget type and a size, and inherits what it leaves out from other templates. The
catalog resolves a name along the templates it inherits from, each visited once and before its bases, so
that loops and shared bases do no harm. What was resolved is remembered until a template changes.

* `Catalog.walk`: the templates that a resolution visits.
* `TemplateInfo.overlay`: how a template changes what its bases say.
* `Catalog.info`: the resolved template of a name.
-/

namespace FrameHost

/-- A resolved template. A size of zero is none. -/
structure TemplateInfo where
  type : WidgetType := .frame
  width : Float := 0.0
  height : Float := 0.0
  deriving DecidableEq, Inhabited, Repr

/-- The templates by name, and what was resolved already. -/
structure Catalog where
  templates : Table String Entries := {}
  resolved : Table String (Option TemplateInfo) := {}
  deriving Inhabited, Repr

namespace TemplateInfo

/-- A size that a template may give. -/
def sizeOver (data : Entries) (name : String) (base : Float) : Except Fault Float :=
  match Entries.field? data name with
  | some v => if v.isTrue then v.toFloat else .ok base
  | none => .ok base

/-- What a template says, laid over what its bases say. -/
def overlay (base : TemplateInfo) (data : Entries) : Except Fault TemplateInfo := do
  let type := ((Entries.field? data "type").bind WidgetType.ofValue?).getD base.type
  return ⟨type, ← sizeOver data "width" base.width, ← sizeOver data "height" base.height⟩

/-- What a chain of templates says, the most derived first. -/
def ofChain (chain : List Entries) : Except Fault TemplateInfo := chain.reverse.foldlM overlay {}

end TemplateInfo

namespace Catalog

variable (catalog : Catalog)

/-! ## Definitions -/

/-- Adds or replaces a template. -/
def define (name : String) (data : Entries) : Catalog :=
  ⟨catalog.templates.insert name data, {}⟩

/-- Adds or replaces a template, if it is a mapping with a name; else leaves a warning. -/
def register (label : FrameId → String) (name data : Value) : Option Catalog × List LoadNote :=
  let invalid : Option Catalog × List LoadNote :=
    (none, [⟨.warn, "Ignored template with invalid name " ++ name.display label⟩])
  match name with
  | .str s =>
    if (Text.trim s).isEmpty then invalid
    else match data with
      | .map entries => (some (catalog.define s entries), [])
      | _ => (none, [⟨.warn, "Template '" ++ s ++ "' must be a mapping"⟩])
  | _ => invalid

/-- Registers templates one after another and counts those that were taken. -/
def registerAll (label : FrameId → String) (templates : Entries) : Catalog × Nat × List LoadNote :=
  templates.foldl
    (fun (catalog, count, notes) (name, data) =>
      let data := if data.isTrue then data else .map []
      match catalog.register label name.toValue data with
      | (some catalog, more) => (catalog, count + 1, notes ++ more)
      | (none, more) => (catalog, count, notes ++ more))
    (catalog, 0, [])

/-- Takes the templates of a loaded configuration in. -/
def takeIn (label : FrameId → String) (filename : String) (config : Entries) :
    Catalog × Nat × List LoadNote :=
  match (Entries.field? config "templates").filter Value.isTrue with
  | some (.map templates) =>
    let (catalog, count, notes) := catalog.registerAll label templates
    (catalog, count,
      notes ++ [⟨.system, "Loaded " ++ toString count ++ " template(s) from " ++ filename⟩])
  | none =>
    (catalog, 0, [⟨.system, "Loaded 0 template(s) from " ++ filename⟩])
  | some _ => (catalog, 0, [⟨.warn, "'templates' in " ++ filename ++ " is not a mapping"⟩])

def contains (name : String) : Bool := catalog.templates.contains name

/-- The names of the templates in the order of their code points. -/
def names : List String := Text.sorted catalog.templates.keys

/-! ## Resolution -/

/-- The parts of a text between its commas, without the blanks around them. -/
def commaParts (s : String) : List String :=
  (Text.cutAt ',' s.toList).map fun part => String.ofList (Text.trimChars part)

def bases : Value → Except Fault (List String)
  | .str s => .ok ((commaParts s).filter fun part => !part.isEmpty)
  | .list items => .ok (items.map fun v => v.text showInt)
  | .map entries => .ok (entries.map fun e => e.1.toValue.text showInt)
  | v => if v.isTrue then .error .wrongKind else .ok []

/-- A step of a resolution. -/
inductive Visit
  | found (name : String) (data : Entries)
  | missing (name : String)
  deriving Repr

/-- The template of a visit. -/
def Visit.data? : Visit → Option Entries
  | .found _ data => some data
  | .missing _ => none

/-- What a visit leaves in the log. -/
def Visit.note? : Visit → Option LoadNote
  | .found _ _ => none
  | .missing name => some ⟨.trace, "Missing base template '" ++ name ++ "'"⟩

/-- Visits the templates of a list and then, before the rest of the list, those they inherit from; a
template that was visited is passed over. -/
def walk : (pending seen : List String) → List Visit × Option Fault
  | [], _ => ([], none)
  | name :: pending, seen =>
    if name ∈ seen then walk pending seen
    else match _h : catalog.templates.get? name with
      | none =>
        let (visits, fault) := walk pending seen
        (.missing name :: visits, fault)
      | some data =>
        match bases ((Entries.field? data "inherits").getD .null) with
        | .error fault => ([.found name data], some fault)
        | .ok names =>
          let (visits, fault) := walk (names ++ pending) (name :: seen)
          (.found name data :: visits, fault)
termination_by pending seen => (Walk.unseen catalog.templates.keys seen, pending.length)
decreasing_by
  · exact Prod.Lex.right _ (Nat.lt_succ_self _)
  · exact Prod.Lex.right _ (Nat.lt_succ_self _)
  · rename_i hs
    refine Prod.Lex.left _ _ (Walk.unseen_cons_lt ?_ hs)
    rw [Table.mem_keys_iff, _h]
    rfl

/-- Resolves a name that was not resolved yet. -/
def resolve (name : String) : Except Fault (Option TemplateInfo) × List LoadNote :=
  if catalog.contains name then
    let (visits, fault) := catalog.walk [name] []
    let notes := visits.filterMap Visit.note?
    match fault with
    | some fault => (.error fault, notes)
    | none => ((TemplateInfo.ofChain (visits.filterMap Visit.data?)).map some, notes)
  else (.ok none, [])

/-- The resolved template of a name, remembered once it is known. -/
def info (name : String) : Except Fault (Option TemplateInfo) × Catalog × List LoadNote :=
  match catalog.resolved.get? name with
  | some found => (.ok found, catalog, [])
  | none =>
    match catalog.resolve name with
    | (.ok found, notes) =>
      (.ok found, { catalog with resolved := catalog.resolved.insert name found }, notes)
    | (.error fault, notes) => (.error fault, catalog, notes)

end Catalog

end FrameHost
