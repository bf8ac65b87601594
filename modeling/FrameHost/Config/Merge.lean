import FrameHost.Value

/-!
# Merging configurations

A configuration read from a file is laid over the defaults. Where both hold a mapping under a key the two
are merged in turn; elsewhere the file's value takes the place of the default. The key `_notes` is for
documentation: it is passed over wherever mappings are merged.
-/

namespace FrameHost.Config

/-- The key whose value is documentation only. -/
def notesKey : Key := .str "_notes"

mutual

/-- Lays the entries of a mapping over defaults. -/
def merge (defaults : Entries) : Entries → Entries
  | [] => defaults
  | (key, v) :: rest =>
    if key = notesKey then merge defaults rest
    else merge (Entries.put defaults key (overlay (Entries.get? defaults key) v)) rest

/-- What a value becomes that is laid over a default. -/
def overlay (default : Option Value) : Value → Value
  | .map entries => match default with
    | some (.map defaults) => .map (merge defaults entries)
    | _ => .map entries
  | v => v

end

/-- Lays a value over defaults, which must be a mapping. What counts as false changes nothing; any other
value must be a mapping too. -/
def mergeValue (defaults override : Value) : Except Fault Value :=
  match defaults with
  | .map defaults =>
    match override with
    | .map entries => .ok (.map (merge defaults entries))
    | v => if v.isTrue then .error .missingPart else .ok (.map defaults)
  | _ => .error .missingPart

end FrameHost.Config
