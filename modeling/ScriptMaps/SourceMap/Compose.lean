import ScriptMaps.SourceMap.Form
import ScriptMaps.SourceMap.Rebase

/-!
# Composing maps

Composing the map of generated code with the map of the text it was generated from gives a map that
leads from the code straight to the sources. Of the keys that the input map keeps, those that say
something about its sources or segments are written anew.
-/

namespace ScriptMaps.SourceMap

open ScriptMaps.Json

/-- A sorted list of numbers without repetitions. -/
def insertNumber (n : Nat) : List Nat → List Nat
  | [] => [n]
  | m :: ms => if n < m then n :: m :: ms else if n == m then m :: ms else m :: insertNumber n ms

/-- The sources to be ignored, in order and each once. -/
def ignoredSources (extra : Members) : List Nat :=
  match extra.find? "ignoreList" with
  | some (.array elems) => (elems.filterMap Form.natural32?).foldr insertNumber []
  | _ => []

/-- The debug identifier of a map as text. -/
def mapIdentifier (extra : Members) : Option String :=
  let under (key : String) : Option String :=
    match extra.find? key with
    | some (.string s) => (DebugId.parse? s).map DebugId.text
    | _ => none
  (under "debugId").orElse fun _ => under "debug_id"

/-- The contents of the sources, one for each, if any is known. -/
def paddedContents (d : Document) : Option (List (Option String)) :=
  match d.sourcesContent with
  | none => none
  | some contents =>
    let padded := d.sources.zipIdx.map fun (_, i) => (contents[i]?).join
    if padded.any Option.isSome then some padded else none

/-- The sources to be ignored as a list of numbers, if there are any. -/
def ignoreList (extra : Members) : Option Value :=
  match ignoredSources extra with
  | [] => none
  | ignored => some (.array (ignored.map fun n : Nat => .number (.integer (n : Int))))

/-- A document with the sources and names of another but segments of its own. -/
def Document.withSegments (d : Document) (segments : List Segment) : Document :=
  let extra : Members :=
    Members.insertSome "debugId" ((mapIdentifier d.extra).map .string) []
      |>.insertSome "ignoreList" (ignoreList d.extra)
      |>.insertSome "rangeMappings" ((Segment.encodeRangeMappings segments).map .string)
  { version := 3, sources := d.sources, sourcesContent := paddedContents d, names := d.names,
    mappings := Segment.encode segments, extra := extra }

/-- The map from generated code to the sources of the text it was generated from. -/
def compose (generated input : Document) : Except MapCause Document := do
  let ours ← generated.segments
  let theirs ← input.segments
  return input.withSegments (rebase ours theirs)

/-- A document with the keys of another that it does not have itself. -/
def Document.withExtraOf (d : Document) (input : Document) : Document :=
  { d with extra := input.extra.foldl (fun ms m => ms.insertNew m.1 m.2) d.extra }

end ScriptMaps.SourceMap
