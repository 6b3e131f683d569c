import ScriptMaps.Print.Layout
import ScriptMaps.Text.Position
import ScriptMaps.SourceMap.Segment
import ScriptMaps.SourceMap.Document

/-!
# Generated maps

The marks of laid out code tie its places to positions of the text it was generated from. With the
lines and columns of these positions they make up a map of one source.
-/

namespace ScriptMaps.SourceMap

open ScriptMaps.Print (Placed utf16Width)

/-- The segment a mark stands for. -/
def Segment.ofMark (places : Array Text.Place) (m : Placed) : Segment :=
  let place := places.getD (m.pos - 1) ⟨0, 0⟩
  ⟨m.line, m.column, some ⟨0, place.line, place.column, none⟩, false⟩

/-- The segments of the marks of a text, in the order of the marks. -/
def Segment.ofMarks (text : String) (marks : List Placed) : List Segment :=
  let places := (Text.places utf16Width text.toList).toArray
  marks.map (ofMark places)

/-- The map of the marks of a text, which is known under a name. -/
def Document.ofMarks (source text : String) (marks : List Placed) : Document :=
  { sources := if marks.isEmpty then [] else [source]
    mappings := Segment.encode (Segment.ofMarks text marks) }

end ScriptMaps.SourceMap
