import JavaBuilder.Text.Segments

/-!
# Lines of a file

The lines of a file that is not known to be text. A line ends with a line feed, and a carriage return
before it is part of the line end. What follows the last line feed is a line if it is anything.
-/

namespace JavaBuilder.Text

/-- A line without the carriage return of its line end. -/
def withoutReturn (line : List UInt8) : List UInt8 :=
  if line.getLast? = some 13 then line.dropLast else line

def byteLines (content : ByteArray) : List (List UInt8) :=
  let pieces := segments 10 content.toList
  pieces.dropLast.map withoutReturn ++ (pieces.getLast?.filter fun l ↦ !l.isEmpty).toList

/-- The text of a line, if it is text. -/
def lineText? (line : List UInt8) : Option String := String.fromUTF8? ⟨line.toArray⟩

end JavaBuilder.Text
