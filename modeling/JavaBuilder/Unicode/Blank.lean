import JavaBuilder.Unicode.Ranges

/-!
# White space

The property *White_Space*: tab, line feed, vertical tab, form feed, carriage return, the space,
next line, the no-break space, and the spaces and separators of the higher planes. The zero-width
space and the byte order mark do not have it.
-/

namespace JavaBuilder.Unicode

/-- White space above ASCII. -/
def blanks : Ranges := [
  (133, 133), (160, 160), (5760, 5760), (8192, 8202), (8232, 8233), (8239, 8239), (8287, 8287),
  (12288, 12288)]

/-- A white space character. -/
def isBlank (c : Char) : Bool :=
  if isAscii c then c == ' ' || (9 ≤ c.toNat && c.toNat ≤ 13) else blanks.mem c

end JavaBuilder.Unicode
