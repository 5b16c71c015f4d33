import JavaBuilder.Unicode.Blank

/-!
# Trimming

White space at the ends of a text, in the Unicode sense of `isBlank`.
-/

namespace JavaBuilder.Text

open Unicode

/-- Drop white space at the front. -/
def trimStart (cs : List Char) : List Char := cs.dropWhile isBlank

/-- Drop white space at the back. -/
def trimEnd (cs : List Char) : List Char := (cs.reverse.dropWhile isBlank).reverse

/-- Drop white space at both ends. -/
def trim (s : String) : String := String.ofList (trimEnd (trimStart s.toList))

end JavaBuilder.Text
