import JavaBuilder.Unicode.Letter

/-!
# Identifiers

An identifier starts with a letter, an underscore or a dollar sign and goes on with letters,
numbers and the same two marks. Keywords are not excluded.
-/

namespace JavaBuilder.Name

open Unicode

/-- A character that may start an identifier. -/
def isIdentifierStart (c : Char) : Bool := isLetter c || c == '_' || c == '$'

/-- A character that may continue an identifier. -/
def isIdentifierPart (c : Char) : Bool := isLetterOrNumber c || c == '_' || c == '$'

theorem isIdentifierPart_of_start {c : Char} (h : isIdentifierStart c = true) :
    isIdentifierPart c = true := by
  simp only [isIdentifierStart, isIdentifierPart, Bool.or_eq_true] at h ⊢
  rcases h with (h | h) | h
  · exact .inl (.inl (isLetterOrNumber_of_isLetter h))
  · exact .inl (.inr h)
  · exact .inr h

/-- The characters spell an identifier. -/
def isIdentifierText : List Char → Bool
  | [] => false
  | c :: cs => isIdentifierStart c && cs.all isIdentifierPart

def isIdentifier (s : String) : Bool := isIdentifierText s.toList

theorem isIdentifierPart_of_mem {cs : List Char} (h : isIdentifierText cs = true) {c : Char}
    (hc : c ∈ cs) : isIdentifierPart c = true := by
  cases cs with
  | nil => simp at hc
  | cons d ds =>
    simp only [isIdentifierText, Bool.and_eq_true, List.all_eq_true] at h
    rcases List.mem_cons.1 hc with rfl | hc
    · exact isIdentifierPart_of_start h.1
    · exact h.2 c hc

end JavaBuilder.Name
