import JavaBuilder.Glob.Pattern
import JavaBuilder.Text.Lines
import JavaBuilder.Text.Trim

/-!
# Ignore rules

A line of an ignore file says which files below its directory to leave out. After `!` it says which
ones to keep, and with a slash at its end it speaks of directories only. A pattern with a slash in it
is matched against the whole path from the directory of the file, any other against the last name.

In a pattern `?` and `*` stand for anything but slashes, brackets for a set, braces for a choice, and
a backslash takes the meaning from the character after it. `**` stands for any number of whole
segments where it fills a segment, and is two stars anywhere else. Rules are matched against the
bytes of a path, so `?` stands for one byte.

A bracket that is never closed stands for itself, and so does every bracket after it. Other patterns
that are not well formed are faults, and their lines are no rules.
-/

namespace JavaBuilder.Glob

open Text

/-- The separator of paths, as a byte. -/
def slash : UInt8 := 47

/-! ## Pieces of a pattern -/

/-- A piece of the pattern of a rule. -/
inductive Bit where
  | char (c : Char)
  /-- `?` -/
  | anyByte
  | set (negated : Bool) (ranges : List (Char × Char))
  /-- `*` -/
  | run
  /-- `**` and the slash after it, at the start. -/
  | leading
  /-- `**` and the slashes around it. -/
  | between
  /-- `**` and the slash before it, at the end. -/
  | trailing
  /-- A choice. -/
  | choice (p : Pattern UInt8)
  /-- A choice of nothing. -/
  | nothing

namespace Bit

def charBytes (c : Char) : List UInt8 := (String.singleton c).toUTF8.toList

/-- The ranges of bytes of a range of characters. The last byte of its start and the first byte of
its end span a range. -/
def byteRanges (r : Char × Char) : List (UInt8 × UInt8) :=
  let single (b : UInt8) := (b, b)
  let lo := charBytes r.1
  let hi := charBytes r.2
  if r.1 = r.2 then lo.map single
  else lo.dropLast.map single ++ (lo.getLastD 0, hi.headD 0) :: hi.tail.map single

/-- Any number of whole segments, each with the slash after it. -/
def segmentsBefore : Pattern UInt8 := .either .empty (.seq (.many .all) (.one (.only slash)))

def pattern : Bit → Pattern UInt8
  | char c => .sequence ((charBytes c).map fun b ↦ .one (.only b))
  | anyByte => .one (.allBut slash)
  | set negated ranges => .one ⟨negated, ranges.flatMap byteRanges⟩
  | run => .many (.allBut slash)
  | leading => .either .empty (.either (.one (.only slash)) segmentsBefore)
  | between => .seq (.one (.only slash)) segmentsBefore
  | trailing => .seq (.one (.only slash)) (.many .all)
  | choice p => p
  | nothing => .empty

/-- The pieces that stand for a choice of branches. Branches without anything in them are left
out. -/
def ofBranches (branches : List (List Bit)) : Bit :=
  let filled := branches.filter fun bits ↦ !bits.all fun b ↦ b matches .nothing
  match filled.map fun bits ↦ Pattern.sequence (bits.map pattern) with
  | [] => .nothing
  | p :: ps => .choice (ps.foldl .either p)

/-- The pattern of all pieces. `**` alone stands for everything. -/
def wholePattern : List Bit → Pattern UInt8
  | [.leading] => .many .all
  | bits => .sequence (bits.map pattern)

end Bit

/-! ## Reading a pattern -/

/-- Why a pattern is not well formed. -/
inductive PatternFault where
  /-- A range ends before it starts. -/
  | inverted (first last : Char)
  /-- A choice is closed that was not opened. -/
  | unopened
  /-- A choice is not closed. -/
  | unclosed
  /-- Nothing follows a backslash. -/
  | dangling
deriving DecidableEq, Repr

def PatternFault.message : PatternFault → String
  | inverted first last =>
    "invalid range; '" ++ first.toString ++ "' > '" ++ last.toString ++ "'"
  | unopened => "unopened alternate group; missing '\x7b' (maybe escape '\x7d' with '[\x7d]'?)"
  | unclosed => "unclosed alternate group; missing '\x7d' (maybe escape '\x7b' with '[\x7b]'?)"
  | dangling => "dangling '\\'"

/-- How reading a set ends. -/
inductive SetEnd where
  /-- The bracket is closed. -/
  | closed (ranges : List (Char × Char)) (rest : List Char)
  /-- The bracket is never closed. -/
  | unclosed
  /-- A range ends before it starts. -/
  | inverted (first last : Char)

/-- The ranges up to the closing bracket. `last` is the last range read, newest first, and `inRange`
says that a dash came after it. -/
def readRanges (ranges : List (Char × Char)) (inRange : Bool) : List Char → SetEnd
  | [] => .unclosed
  | c :: cs =>
    if c = ']' ∧ ranges ≠ [] then
      .closed (ranges.reverse ++ if inRange then [('-', '-')] else []) cs
    else
      match ranges with
      | [] => readRanges [(c, c)] false cs
      | (lo, hi) :: earlier =>
        if inRange then
          if c < lo then .inverted lo c else readRanges ((lo, c) :: earlier) false cs
        else if c = '-' then readRanges ((lo, hi) :: earlier) true cs
        else readRanges ((c, c) :: (lo, hi) :: earlier) false cs

/-- A set after its opening bracket. -/
def readSetEnd : List Char → Bool × SetEnd
  | '!' :: cs | '^' :: cs => (true, readRanges [] false cs)
  | cs => (false, readRanges [] false cs)

structure OpenChoice where
  /-- The branches before the current one, newest first. -/
  earlier : List (List Bit)
  /-- What stands before the choice, newest first. -/
  before : List Bit

/-- What is being read. -/
structure BitReader where
  /-- The open choices, innermost first. -/
  choices : List OpenChoice
  /-- The pieces of the current branch, newest first. -/
  current : List Bit
  /-- The character before. -/
  previous : Option Char
  /-- A bracket was never closed. -/
  bracketsOff : Bool

namespace BitReader

variable (r : BitReader)

/-- Nothing has been read. -/
def start : BitReader := ⟨[], [], none, false⟩

/-- Add pieces, in order. -/
def push (bits : List Bit) (previous : Char) : BitReader :=
  { r with current := bits.reverse ++ r.current, previous := some previous }

/-- Read two stars where pieces stand before them. `endsSegment` says that the segment ends after
them. The slash before them becomes part of the piece. -/
def pushSegments (bit : Bit) (previous : Char) : BitReader :=
  match r.current with
  | .leading :: _ => { r with previous := some previous }
  | .trailing :: _ => { r with previous := some previous }
  | bits => { r with current := bit :: bits.tail, previous := some previous }

/-- Two stars can be whole segments after the pieces before them. -/
def startsSegment : Bool :=
  r.previous == some '/' ||
    (!r.choices.isEmpty && (r.previous == some ',' || r.previous == some '\x7b'))

/-- Two stars end a segment before a character. -/
def endsBranch (c : Char) : Bool := !r.choices.isEmpty && (c == ',' || c == '\x7d')

def openChoice : BitReader :=
  { r with choices := ⟨[], r.current⟩ :: r.choices, current := [], previous := some '\x7b' }

/-- End a branch. Outside choices a comma stands for itself. -/
def comma : BitReader :=
  match r.choices with
  | [] => r.push [.char ','] ','
  | ch :: rest =>
    { r with
      choices := { ch with earlier := r.current :: ch.earlier } :: rest
      current := []
      previous := some ',' }

def closeChoice : Except PatternFault BitReader :=
  match r.choices with
  | [] => throw .unopened
  | ch :: rest =>
    let branches := (r.current :: ch.earlier).reverse.map List.reverse
    return { r with
      choices := rest
      current := Bit.ofBranches branches :: ch.before
      previous := some '\x7d' }

end BitReader

/-- The pieces of a pattern. The reader counts down from the length of the pattern and uses up a
character at each step, so the count never decides an answer. -/
def readBits : Nat → BitReader → List Char → Except PatternFault (List Bit)
  | _, r, [] => if r.choices.isEmpty then return r.current.reverse else throw .unclosed
  | 0, _, _ => throw .dangling
  | fuel + 1, r, '*' :: '*' :: cs =>
    if r.current.isEmpty then
      match cs with
      | [] => readBits fuel (r.push [.leading] '*') []
      | '/' :: rest => readBits fuel (r.push [.leading] '/') rest
      | _ => readBits fuel (r.push [.run, .run] '*') cs
    else if !r.startsSegment then readBits fuel (r.push [.run, .run] '*') cs
    else
      match cs with
      | [] => readBits fuel (r.pushSegments .trailing '*') []
      | '/' :: rest => readBits fuel (r.pushSegments .between '/') rest
      | c :: _ =>
        if r.endsBranch c then readBits fuel (r.pushSegments .trailing '*') cs
        else readBits fuel (r.push [.run, .run] '*') cs
  | fuel + 1, r, c :: cs =>
    if c = '*' then readBits fuel (r.push [.run] c) cs
    else if c = '?' then readBits fuel (r.push [.anyByte] c) cs
    else if c = '[' ∧ !r.bracketsOff then
      match readSetEnd cs with
      | (negated, .closed ranges rest) => readBits fuel (r.push [.set negated ranges] ']') rest
      | (_, .unclosed) => readBits fuel { r.push [.char c] c with bracketsOff := true } cs
      | (_, .inverted first last) => throw (.inverted first last)
    else if c = '\x7b' then readBits fuel r.openChoice cs
    else if c = '\x7d' then do readBits fuel (← r.closeChoice) cs
    else if c = ',' then readBits fuel r.comma cs
    else if c = '\\' then
      match cs with
      | [] => throw .dangling
      | e :: rest => readBits fuel (r.push [.char e] e) rest
    else readBits fuel (r.push [.char c] c) cs

/-! ## Rules -/

/-- A rule of an ignore file. -/
structure IgnoreRule where
  /-- The files that it speaks of, by their path. -/
  pattern : Pattern UInt8
  /-- The files are kept and not left out. -/
  keeps : Bool
  /-- It speaks of directories only. -/
  directoriesOnly : Bool

namespace IgnoreRule

/-- The pattern that starts with `**` is left as it is. -/
def hasLeadingStars (cs : List Char) : Bool :=
  ['*', '*', '/'].isPrefixOf cs || cs == ['*', '*']

/-- The pattern in full: one without a slash is about the last name, and `/**` at the end is about
what is inside. -/
def fullPattern (anchored : Bool) (cs : List Char) : List Char :=
  let cs :=
    if anchored || cs.contains '/' || hasLeadingStars cs then cs else ['*', '*', '/'] ++ cs
  if ['/', '*', '*'].isSuffixOf cs then cs ++ ['/', '*'] else cs

/-- The rule of a line after its marks in front. -/
def ofPattern (keeps anchored : Bool) (cs : List Char) : Except PatternFault IgnoreRule := do
  let directoriesOnly := cs.getLast? = some '/'
  let cs := if directoriesOnly then cs.dropLast else cs
  let cs := if directoriesOnly ∧ cs.getLast? = some '\\' then cs.dropLast else cs
  let full := fullPattern anchored cs
  let bits ← readBits (full.length + 1) .start full
  return ⟨Bit.wholePattern bits, keeps, directoriesOnly⟩

/-- The rule of a line that is not empty. -/
def ofLine : List Char → Except PatternFault IgnoreRule
  | '\\' :: '!' :: cs => ofPattern false false ('!' :: cs)
  | '\\' :: '#' :: cs => ofPattern false false ('#' :: cs)
  | '!' :: '/' :: cs => ofPattern true true cs
  | '!' :: cs => ofPattern true false cs
  | '/' :: cs => ofPattern false true cs
  | cs => ofPattern false false cs

def appliesTo (r : IgnoreRule) (path : String) (isDirectory : Bool) : Bool :=
  (isDirectory || !r.directoriesOnly) && r.pattern.accepts path.toUTF8.toList

/-- What the last rule that speaks of a path says: to leave it out, or to keep it. -/
def verdict? (rules : List IgnoreRule) (path : String) (isDirectory : Bool) : Option Bool :=
  (rules.reverse.find? (·.appliesTo path isDirectory)).map fun r ↦ !r.keeps

end IgnoreRule

/-! ## Files of rules -/

/-- A line that should be a rule and is not. -/
structure LineFault where
  /-- Lines are counted from one. -/
  number : Nat
  text : String
  fault : PatternFault
deriving DecidableEq, Repr

def LineFault.message (f : LineFault) : String :=
  "line " ++ toString f.number ++ ": error parsing glob '" ++ f.text ++ "': " ++ f.fault.message

/-- The rules in a file, and the lines that are none. -/
structure IgnoreFile where
  rules : List IgnoreRule
  faults : List LineFault

namespace IgnoreFile

/-- No rules. -/
def empty : IgnoreFile := ⟨[], []⟩

/-- What a line says, if it says anything: comments do not, and white space at the end is dropped
unless a backslash stands before it. -/
def ruleText? (line : List Char) : Option (List Char) :=
  if line.head? = some '#' then none
  else
    match if ['\\', ' '].isSuffixOf line then line else trimEnd line with
    | [] => none
    | cs => some cs

/-- Read lines, the first of which has a number. -/
def ofLines (number : Nat) : List (List Char) → IgnoreFile
  | [] => empty
  | line :: lines =>
    let file := ofLines (number + 1) lines
    match ruleText? line with
    | none => file
    | some cs =>
      match IgnoreRule.ofLine cs with
      | .ok r => { file with rules := r :: file.rules }
      | .error f => { file with faults := ⟨number, String.ofList cs, f⟩ :: file.faults }

/-- The lines of a file, up to the first one that is no text. -/
def textLines (content : ByteArray) : List String :=
  (((byteLines content).map lineText?).takeWhile Option.isSome).filterMap id

/-- Read a file of rules. A byte order mark in front is no part of the first line. -/
def ofContent (content : ByteArray) : IgnoreFile :=
  match (textLines content).map String.toList with
  | [] => empty
  | line :: lines => ofLines 1 (line.dropWhile (· = '\ufeff') :: lines)

end IgnoreFile

end JavaBuilder.Glob
