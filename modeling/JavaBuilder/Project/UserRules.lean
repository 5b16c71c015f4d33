import JavaBuilder.Disk.Tree
import JavaBuilder.Glob.IgnoreRule

/-!
# The ignore rules of a user

A user may have a file of ignore rules for all repositories. A configuration says where it is, in a
line like `excludesFile = ~/ignored`; otherwise it has a place of its own. There may be two
configurations, and the one at home counts first.

Nothing but such lines is looked for in a configuration, and the first one counts. Capitals make no
difference in the name of the setting. The path is a word without white space, perhaps in quotes, and
each `~` in it stands for the home of the user. The white space between the parts of a line may go
over the ends of lines.
-/

namespace JavaBuilder.Project

open Disk Glob

/-! ## Configurations -/

def newline : UInt8 := 10

def quoteMark : UInt8 := 34

def equalsSign : UInt8 := 61

def isSpace (b : UInt8) : Bool := b = 32 || (9 ≤ b && b ≤ 13)

/-- A byte in lower case, if it is a letter of ASCII. -/
def lowerByte (b : UInt8) : UInt8 := if 65 ≤ b && b ≤ 90 then b + 32 else b

/-- The name of the setting, in lower case. -/
def settingName : List UInt8 := "excludesfile".toUTF8.data.toList

/-- Nothing but white space is left of a line. -/
def endsLine (bs : List UInt8) : Bool :=
  match bs.dropWhile fun b ↦ isSpace b && b ≠ newline with
  | [] => true
  | b :: _ => b = newline

/-- Nothing but white space is left of a line, and perhaps one quotation mark in it. -/
def closesLine (bs : List UInt8) : Bool :=
  endsLine bs ||
    match bs.dropWhile isSpace with
    | [] => false
    | b :: bs => b = quoteMark && endsLine bs

/-- The shortest word after which a line is closed. -/
def closingWord? : List UInt8 → Option (List UInt8)
  | [] => none
  | b :: bs =>
    if isSpace b then none
    else if closesLine bs then some [b]
    else (closingWord? bs).map (b :: ·)

/-- The word after the equals sign. A quotation mark in front is a part of it only if there is no word
without it. -/
def settingWord? (bs : List UInt8) : Option (List UInt8) :=
  match bs.dropWhile isSpace with
  | [] => none
  | b :: bs =>
    let quoted := if b = quoteMark then closingWord? (bs.dropWhile isSpace) else none
    quoted.or (closingWord? (b :: bs))

/-- What the setting is at the start of a line, if it is there. -/
def settingAt? (line : List UInt8) : Option (List UInt8) :=
  let start := line.dropWhile isSpace
  if (start.take settingName.length).map lowerByte = settingName then
    match (start.drop settingName.length).dropWhile isSpace with
    | b :: bs => if b = equalsSign then settingWord? bs else none
    | [] => none
  else none

/-- What stands after each end of a line. -/
def afterNewlines : List UInt8 → List (List UInt8)
  | [] => []
  | b :: bs => if b = newline then bs :: afterNewlines bs else afterNewlines bs

/-- The text of the setting in a configuration. -/
def excludesFile? (content : ByteArray) : Option String := do
  let bs := content.data.toList
  let word ← (bs :: afterNewlines bs).findSome? settingAt?
  String.fromUTF8? ⟨word.toArray⟩

end JavaBuilder.Project

namespace JavaBuilder.Disk.User

open Project

variable (u : User)

/-- Where configurations are kept. -/
def configDirectory? : Option FilePath :=
  (u.config.filter (·.text ≠ "")).or (u.home.map (·.join ⟨".config"⟩))

/-- The configurations that may name a file of rules, the one that counts first in front. -/
def configFiles : List FilePath :=
  (u.home.map (·.join ⟨".gitconfig"⟩)).toList ++ (u.configDirectory?.map (·.join ⟨"git/config"⟩)).toList

/-- The path that a text stands for. -/
def expand (text : String) : FilePath :=
  match u.home with
  | some home => ⟨String.ofList (text.toList.flatMap fun c ↦ if c = '~' then home.text.toList else [c])⟩
  | none => ⟨text⟩

end JavaBuilder.Disk.User

namespace JavaBuilder.Project

open Disk Glob

/-! ## Rules -/

/-- A file of rules, where a path leads to one. -/
def ignoreFile (d : Disk) (p : FilePath) : IgnoreFile :=
  match d.contentAt? p with
  | some content => .ofContent content
  | none => .empty

/-- Where the rules of the user are. -/
def userFile? (d : Disk) : Option FilePath :=
  let named := d.user.configFiles.findSome? fun p ↦ (d.contentAt? p).bind excludesFile?
  (named.map d.user.expand).or (d.user.configDirectory?.map (·.join ⟨"git/ignore"⟩))

/-- The rules of the user. Faulty lines are passed over. -/
def userRules (d : Disk) : List IgnoreRule :=
  match userFile? d with
  | some p => (ignoreFile d p).rules
  | none => []

end JavaBuilder.Project
