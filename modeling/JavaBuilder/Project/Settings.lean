import JavaBuilder.Builder.Assembly
import JavaBuilder.Project.Error
import JavaBuilder.Toml.Decode

/-!
# Settings

What a project says about its output and about the code that may be generated. Settings come from a
configuration file, where every one of them may be left out, and arguments override them.

Layout options are kept as they are written, and looked at only when code is generated: a file with
an unknown indentation can be read, but nothing can be generated with it.
-/

namespace JavaBuilder.Project

open Disk
open Java (Level Indent LineEnd)

structure Settings where
  /-- The source root of generated files. -/
  directory : FilePath
  /-- Write documentation comments. -/
  docs : Bool
  /-- Mark builders as generated. -/
  annotate : Bool
  /-- The name of the indentation. -/
  indent : String
  /-- The name of the line end. -/
  lineEnd : String
  level : Level
  guava : Bool
deriving DecidableEq, Repr

namespace Settings

/-- Settings that nothing is said about. -/
def standard : Settings := ⟨⟨"./generated"⟩, true, false, "2", "lf", .java8, false⟩

/-- The settings are the standard ones. A source root may be written in several ways. -/
def isStandard (s : Settings) : Bool :=
  s.directory.parts = standard.directory.parts ∧ { s with directory := standard.directory } = standard

/-- The indentation with a name, in any case. -/
def indentOf? (name : String) : Option Indent :=
  match name.toLower with
  | "2" => some .two
  | "4" => some .four
  | "tab" | "tabs" => some .tab
  | _ => none

/-- The line end with a name, in any case. -/
def lineEndOf? (name : String) : Option LineEnd :=
  match name.toLower with
  | "lf" => some .lf
  | "crlf" => some .crlf
  | _ => none

/-- The options of generated code. -/
def options (s : Settings) : Except ConfigFault Builder.Config :=
  match indentOf? s.indent, lineEndOf? s.lineEnd with
  | none, _ =>
    throw (.invalidValue "output.indent" "\"2\", \"4\" or \"tab\"" s.indent.toLower)
  | _, none => throw (.invalidValue "output.line_ending" "\"lf\" or \"crlf\"" s.lineEnd.toLower)
  | some indent, some lineEnd => return ⟨⟨s.level, s.guava⟩, s.docs, s.annotate, ⟨indent, lineEnd⟩⟩

/-! ## Overrides -/

/-- Settings given as arguments. -/
structure Overrides where
  directory : Option FilePath := none
  level : Option Level := none
  guava : Option Bool := none
  docs : Option Bool := none
deriving DecidableEq, Repr

/-- Settings with some of them overridden. -/
def override (s : Settings) (o : Overrides) : Settings :=
  { s with
    directory := o.directory.getD s.directory
    level := o.level.getD s.level
    guava := o.guava.getD s.guava
    docs := o.docs.getD s.docs }

/-! ## Reading a configuration -/

open Toml

/-- A language level, by its name. -/
def level? (item : Item) : Option Level :=
  item.choice?.bind fun s ↦ Level.all.find? fun l ↦ l.name == s

def output? (s : Settings) (item : Item) : Option Settings := do
  match ← item.fields? ["dir", "generate_docs", "generated_annotation", "indent", "line_ending"] with
  | [directory, docs, annotate, indent, lineEnd] =>
    return { s with
      directory := ⟨← Item.fieldOr s.directory.text Item.text? directory⟩
      docs := ← Item.fieldOr s.docs Item.bool? docs
      annotate := ← Item.fieldOr s.annotate Item.bool? annotate
      indent := ← Item.fieldOr s.indent Item.text? indent
      lineEnd := ← Item.fieldOr s.lineEnd Item.text? lineEnd }
  | _ => none

/-- Settings about generated code. -/
def java? (s : Settings) (item : Item) : Option Settings := do
  match ← item.fields? ["source_level", "guava"] with
  | [level, guava] =>
    return { s with
      level := ← Item.fieldOr s.level level? level
      guava := ← Item.fieldOr s.guava Item.bool? guava }
  | _ => none

/-- The settings in a table. What they do not name is passed over. -/
def ofTable? (t : Table) : Option Settings := do
  let s ← match t.lookup "output" with
    | none => some standard
    | some item => output? standard item
  match t.lookup "java" with
  | none => return s
  | some item => java? s item

def ofText? (text : String) : Option Settings := (Table.ofText? text).bind ofTable?

/-- The name of the configuration of a project. -/
def fileName : String := "buildergen.toml"

/-- The settings of a project. A configuration that is asked for must be there. -/
def read (d : Disk) (asked : Option FilePath) : Except ConfigFault Settings := do
  let file := asked.getD ⟨fileName⟩
  if !d.hasPath file then
    if asked.isSome then throw (.notFound file)
    return standard
  match d.readText file with
  | .error f => throw (.unreadable file f)
  | .ok text =>
    match ofText? text with
    | some s => return s
    | none => throw (.invalidToml file)

/-! ## A new configuration -/

/-- A configuration that says what would hold without it. -/
def template : String := String.join <| (· ++ "\n") <$> [
  "# buildergen configuration file",
  "",
  "[output]",
  "# Source root the generated builders are written under",
  "dir = \"./generated\"",
  "",
  "# Whether to generate Javadoc comments on builder methods",
  "generate_docs = true",
  "",
  "# Whether to annotate builders with @Generated",
  "generated_annotation = false",
  "",
  "# Indentation of generated code (\"2\", \"4\" or \"tab\")",
  "indent = \"2\"",
  "",
  "# Line endings of generated code (\"lf\" or \"crlf\")",
  "line_ending = \"lf\"",
  "",
  "[java]",
  "# Language level of the generated code (java6, java7, java8)",
  "source_level = \"java8\"",
  "",
  "# Whether Guava is available (immutable copies, Multiset, Preconditions)",
  "guava = false"]

end Settings

end JavaBuilder.Project
