import JavaBuilder.Glob.PathFilter
import JavaBuilder.Model.Decode
import JavaBuilder.Project.Ignored

/-!
# Errors of a project

Why a project cannot be read, generated or written, and how it is said. A descriptor that cannot be
used is not an error of the project: it is skipped and reported.
-/

namespace JavaBuilder.Project

open Disk Glob Model

/-- Why descriptors cannot be found. -/
inductive ScanFault where
  /-- There is nothing to look through. -/
  | notFound (input : FilePath)
  /-- Nothing was found. -/
  | noDescriptors (input : FilePath)
  | invalidFilter (text : String) (error : FilterError)
  | unreadable (file : FilePath) (fault : Disk.Fault)
  /-- Ignore rules around the input cannot be used. -/
  | faultyRules (faults : List RuleFault)
deriving DecidableEq, Repr

/-- Why a descriptor cannot be used. -/
inductive DescriptorFault where
  /-- Its text is no descriptor. -/
  | json (file : FilePath) (fault : DecodeFault)
  /-- It describes no datatype. -/
  | model (file : FilePath) (error : Model.Error)

/-- Why builders cannot be generated. -/
inductive GenerateFault where
  /-- A type has no builder. -/
  | rejected (type : String) (error : Model.Error)
  /-- Two descriptors are of one type. -/
  | duplicate (type : String) (first second : FilePath)
deriving DecidableEq, Repr

/-- Why there is no configuration. -/
inductive ConfigFault where
  | notFound (file : FilePath)
  /-- Its text is no configuration. -/
  | invalidToml (file : FilePath)
  /-- A value is none of those that its key can have. -/
  | invalidValue (key expected found : String)
  | unreadable (file : FilePath) (fault : Disk.Fault)
deriving DecidableEq, Repr

/-- Why generated files cannot be written or compared. -/
inductive WriteFault where
  | noDirectory (directory : FilePath) (fault : Disk.Fault)
  | unwritable (file : FilePath) (fault : Disk.Fault)
  | unreadable (file : FilePath) (fault : Disk.Fault)
deriving DecidableEq, Repr

/-- Why a command fails. -/
inductive Error where
  | scan (fault : ScanFault)
  | generate (fault : GenerateFault)
  | config (fault : ConfigFault)
  | write (fault : WriteFault)
  /-- Generated files are out of date, or descriptors cannot be used. -/
  | stale (outdated unreadable : Nat)
  /-- There is a configuration already. -/
  | configExists (file : FilePath)
  | disk (fault : Disk.Fault)
deriving DecidableEq, Repr

/-! ## Wordings -/

def ScanFault.message : ScanFault → String
  | notFound p => "Input not found: " ++ p.text
  | noDescriptors p => "No descriptor files found in: " ++ p.text
  | invalidFilter text e => "Invalid filter pattern '" ++ text ++ "': " ++ e.message
  | unreadable p f => "IO error scanning " ++ p.text ++ ": " ++ f.message
  | faultyRules fs => "Walk error: " ++ Text.join '\n' (fs.map RuleFault.message)

namespace DescriptorFault

/-- The file that cannot be used. -/
def file : DescriptorFault → FilePath
  | json p _ | model p _ => p

/-- What is wrong with it. -/
def cause : DescriptorFault → String
  | json _ f => decodeMessage f
  | model _ e => e.message

def message (f : DescriptorFault) : String := "Invalid descriptor " ++ f.file.text ++ ": " ++ f.cause

end DescriptorFault

def GenerateFault.message : GenerateFault → String
  | rejected type e => type ++ ": " ++ e.message
  | duplicate type p q =>
    "Type '" ++ type ++ "' is described by both " ++ p.text ++ " and " ++ q.text

def ConfigFault.message : ConfigFault → String
  | notFound p => "Configuration file not found: " ++ p.text
  | invalidToml p => "Invalid TOML in " ++ p.text
  | invalidValue key expected found =>
    "Invalid configuration value for '" ++ key ++ "': expected " ++ expected ++ ", got \"" ++ found ++
      "\""
  | unreadable p f => "Failed to read config " ++ p.text ++ ": " ++ f.message

def WriteFault.message : WriteFault → String
  | noDirectory p f => "Failed to create directory " ++ p.text ++ ": " ++ f.message
  | unwritable p f => "Failed to write file " ++ p.text ++ ": " ++ f.message
  | unreadable p f => "Failed to read file " ++ p.text ++ ": " ++ f.message

def Error.message : Error → String
  | scan f => "Failed to scan for descriptors: " ++ f.message
  | generate f => "Failed to generate builders: " ++ f.message
  | config f => "Failed to load configuration: " ++ f.message
  | write f => "Failed to write output: " ++ f.message
  | stale outdated unreadable =>
    "Check failed: " ++ toString outdated ++ " builder(s) out of date, " ++ toString unreadable ++
      " descriptor(s) unreadable"
  | configExists p => "IO error: Configuration file already exists: " ++ p.text
  | disk f => "IO error: " ++ f.message

end JavaBuilder.Project
