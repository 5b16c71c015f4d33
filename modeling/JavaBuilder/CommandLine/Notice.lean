import JavaBuilder.Project.Run

/-!
# Notices

What a command says while it works. Each notice is one line, but for the text of a file that a dry
run shows.
-/

namespace JavaBuilder.CommandLine

open Disk Java Project

/-- A thing to say. -/
inductive Notice where
  | scanning
  | noneFound
  | found (n : Nat)
  | skipping (n : Nat)
  | skipped (fault : DescriptorFault)
  | noneToGenerate
  | generating (level : Level) (guava : Bool)
  | written (type : String) (bytes : Nat) (path : FilePath)
  | wouldWrite (type : String) (path : FilePath) (text : String)
  | generated (n : Nat)
  | useForce
  | created (path : FilePath)
  | checking
  | outOfDate (path : FilePath)
  | missing (path : FilePath)
  | unreadable (fault : DescriptorFault)
  | upToDate (n : Nat)
  | useGenerate
  | startingWatch (input : FilePath)
  | watching
  | changed (path : FilePath)
  | watchError (message : String)
  | failed (error : Error)

namespace Notice

/-- A line across the screen. -/
def ruler : String := String.ofList (List.replicate 60 '─')

/-- The text of a notice, given the wording of descriptors that cannot be used. -/
def textWith (wording : DescriptorFault → String) : Notice → String
  | scanning => "Scanning for type descriptors..."
  | noneFound => "No descriptor files found."
  | found n => "  Found " ++ toString n ++ " descriptor file(s)"
  | skipping n => "Warning: " ++ toString n ++ " descriptor(s) skipped:"
  | skipped f => "  " ++ wording f
  | noneToGenerate => "No builders to generate."
  | generating level guava =>
    "Generating builders... (" ++ level.name ++ ", guava: " ++ (if guava then "true" else "false") ++
      ")"
  | written type bytes path =>
    "✓ " ++ type ++ " (" ++ toString bytes ++ " bytes) -> " ++ path.text
  | wouldWrite type path text =>
    "[dry-run] Would write " ++ type ++ " to " ++ path.text ++ ":\n" ++ ruler ++ "\n" ++ text ++ "\n" ++
      ruler
  | generated n => "  Generated " ++ toString n ++ " builder(s)"
  | useForce => "  Use --force to overwrite"
  | created path => "✓ Created configuration file: " ++ path.text
  | checking => "Checking generated builders..."
  | outOfDate path => "✗ " ++ path.text ++ " is out of date"
  | missing path => "✗ " ++ path.text ++ " is missing"
  | unreadable f => "✗ " ++ wording f
  | upToDate n => "✓ " ++ toString n ++ " builder(s) are up-to-date"
  | useGenerate => "  Run 'buildergen generate' to update"
  | startingWatch input =>
    "Starting watch mode...\n  Watching: " ++ input.text ++ "\n  Press Ctrl+C to stop\n"
  | watching => "\nWatching for changes..."
  | changed path => "\nDescriptor changed: " ++ path.text
  | watchError m => "Watch error: " ++ m
  | failed e => "Generation error: " ++ e.message

def text : Notice → String := textWith DescriptorFault.message

end Notice

end JavaBuilder.CommandLine
