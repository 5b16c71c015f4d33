import JavaBuilder.CommandLine.Generate
import JavaBuilder.Project.WatchEvent

/-!
# Watching

Generating goes on while a project is watched: builders are generated once, and again after each
change of a descriptor. An error is said and ends nothing. Only a watcher that cannot start does, after
the first time.

When a watcher reports what is not for the program to decide, and others may change the disk in the
meantime. So both are given: whether the watcher starts, what it reports, and what became of the disk
before each report. Watching ends when there are no more reports.
-/

namespace JavaBuilder.CommandLine

open Disk Project

/-! ## Watchers -/

/-- Why a project cannot be watched. -/
inductive WatchFault where
  | start (reason : String)
deriving DecidableEq, Repr

def WatchFault.message : WatchFault → String
  | start reason => "Watch error: Failed to initialize file watcher: " ++ reason

/-- A report of a watcher. -/
structure Report where
  event : WatchEvent
  /-- What others have made of the disk since the last report. -/
  others : Disk → Disk

/-- What a watcher reports, if it can start. -/
abbrev Watcher := Except WatchFault (List Report)

/-- What a command does that may go on watching. -/
structure Session extends Outcome where
  fault : Option WatchFault

def Session.exitCode (s : Session) : UInt32 := if s.fault.isSome then 1 else s.toOutcome.exitCode

/-! ## Steps -/

def Outcome.andThen (o : Outcome) (next : Disk → Outcome) : Outcome := (next o.disk).after o.notices

/-- Generate once, and say an error. -/
def generateSaying (t : Target) (s : Settings) (dryRun : Bool) (d : Disk) : Outcome :=
  let o := generateOnce t s dryRun d
  ⟨o.disk, o.notices ++ o.error.toList.map .failed, none⟩

/-- Wait for a report. -/
def Outcome.await (o : Outcome) : Outcome := o.andThen fun d ↦ ⟨d, [.watching], none⟩

/-- Take what is reported into account. -/
def onEvent (t : Target) (s : Settings) (dryRun : Bool) (e : WatchEvent) (d : Disk) : Outcome :=
  match e.message? with
  | some m => ⟨d, [.watchError m], none⟩
  | none => ((generateSaying t s dryRun d).after (e.path?.toList.map .changed)).await

/-- Take a report into account. -/
def onReport (t : Target) (s : Settings) (dryRun : Bool) (o : Outcome) (r : Report) : Outcome :=
  o.andThen fun d ↦ onEvent t s dryRun r.event (r.others d)

/-! ## Sessions -/

/-- What is done before watching. -/
def startWatch (t : Target) (s : Settings) (dryRun : Bool) (d : Disk) : Outcome :=
  (generateSaying t s dryRun d).after [.startingWatch t.input]

/-- Generate and go on watching. -/
def runWatch (t : Target) (dryRun : Bool) (watcher : Watcher) (d : Disk) : Session :=
  match t.settings d with
  | .error e => ⟨⟨d, [], some e⟩, none⟩
  | .ok s =>
    let start := startWatch t s dryRun d
    match watcher with
    | .error f => ⟨start, some f⟩
    | .ok reports => ⟨reports.foldl (onReport t s dryRun) start.await, none⟩

/-- Take all changes from one disk to another into account. -/
def continueWatch (t : Target) (s : Settings) (dryRun : Bool) (before after : Disk) : Outcome :=
  (WatchEvent.between before after t.input).foldl (fun o e ↦ onReport t s dryRun o ⟨e, id⟩)
    ⟨after, [], none⟩

end JavaBuilder.CommandLine
