import FeatureFlags.Configuration.Basic

/-!
**The file that keeps a configuration between runs.**

One writer handles all writes in the order in which they were queued. A configuration is first
written to a draft beside the file, and the draft then takes the place of the file in one step. Any
operation may fail, and the writing of the draft may stop in the middle; the writer then gives the
write up and goes on with the next task.

* `CacheDisk.perform`, `CacheDisk.performAll`: operations on the disk, up to the first that fails.
* `CacheDisk.writing`: the operations of a write.
* `CacheWriter.step`: the writer handles a task.
-/

namespace FeatureFlags

/-! ### The disk -/

/-- What stands in the place of the file. -/
inductive CachePlace where
  | vacant
  | file (octets : Octets)
  | folder
deriving DecidableEq, Repr

/-- The place of the file, and the draft beside it. -/
structure CacheDisk where
  place : CachePlace
  draft : Option Octets
deriving DecidableEq, Repr

/-- How the writing of a draft ends: it is complete, or it fails, before the draft is touched or
after some of the octets. -/
inductive DraftEnding where
  | complete
  | failed
  | cut (written : Nat)
deriving DecidableEq, Repr

/-- An operation on the disk, with how it ends. -/
inductive CacheOperation where
  | makeFolder (succeeds : Bool)
  | writeDraft (octets : Octets) (ending : DraftEnding)
  | moveDraft (succeeds : Bool)
deriving DecidableEq, Repr

/-- Where the file stands within the folder for caches, unless another place is given. -/
def defaultCachePath : String := "eppo/configuration.json"

namespace CacheDisk

/-- A disk with neither file nor draft. -/
def blank : CacheDisk := ⟨.vacant, none⟩

/-- The content of the file, if there is one that can be read. -/
def content? (disk : CacheDisk) : Option Octets :=
  match disk.place with
  | .file octets => some octets
  | _ => none

/-- The disk after an operation, and whether the operation succeeded. A draft does not take the
place of a folder. -/
def perform (disk : CacheDisk) : CacheOperation → CacheDisk × Bool
  | .makeFolder succeeds => (disk, succeeds)
  | .writeDraft octets .complete => ({ disk with draft := some octets }, true)
  | .writeDraft _ .failed => (disk, false)
  | .writeDraft octets (.cut written) => ({ disk with draft := some (octets.take written) }, false)
  | .moveDraft false => (disk, false)
  | .moveDraft true =>
    match disk.place, disk.draft with
    | .folder, _ | _, none => (disk, false)
    | _, some octets => (⟨.file octets, none⟩, true)

/-- The disk after some operations, up to the first that fails, and whether all succeeded. -/
def performAll (disk : CacheDisk) : List CacheOperation → CacheDisk × Bool
  | [] => (disk, true)
  | operation :: rest =>
    match disk.perform operation with
    | (after, true) => after.performAll rest
    | (after, false) => (after, false)

end CacheDisk

/-- How the operations of a write end, unless one before them fails. -/
structure WriteFate where
  folder : Bool
  draft : DraftEnding
  move : Bool
deriving DecidableEq, Repr

/-- Nothing is in the way of a write. -/
def WriteFate.smooth : WriteFate := ⟨true, .complete, true⟩

/-- The operations of a write. -/
def CacheDisk.writing (octets : Octets) (fate : WriteFate) : List CacheOperation :=
  [.makeFolder fate.folder, .writeDraft octets fate.draft, .moveDraft fate.move]

/-! ### The writer -/

/-- What the writer is asked for: to write a configuration, or to answer once it has come so far. -/
inductive CacheTask where
  | write (configuration : Configuration)
  | answer

/-- The writer of a file: the disk, and the tasks that are queued. -/
structure CacheWriter where
  disk : CacheDisk
  tasks : List CacheTask

/-- What comes of handling a task. -/
inductive CacheReport where
  | idle
  | written (succeeded : Bool)
  | answered
deriving DecidableEq, Repr

namespace CacheWriter

/-- A writer that has nothing to do. -/
def ofDisk (disk : CacheDisk) : CacheWriter := ⟨disk, []⟩

/-- Queue a task. -/
def queue (writer : CacheWriter) (task : CacheTask) : CacheWriter :=
  { writer with tasks := writer.tasks ++ [task] }

/-- Queue writes. -/
def queueAll (writer : CacheWriter) (configurations : List Configuration) : CacheWriter :=
  { writer with tasks := writer.tasks ++ configurations.map .write }

/-- Handle the first task. -/
def step (writer : CacheWriter) (fate : WriteFate) : CacheWriter × CacheReport :=
  match writer.tasks with
  | [] => (writer, .idle)
  | .write configuration :: rest =>
    let (disk, succeeded) :=
      writer.disk.performAll (CacheDisk.writing configuration.toOctets fate)
    (⟨disk, rest⟩, .written succeeded)
  | .answer :: rest => (⟨writer.disk, rest⟩, .answered)

/-- Handle tasks, one for each fate. -/
def run (writer : CacheWriter) : List WriteFate → CacheWriter × List CacheReport
  | [] => (writer, [])
  | fate :: rest =>
    let (after, report) := writer.step fate
    let (last, reports) := after.run rest
    (last, report :: reports)

/-- Handle all tasks, with nothing in the way. -/
def drain (writer : CacheWriter) : CacheWriter :=
  (writer.run (List.replicate writer.tasks.length .smooth)).1

end CacheWriter

end FeatureFlags
