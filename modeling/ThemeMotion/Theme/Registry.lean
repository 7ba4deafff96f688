import ThemeMotion.Files.Path
import ThemeMotion.Files.Source
import ThemeMotion.Ranking
import ThemeMotion.Selector.Printer
import ThemeMotion.Selector.Score
import ThemeMotion.Theme.Document
import ThemeMotion.Trace.Event

/-!
# Registered triggers

The registry holds the triggers of all documents that were added, in the order of
adding. A document is added as a whole or not at all, and an id that is already
registered keeps a document out. A trigger answers a signal when its sender selector
matches the actor that emits it; of several such triggers the one with the highest
score is chosen, and the earlier one when scores are equal.
-/

namespace ThemeMotion

open Trace (Noted)

/-- Why a theme file, or a directory of them, was not loaded. -/
inductive LoadError where
  | unreadable (path : String) (fault : FileFault)
  | malformed (document : Malformed)
deriving DecidableEq, Repr

/-- The wording of a load error. -/
def LoadError.message : LoadError → String
  | .unreadable path fault => s!"failed to read {path}: {fault.message}"
  | .malformed document => document.message

/-- What became of the theme files of a directory, each list in the order of names. -/
structure DirectoryLoad where
  /-- The files that were added, and how many triggers each contributed. -/
  loaded : List (String × Nat)
  failed : List (String × LoadError)
deriving DecidableEq, Repr

/-- The triggers that are known, in the order of adding. -/
structure Registry where
  triggers : List Trigger
deriving DecidableEq, Repr

namespace Registry

/-- No trigger is known. -/
def empty : Registry := ⟨[]⟩

/-- The number of triggers. -/
def size (registry : Registry) : Nat := registry.triggers.length

/-- The trigger of an id. -/
def find? (registry : Registry) (id : String) : Option Trigger :=
  registry.triggers.find? (·.id == id)

/-- Adds a document under a name. Its triggers come last, and the answer is their
number; a refused document changes nothing. -/
def addText (registry : Registry) (source name : String) :
    Noted (Except LoadError Nat × Registry) := do
  match Document.read ⟨name, registry.triggers⟩ source with
  | .error malformed => return (.error (.malformed malformed), registry)
  | .ok triggers =>
    let next : Registry := ⟨registry.triggers ++ triggers⟩
    let count := Decimal.natural triggers.length
    Noted.report .debug "merged theme animations" [("file", name), ("triggers", count)]
    Noted.diagnose .parser "diagnostics: theme file parsed"
      [("file", name), ("triggers", count), ("total", Decimal.natural next.size)]
    return (.ok triggers.length, next)

/-- Adds a file under its path. -/
def addFile (registry : Registry) (files : FileSource) (path : String) :
    Noted (Except LoadError Nat × Registry) :=
  match files.read path with
  | .error fault => pure (.error (.unreadable path fault), registry)
  | .ok source => registry.addText source path

/-- Reports that a file is left out. -/
def reportSkipped (path : String) (error : LoadError) : Noted Unit :=
  Noted.report .warn "skipping theme animation file" [("file", path), ("error", error.message)]

/-- Adds files one after the other; one that fails is left out. -/
def addFiles (registry : Registry) (files : FileSource) :
    List String → Noted (DirectoryLoad × Registry)
  | [] => pure (⟨[], []⟩, registry)
  | path :: rest => do
    let (outcome, next) ← registry.addFile files path
    match outcome with
    | .ok count =>
      let (load, last) ← next.addFiles files rest
      return ({ load with loaded := (path, count) :: load.loaded }, last)
    | .error error =>
      reportSkipped path error
      let (load, last) ← next.addFiles files rest
      return ({ load with failed := (path, error) :: load.failed }, last)

/-- The name of a file with the given extension, in either case of its letters. -/
def hasExtension (extension name : String) : Bool :=
  (Path.extension? name).any fun written => Text.sameIgnoringCase written extension

/-- The theme files among the names in a directory, in the order of names. -/
def candidates (files : FileSource) (directory extension : String) (names : List String) :
    List String :=
  ((names.filter (hasExtension extension)).mergeSort fun first second => first ≤ second).map
    (Path.join directory) |>.filter files.isFile

/-- Adds the theme files of a directory. Only a directory that cannot be listed is an
error, and then nothing changes. -/
def addDirectory (registry : Registry) (files : FileSource) (directory extension : String) :
    Noted (Except LoadError DirectoryLoad × Registry) := do
  match files.list directory with
  | .error fault => return (.error (.unreadable directory fault), registry)
  | .ok names =>
    let (load, next) ← registry.addFiles files (candidates files directory extension names)
    return (.ok load, next)

/-- Removes the triggers of a file; the answer is their number. -/
def removeFile (registry : Registry) (file : String) : Nat × Registry :=
  let kept := registry.triggers.filter (·.file != file)
  (registry.size - kept.length, ⟨kept⟩)

/-- Removes all triggers. -/
def clear (_ : Registry) : Registry := empty

/-- The score of a trigger that answers a signal of a sender. -/
def answerScore? {Node : Type} (tree : StyleTree Node) (sender : Node) (signal : String)
    (trigger : Trigger) : Option Int32 :=
  if trigger.signal = signal ∧ trigger.sender.isMatch tree sender then
    some (trigger.sender.score tree sender)
  else none

/-- The trigger that answers a signal of a sender. -/
def best? {Node : Type} (registry : Registry) (tree : StyleTree Node) (sender : Node)
    (signal : String) : Noted (Option Trigger) := do
  match bestBy? (answerScore? tree sender signal) registry.triggers with
  | some (trigger, score) =>
    Noted.diagnose .selector "diagnostics: trigger selected"
      [("signal", signal), ("id", trigger.id), ("score", Decimal.integer score.toInt),
        ("sender", trigger.sender.display)]
    return some trigger
  | none =>
    Noted.diagnose .selector "diagnostics: no trigger matched" [("signal", signal)]
    return none

/-- The id of the trigger that answers a signal of a sender. -/
def bestId? {Node : Type} (registry : Registry) (tree : StyleTree Node) (sender : Node)
    (signal : String) : Noted (Option String) := do
  return (← registry.best? tree sender signal).map (·.id)

end Registry

end ThemeMotion
