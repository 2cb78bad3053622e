import QuizBank.Bank.Validation

/-!
# Validation in tasks

Entries can be validated side by side, each by a task of its own. A task needs one of a fixed number
of permits: it gets the permit when it is started, and gives it back after it has finished. Tasks
are started in the order of the entries. When all are started, their outcomes are joined to the
report, in the order in which they were started.

Which task goes on at what time is nobody's choice here. A batch is the state between two events,
and a run is any list of events that are possible one after the other.
-/

namespace QuizBank
namespace Bank

/-- An entry to be validated, and the file that it stands in. -/
structure Job where
  file : String
  entry : Entry

/-- The entries of banks, one bank after the other. -/
def jobs (banks : List Bank) : List Job := banks.flatMap fun b => b.entries.map (Job.mk b.file)

/-- How far a task has come. -/
inductive Progress
  | running
  | finished (outcome : Option Fault)
  | released (outcome : Option Fault)

/-- A task that was started and is not yet joined. -/
structure Task where
  job : Job
  progress : Progress

namespace Task

/-- Is the task at work? -/
def isRunning (t : Task) : Bool :=
  match t.progress with
  | .running => true
  | _ => false

/-- Has the task its permit still? -/
def holdsPermit (t : Task) : Bool :=
  match t.progress with
  | .released _ => false
  | _ => true

/-- The task with its work done. -/
def finish? (suffixes : List String) : Task → Option Task
  | ⟨job, .running⟩ => some ⟨job, .finished (job.entry.fault? suffixes)⟩
  | _ => none

/-- The finished task without its permit. -/
def release? : Task → Option Task
  | ⟨job, .finished outcome⟩ => some ⟨job, .released outcome⟩
  | _ => none

/-- Changes the task at an index, if there is one and the change is possible. -/
def changeAt (change : Task → Option Task) : Nat → List Task → Option (List Task)
  | _, [] => none
  | 0, t :: rest => (change t).map (· :: rest)
  | i + 1, t :: rest => (changeAt change i rest).map (t :: ·)

end Task

/-- A validation under way: the entries that wait for a task, the tasks in the order in which they
were started, the free permits, and the report so far. -/
structure Batch where
  waiting : List Job
  tasks : List Task := []
  free : Nat
  report : Report := {}

/-- What can happen to a batch. Tasks are named by their index. -/
inductive Batch.Event
  | start
  | finish (index : Nat)
  | release (index : Nat)
  | join

namespace Batch

/-- The batch before its first event. There is one permit at least. -/
def ofBanks (concurrency : Nat) (banks : List Bank) : Batch where
  waiting := jobs banks
  free := max concurrency 1

/-- The batch after an event, if the event is possible. -/
def next? (suffixes : List String) (b : Batch) : Event → Option Batch
  | .start =>
    match b.waiting with
    | [] => none
    | job :: rest =>
      if b.free = 0 then none
      else
        some { b with
          waiting := rest, tasks := b.tasks ++ [⟨job, .running⟩], free := b.free - 1 }
  | .finish i => (Task.changeAt (Task.finish? suffixes) i b.tasks).map fun tasks => { b with tasks }
  | .release i =>
    (Task.changeAt Task.release? i b.tasks).map fun tasks => { b with tasks, free := b.free + 1 }
  | .join =>
    match b.waiting, b.tasks with
    | [], ⟨job, .released outcome⟩ :: rest =>
      some { b with tasks := rest, report := b.report.add job.file job.entry.id outcome }
    | _, _ => none

/-- The batch after a list of events, if all of them are possible in this order. -/
def run? (suffixes : List String) : Batch → List Event → Option Batch
  | b, [] => some b
  | b, event :: rest => (b.next? suffixes event).bind (run? suffixes · rest)

/-- How many tasks are at work. -/
def running (b : Batch) : Nat := b.tasks.countP Task.isRunning

/-- How many permits the tasks hold. -/
def held (b : Batch) : Nat := b.tasks.countP Task.holdsPermit

/-- Are all outcomes joined? -/
def isDone (b : Batch) : Bool := b.waiting.isEmpty && b.tasks.isEmpty

end Batch
end Bank
end QuizBank
