import DarkMinter.InFlight
import DarkMinter.RetryBudget
import DarkMinter.Statistics
import DarkMinter.Uncertainty
import DarkMinter.Workload

namespace DarkMinter.FailureCounts

open Text Processing Records Repository Persistence Replication Publication Attempts Deployment Marks
open InFlight ResultApplication Lib.Runs
open Statistics (Recorded)
open Uncertainty (FailureShown PublicationShown)
open Workload (Worker)

def workerOf : Op → Option Worker
  | .mutation (.persist _) => some .metadata
  | .mutation (.reconcile _) => some .replication
  | .mutation (.publish _) | .unassigned _ _ | .result _ _ _ => some .chain
  | .reserve _ | .mutation (.put ..) | .mutation (.delete ..) | .mutation (.retry ..) => none

def isFailed (c : Cell) : Bool := c.record.any fun r => r.processingStatus = .failed

def movesToFailed (c c' : Cell) : Nat := (!isFailed c && isFailed c').toNat

/-- What has been added to `total_permanent_failures` of the workers, and the records that they moved
into the status. -/
structure Tally where
  permanentFailures : Worker → Nat := fun _ => 0
  moved : Worker → Nat := fun _ => 0

def Tally.add (T : Tally) (w : Worker) (permanentFailures moved : Nat) : Tally where
  permanentFailures := Function.update T.permanentFailures w (T.permanentFailures w + permanentFailures)
  moved := Function.update T.moved w (T.moved w + moved)

def worksOn (s : Sys) (a : Act) : Option (ArkId × Op) :=
  match a with
  | .mutate k _ => (opOf s a k).map (k, ·)
  | .markUnassigned p _ => match s.control.phase p with
    | .working (.fail item :: _) => (opOf s a item.ark).map (item.ark, ·)
    | _ => none
  | .finish p _ => match s.control.phase p with
    | .holding item _ _ _ => (opOf s a item.ark).map (item.ark, ·)
    | _ => none
  | _ => none

variable {c c' : Cell} {r : ARKRecord} {now : Time}

section

variable [PyLower] {cfg : Config} {k : ArkId}

/-- What the call adds to `total_permanent_failures`. The branches for an authority that is not
assigned add nothing, in each of the workers. -/
def counted (cfg : Config) (k : ArkId) (c : Cell) : Op → Nat
  | .mutation (.persist E) => (persist cfg.catalogue k E c).stats.permanentFailures
  | .mutation (.publish E) => (publishSingleArk cfg.catalogue k E c).stats.permanentFailures
  | .result item result E => match settleResult cfg.catalogue item result E c with
    | .ok handled => handled.stats.permanentFailures
    | .error _ => 0
  | _ => 0

def Tally.after (cfg : Config) (s : Sys) (a : Act) (T : Tally) : Tally :=
  match worksOn s a with
  | none => T
  | some (k, op) => match workerOf op with
    | none => T
    | some w => T.add w (counted cfg k (s.cells k) op) (movesToFailed (s.cells k) (op.run cfg k (s.cells k)))

def recordedStep (cfg : Config) (u : Sys × Tally) (a : Act) : Option (Sys × Tally) :=
  (step cfg u.1 a).map fun t => (t, u.2.after cfg u.1 a)

def Balanced (cfg : Config) (k : ArkId) (c : Cell) (op : Op) : Prop :=
  counted cfg k c op = movesToFailed c (op.run cfg k c)

section Result

variable {item : PipelineItem} {result : ARKPublishResult} {E : ResultEnv}

end Result

variable {s t : Sys} {a : Act} {T : Tally} {w : Worker}

end

section Sample

attribute [local instance] asciiText

open Deployment.Sample RetryBudget

def inactiveReads : OwnerReads := ⟨.ok ⟨"w", false⟩, .ok ⟨"u", "c1", "w"⟩, .ok true⟩

def publishEnv : PublishEnv where
  readyAt := 4
  assigned _ := true
  write := .error unread
  identity := inactiveReads
  chain := .error unread
  publishedAt := 4
  failureIdentity := inactiveReads
  failedAt := 4

end Sample

end DarkMinter.FailureCounts
