/-
  A3m.Server.Queues.State

  The state of a `PackageQueue` (`a3m/server/queues.py`): the fields `__init__` sets up,
  the futures of the executor it submits to, and the four gauges of `a3m.server.metrics`
  it moves. Python's `queue.Queue` is a list with its `maxsize`; a `maxsize` of zero is
  an unbounded queue, as in the standard library.

  A call on the queue ends in one of three ways (`Outcome`): it returns, it raises after
  whatever it changed so far, or it waits forever in a blocking `job_queue.put`.
-/
import A3m.Server.Basic

namespace A3m.Server

/-- The three waiting queues of `PackageQueue.__init__`. -/
inductive WaitingQueue where
  | dip
  | sip
  | transfer
  deriving DecidableEq, Repr

/-- The waiting queue `_put_package_nowait` picks: `isinstance(package, DIP)`, then
    `isinstance(package, SIP)`, and the transfer queue for every other class. -/
def PackageClass.waitingQueue : PackageClass → WaitingQueue
  | .dip => .dip
  | .sip => .sip
  | _ => .transfer

/-- `queue.Queue(maxsize).full()`: a positive `maxsize` reached. -/
def queueFull (maxsize : Nat) (items : List Job) : Prop :=
  0 < maxsize ∧ maxsize ≤ items.length

instance (maxsize : Nat) (items : List Job) : Decidable (queueFull maxsize items) :=
  inferInstanceAs (Decidable (_ ∧ _))

theorem not_queueFull_of_lt {maxsize : Nat} {items : List Job} (h : items.length < maxsize) :
    ¬queueFull maxsize items :=
  fun hf => by unfold queueFull at hf; omega

/-- A labelled gauge moved by `d` at one label. -/
def gaugeAdd (gauge : String → Int) (label : String) (d : Int) : String → Int :=
  fun l => if l = label then gauge l + d else gauge l

@[simp] theorem gaugeAdd_apply (gauge : String → Int) (label l : String) (d : Int) :
    gaugeAdd gauge label d l = gauge l + if l = label then d else 0 := by
  by_cases h : l = label <;> simp [gaugeAdd, h]

/-- A `PackageQueue`: its settings, `shutdown_event`, `active_packages` (a dict keyed by
    `package.uuid`, kept as its list of values in insertion order), `job_queue`, the three
    waiting queues, the jobs submitted to `executor` whose `run` has not returned, and the
    gauges `job_queue_length_gauge`, `active_package_gauge`, `active_jobs_gauge` and
    `package_queue_length_gauge` (by `package_type` label). -/
structure PackageQueue where
  maxConcurrentPackages : Nat
  maxQueuedPackages : Nat
  shutdownEvent : Bool
  activePackages : List Package
  jobQueue : List Job
  transferQueue : List Job
  sipQueue : List Job
  dipQueue : List Job
  executor : List Job
  jobQueueLengthGauge : Int
  activePackageGauge : Int
  activeJobsGauge : Int
  packageQueueLengthGauge : String → Int

namespace PackageQueue

/-- `PackageQueue.MAX_QUEUED_PACKAGES`, the default capacity of each waiting queue. -/
def MAX_QUEUED_PACKAGES : Nat := 4096

/-- `PackageQueue.__init__` with a fresh `shutdown_event`; the gauges start at zero. -/
def init (maxConcurrentPackages maxQueuedPackages : Nat) : PackageQueue where
  maxConcurrentPackages := maxConcurrentPackages
  maxQueuedPackages := maxQueuedPackages
  shutdownEvent := false
  activePackages := []
  jobQueue := []
  transferQueue := []
  sipQueue := []
  dipQueue := []
  executor := []
  jobQueueLengthGauge := 0
  activePackageGauge := 0
  activeJobsGauge := 0
  packageQueueLengthGauge := fun _ => 0

/-- The keys of `active_packages`. -/
def activePackageKeys (q : PackageQueue) : List String :=
  q.activePackages.map Package.uuid

/-- One waiting queue. -/
def waiting (q : PackageQueue) : WaitingQueue → List Job
  | .dip => q.dipQueue
  | .sip => q.sipQueue
  | .transfer => q.transferQueue

/-- Replace one waiting queue. -/
def setWaiting (q : PackageQueue) : WaitingQueue → List Job → PackageQueue
  | .dip, jobs => { q with dipQueue := jobs }
  | .sip, jobs => { q with sipQueue := jobs }
  | .transfer, jobs => { q with transferQueue := jobs }

/-- All waiting jobs, DIP queue first. -/
def waitingJobs (q : PackageQueue) : List Job :=
  q.dipQueue ++ q.sipQueue ++ q.transferQueue

@[simp] theorem waiting_setWaiting_self (q : PackageQueue) (w : WaitingQueue) (jobs : List Job) :
    (q.setWaiting w jobs).waiting w = jobs := by
  cases w <;> rfl

theorem waiting_setWaiting_of_ne (q : PackageQueue) {w w' : WaitingQueue}
    (jobs : List Job) (h : w' ≠ w) : (q.setWaiting w jobs).waiting w' = q.waiting w' := by
  cases w <;> cases w' <;> first | rfl | exact absurd rfl h

/-- Replacing a waiting queue leaves every other field as it was. -/
@[simp] theorem setWaiting_fields (q : PackageQueue) (w : WaitingQueue) (jobs : List Job) :
    (q.setWaiting w jobs).maxConcurrentPackages = q.maxConcurrentPackages ∧
    (q.setWaiting w jobs).maxQueuedPackages = q.maxQueuedPackages ∧
    (q.setWaiting w jobs).shutdownEvent = q.shutdownEvent ∧
    (q.setWaiting w jobs).activePackages = q.activePackages ∧
    (q.setWaiting w jobs).jobQueue = q.jobQueue ∧
    (q.setWaiting w jobs).executor = q.executor ∧
    (q.setWaiting w jobs).jobQueueLengthGauge = q.jobQueueLengthGauge ∧
    (q.setWaiting w jobs).activePackageGauge = q.activePackageGauge ∧
    (q.setWaiting w jobs).activeJobsGauge = q.activeJobsGauge ∧
    (q.setWaiting w jobs).packageQueueLengthGauge = q.packageQueueLengthGauge := by
  cases w <;> simp [setWaiting]

/-- Counting over the waiting jobs after one waiting queue is replaced. -/
theorem countP_waitingJobs_setWaiting (q : PackageQueue) (w : WaitingQueue) (jobs : List Job)
    (f : Job → Bool) :
    (q.setWaiting w jobs).waitingJobs.countP f + (q.waiting w).countP f =
      q.waitingJobs.countP f + jobs.countP f := by
  cases w <;> simp [setWaiting, waitingJobs, waiting] <;> omega

end PackageQueue

/-- How a call on the queue ends: it returns, it raises (the queue keeps what the call
    changed before the exception), or it blocks in `job_queue.put` on a full queue. -/
inductive Outcome where
  | ok (q : PackageQueue)
  | raised (e : Exc) (q : PackageQueue)
  | blocked

/-- The queue after a call that returned or raised. -/
def Outcome.state? : Outcome → Option PackageQueue
  | .ok q => some q
  | .raised _ q => some q
  | .blocked => none

end A3m.Server
