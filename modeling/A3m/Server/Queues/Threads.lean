/-
  A3m.Server.Queues.Threads

  The package queue under concurrency. Every call on a `PackageQueue` runs on some
  thread: the processing loop (`work`, calling `process_one_job`), a worker running
  `Package.trigger_workflow` (which calls `schedule_job` with a new package's first job),
  and the completion callbacks of each submitted job (`_job_completed_callback`, and
  `_package_completed_callback` for a terminal link). A thread is a frame (`Pc`): the code
  point its call has reached and the locals read so far. `threadStep` runs one atomic
  step of a frame: a `with self.active_package_lock` block, a queue put or get together
  with the gauge update that follows it, or a branch on a value read earlier. A put on a
  full `job_queue` has no step until the queue has room.

  A system state (`Sys`) is the queue with its threads and two ghost lists that only
  proofs read: the packages whose first job has been handed to `trigger_workflow` (once
  per package), and the packages whose last job ended without a next job at a
  non-terminal link, or raised. `Sys.next` is one event of any interleaving: a new
  `trigger_workflow`, an iteration of `work`, the `run` of a submitted job returning (no
  job, a next job of the same package, or an exception), `stop`, or one step of one
  thread. `Sys.nextAtomic` is the same system where a call runs to its end in one event;
  there too the `shutdown_event` test of `work` and the `process_one_job` it starts are two
  events, as in the source, so `stop` can land between them.
-/
import A3m.Server.Queues.Methods
import Mathlib.Logic.Relation

namespace A3m.Server

/-- A thread: the call it runs and how far it got. -/
inductive Pc where
  /-- `schedule_job`: the `shutdown_event` test. -/
  | scheduleJob (job : Job)
  /-- `schedule_job`: the lock block. -/
  | scheduleJobLocked (job : Job)
  /-- `schedule_job`: `_put_package_nowait` and the test of the count read under the lock. -/
  | schedulePackage (job : Job) (activePackageCount : Nat)
  /-- `queue_next_job`: `_get_package_job_nowait` about to try the waiting queues `ws`. -/
  | getPackageJob (ws : List WaitingQueue)
  /-- `queue_next_job`: `activate_package` of the job taken. -/
  | activatePackage (job : Job)
  /-- `queue_next_job`: `job_queue.put_nowait`. -/
  | putJobNowait (job : Job)
  /-- `process_one_job`: `job_queue.get`. -/
  | processOneJob
  /-- `process_one_job`: `executor.submit` and the callbacks. -/
  | submit (job : Job)
  /-- `_job_completed_callback` for a run that returned `result`. -/
  | jobCompleted (result : RunResult)
  /-- `_package_completed_callback`: the test of `future.result()`. -/
  | packageCompleted (package : Package) (result : RunResult)
  /-- `_package_completed_callback`: `deactivate_package`. -/
  | deactivatePackage (package : Package)
  deriving DecidableEq, Repr

/-- The waiting queues in the order `_get_package_job_nowait` tries them. -/
def priorityOrder : List WaitingQueue := [.dip, .sip, .transfer]

/-- A thread whose call returned or raised has ended; a blocked call has no step. -/
def Outcome.finish : Outcome → Option (PackageQueue × Option Pc)
  | .ok q => some (q, none)
  | .raised _ q => some (q, none)
  | .blocked => none

/-- One atomic step of a thread: the queue after it and the frame the thread goes on
    with, if any; `none` when the thread cannot move. -/
def threadStep (q : PackageQueue) : Pc → Option (PackageQueue × Option Pc)
  | .scheduleJob job => some (q, if q.shutdownEvent then none else some (.scheduleJobLocked job))
  | .scheduleJobLocked job =>
    if job.package.uuid ∈ q.activePackageKeys then
      if queueFull q.maxConcurrentPackages q.jobQueue then none else some (q.pushJob job, none)
    else some (q, some (.schedulePackage job q.activePackages.length))
  | .schedulePackage job count =>
    match q.putPackageNowait job.package job with
    | .ok q =>
      some (q, if count < q.maxConcurrentPackages then some (.getPackageJob priorityOrder) else none)
    | o => o.finish
  | .getPackageJob [] => some (q, none)
  | .getPackageJob (w :: ws) =>
    match q.getNowait w with
    | (some job, q) => some (q.packageGaugeAdd job.package (-1), some (.activatePackage job))
    | (none, q) => some (q, some (.getPackageJob ws))
  | .activatePackage job => some (q.activatePackage job.package, some (.putJobNowait job))
  | .putJobNowait job => (q.putJobNowait job).finish
  | .processOneJob =>
    match q.takeJob with
    | (none, q) => some (q, none)
    | (some job, q) => some (q, some (.submit job))
  | .submit job => some (q.submit job, none)
  | .jobCompleted result =>
    let q := { q with activeJobsGauge := q.activeJobsGauge - 1 }
    match result with
    | .next job => some (q, some (.scheduleJob job))
    | _ => some (q, none)
  | .packageCompleted package result =>
    some (q, if result = .none then some (.deactivatePackage package) else none)
  | .deactivatePackage package =>
    some (q.deactivatePackage package, some (.getPackageJob priorityOrder))

/-- The rest of a thread's call, run on its own from its frame: the sequential methods of
    `Methods.lean`. -/
def Pc.resume : Pc → PackageQueue → Outcome
  | .scheduleJob job, q => q.scheduleJob job
  | .scheduleJobLocked job, q => q.scheduleJobLocked job
  | .schedulePackage job count, q => q.schedulePackage job count
  | .getPackageJob ws, q => q.queueNextJobFrom ws
  | .activatePackage job, q => (q.activatePackage job.package).putJobNowait job
  | .putJobNowait job, q => q.putJobNowait job
  | .processOneJob, q => q.processOneJob
  | .submit job, q => .ok (q.submit job)
  | .jobCompleted result, q => q.jobCompletedCallback result
  | .packageCompleted package result, q => q.packageCompletedCallback package result
  | .deactivatePackage package, q => (q.deactivatePackage package).queueNextJob

/-- The callbacks `process_one_job` attached to a job's future, run once its `run`
    returned `result`: `_job_completed_callback`, and for a terminal link
    `_package_completed_callback` with the job's package. -/
def doneCallbacks (job : Job) (result : RunResult) : List Pc :=
  .jobCompleted result :: if job.link.isTerminal then [.packageCompleted job.package result] else []

/-- `Job.run` of a job of `package` returns no job, a job of the same package, or raises. -/
def RunResult.OfPackage (package : Package) : RunResult → Prop
  | .next job => job.package = package
  | _ => True

instance (package : Package) : (r : RunResult) → Decidable (r.OfPackage package)
  | .none => isTrue trivial
  | .next job => inferInstanceAs (Decidable (job.package = package))
  | .raised => isTrue trivial

/-- A job whose run ends its package's work without freeing the package's slot: it raised,
    or returned no job at a link that is not terminal. -/
def RunResult.stalls (job : Job) : RunResult → Bool
  | .none => !job.link.isTerminal
  | .next _ => false
  | .raised => true

/-- The queue, its threads, and the two ghost lists. -/
structure Sys where
  queue : PackageQueue
  threads : List Pc
  started : List String
  stalled : List String

/-- A new queue with no thread. -/
def Sys.init (maxConcurrentPackages maxQueuedPackages : Nat) : Sys :=
  ⟨PackageQueue.init maxConcurrentPackages maxQueuedPackages, [], [], []⟩

/-- The events of a run. -/
inductive Event where
  /-- `Package.trigger_workflow` starts `schedule_job` for a new package's first job. -/
  | trigger (job : Job)
  /-- `work` finds `shutdown_event` unset and calls `process_one_job`. -/
  | work
  /-- The `run` of the `i`-th submitted job returns `result`; its callbacks start. -/
  | complete (i : Nat) (result : RunResult)
  /-- `stop`. -/
  | stop
  /-- Thread `i` moves. -/
  | step (i : Nat)
  deriving DecidableEq, Repr

namespace Sys

/-- `trigger_workflow` of a package never scheduled before. -/
def trigger (s : Sys) (job : Job) : Option Sys :=
  if job.package.uuid ∈ s.started then none
  else some { s with threads := s.threads ++ [.scheduleJob job]
                     started := job.package.uuid :: s.started }

/-- The `run` of the `i`-th submitted job returns `result`. -/
def complete (s : Sys) (i : Nat) (result : RunResult) : Option Sys :=
  match s.queue.executor[i]? with
  | none => none
  | some job =>
    if result.OfPackage job.package then
      some { queue := { s.queue with executor := s.queue.executor.take i ++ s.queue.executor.drop (i + 1) }
             threads := s.threads ++ doneCallbacks job result
             started := s.started
             stalled := if result.stalls job then job.package.uuid :: s.stalled else s.stalled }
    else none

/-- One event, with the calls on the queue interleaved step by step. -/
def next (s : Sys) : Event → Option Sys
  | .trigger job => s.trigger job
  | .work => if s.queue.shutdownEvent then none else some { s with threads := s.threads ++ [.processOneJob] }
  | .complete i result => s.complete i result
  | .stop => some { s with queue := s.queue.stop }
  | .step i =>
    match s.threads[i]? with
    | none => none
    | some pc =>
      match threadStep s.queue pc with
      | none => none
      | some (q, pc') =>
        some { s with queue := q, threads := s.threads.take i ++ pc'.toList ++ s.threads.drop (i + 1) }

/-- One event, with each call on the queue run to its end at once. An iteration of
    `work` is still two events: its `shutdown_event` test starts `process_one_job`, which
    runs in a later step, so `stop` can land between them. -/
def nextAtomic (s : Sys) : Event → Option Sys
  | .step i =>
    match s.threads[i]? with
    | none => none
    | some pc =>
      (pc.resume s.queue).state?.map fun q =>
        { s with queue := q, threads := s.threads.take i ++ s.threads.drop (i + 1) }
  | e => s.next e

/-- A run of events from `s`, if each can happen. -/
def run (s : Sys) : List Event → Option Sys
  | [] => some s
  | e :: es => (s.next e).bind (·.run es)

/-- A run of atomic events from `s`. -/
def runAtomic (s : Sys) : List Event → Option Sys
  | [] => some s
  | e :: es => (s.nextAtomic e).bind (·.runAtomic es)

/-! ### What each event does -/

theorem trigger_eq_some {s s' : Sys} {job : Job} (h : s.trigger job = some s') :
    job.package.uuid ∉ s.started ∧
      s' = { s with threads := s.threads ++ [.scheduleJob job]
                    started := job.package.uuid :: s.started } := by
  unfold trigger at h
  split_ifs at h with hs
  exact ⟨hs, (Option.some.inj h).symm⟩

theorem complete_eq_some {s s' : Sys} {i : Nat} {result : RunResult}
    (h : s.complete i result = some s') :
    ∃ job, s.queue.executor[i]? = some job ∧ result.OfPackage job.package ∧
      s' = { queue := { s.queue with
                        executor := s.queue.executor.take i ++ s.queue.executor.drop (i + 1) }
             threads := s.threads ++ doneCallbacks job result
             started := s.started
             stalled := if result.stalls job then job.package.uuid :: s.stalled else s.stalled } := by
  unfold complete at h
  split at h
  · cases h
  rename_i job hj
  by_cases hr : result.OfPackage job.package
  · rw [if_pos hr] at h
    exact ⟨job, hj, hr, (Option.some.inj h).symm⟩
  · rw [if_neg hr] at h
    cases h

theorem next_work_eq_some {s s' : Sys} (h : s.next .work = some s') :
    s.queue.shutdownEvent = false ∧ s' = { s with threads := s.threads ++ [.processOneJob] } := by
  simp only [next] at h
  split_ifs at h with hs
  exact ⟨by simpa using hs, (Option.some.inj h).symm⟩

theorem next_step_eq_some {s s' : Sys} {i : Nat} (h : s.next (.step i) = some s') :
    ∃ pc q o, s.threads[i]? = some pc ∧ threadStep s.queue pc = some (q, o) ∧
      s' = { s with queue := q, threads := s.threads.take i ++ o.toList ++ s.threads.drop (i + 1) } := by
  simp only [next] at h
  split at h
  · cases h
  rename_i pc hpc
  split at h
  · cases h
  rename_i q o hs
  exact ⟨pc, q, o, hpc, hs, (Option.some.inj h).symm⟩

theorem nextAtomic_step_eq_some {s s' : Sys} {i : Nat} (h : s.nextAtomic (.step i) = some s') :
    ∃ pc q, s.threads[i]? = some pc ∧ (pc.resume s.queue).state? = some q ∧
      s' = { s with queue := q, threads := s.threads.take i ++ s.threads.drop (i + 1) } := by
  simp only [nextAtomic] at h
  split at h
  · cases h
  rename_i pc hpc
  obtain ⟨q, hq, rfl⟩ := Option.map_eq_some'.1 h
  exact ⟨pc, q, hpc, hq, rfl⟩

end Sys

/-- States reachable from a new queue by any interleaving. -/
inductive Reachable : Sys → Prop where
  | init (maxConcurrentPackages maxQueuedPackages : Nat) :
      Reachable (Sys.init maxConcurrentPackages maxQueuedPackages)
  | next {s s' : Sys} (e : Event) : Reachable s → s.next e = some s' → Reachable s'

/-- States reachable from a new queue when every call runs atomically. -/
inductive AtomicReachable : Sys → Prop where
  | init (maxConcurrentPackages maxQueuedPackages : Nat) :
      AtomicReachable (Sys.init maxConcurrentPackages maxQueuedPackages)
  | next {s s' : Sys} (e : Event) : AtomicReachable s → s.nextAtomic e = some s' →
      AtomicReachable s'

theorem Reachable.run {s s' : Sys} {es : List Event} (h : Reachable s) (hr : s.run es = some s') :
    Reachable s' := by
  induction es generalizing s with
  | nil => cases hr; exact h
  | cons e es ih =>
    simp only [Sys.run, Option.bind_eq_some] at hr
    obtain ⟨s₁, h₁, h₂⟩ := hr
    exact ih (h.next e h₁) h₂

theorem AtomicReachable.runAtomic {s s' : Sys} {es : List Event} (h : AtomicReachable s)
    (hr : s.runAtomic es = some s') : AtomicReachable s' := by
  induction es generalizing s with
  | nil => cases hr; exact h
  | cons e es ih =>
    simp only [Sys.runAtomic, Option.bind_eq_some] at hr
    obtain ⟨s₁, h₁, h₂⟩ := hr
    exact ih (h.next e h₁) h₂

end A3m.Server
