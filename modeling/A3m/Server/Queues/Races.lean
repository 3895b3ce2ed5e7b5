/-
  A3m.Server.Queues.Races

  Two interleavings the lock of `schedule_job` lets through. `schedule_job` reads
  `len(self.active_packages)` under `active_package_lock`, releases the lock, puts the job
  on a waiting queue, and only then decides from the count read earlier whether to call
  `queue_next_job`. Two `trigger_workflow` threads that both read a count below
  `max_concurrent_packages` both promote a package: the queue holds more active packages
  than it allows (`race_exceeds_cap`). A thread that read a full count puts its package on a
  waiting queue after the completion callback that freed the slot found the waiting queues
  empty: the package waits with a slot free and no call left to wake it
  (`race_loses_wakeup`). Each run is replayed by the kernel from a new queue.
-/
import A3m.Server.Queues.Threads

namespace A3m.Server

/-- A run from a new queue that ends in a state where `p` holds shows a reachable state
    where `p` holds. -/
theorem exists_reachable_of_run (m n : Nat) (es : List Event) {p : Sys → Prop} [DecidablePred p]
    (h : ((Sys.init m n).run es).map (fun s => decide (p s)) = some true) :
    ∃ s, Reachable s ∧ p s := by
  cases hr : (Sys.init m n).run es with
  | none => simp [hr] at h
  | some s =>
    simp only [hr, Option.map_some', Option.some.injEq, decide_eq_true_eq] at h
    exact ⟨s, (Reachable.init m n).run hr, h⟩

/-- A run of atomic calls from a new queue that ends in a state where `p` holds. -/
theorem exists_atomicReachable_of_run (m n : Nat) (es : List Event) (p : Sys → Prop)
    [DecidablePred p] (h : ((Sys.init m n).runAtomic es).map (fun s => decide (p s)) = some true) :
    ∃ s, AtomicReachable s ∧ p s := by
  cases hr : (Sys.init m n).runAtomic es with
  | none => simp [hr] at h
  | some s =>
    simp only [hr, Option.map_some', Option.some.injEq, decide_eq_true_eq] at h
    exact ⟨s, (AtomicReachable.init m n).runAtomic hr, h⟩

namespace Races

/-- Two transfers and their first jobs, at terminal links. -/
def transferA : Package := ⟨"a", .transfer⟩
def transferB : Package := ⟨"b", .transfer⟩
def jobA : Job := ⟨transferA, ⟨true⟩⟩
def jobB : Job := ⟨transferB, ⟨true⟩⟩

/-- With one slot, both `schedule_job` calls read a count of zero (steps 3 and 4), both put
    their package on the transfer queue, and both call `queue_next_job`. The second one
    activates its package and then finds `job_queue` full: its `put_nowait` raises
    `queue.Full` and the job is lost with its package active. -/
def capTrace : List Event :=
  [.trigger jobA, .trigger jobB, .step 0, .step 1, .step 0, .step 1, .step 0, .step 1,
   .step 0, .step 0, .step 0, .step 0, .step 0, .step 0, .step 0, .step 0, .step 0, .step 0]

/-- With one slot, package `a` runs its only job. `schedule_job` for `b` reads a count of one
    under the lock (step 14); the job of `a` returns no job at its terminal link, and the
    package-completion callback deactivates `a` and finds every waiting queue empty; then
    `b`'s `schedule_job` puts its job on the transfer queue and returns, as its count said
    the queue was full. -/
def wakeupTrace : List Event :=
  [.trigger jobA, .step 0, .step 0, .step 0, .step 0, .step 0, .step 0, .step 0, .step 0,
   .work, .step 0, .step 0,
   .trigger jobB, .step 0, .step 0,
   .complete 0 .none, .step 1, .step 1, .step 1, .step 1, .step 1, .step 1, .step 1, .step 0]

end Races

open Races in
/-- Two packages are active in a queue that allows one. -/
theorem race_exceeds_cap :
    ∃ s, Reachable s ∧ s.queue.maxConcurrentPackages < s.queue.activePackages.length :=
  exists_reachable_of_run 1 PackageQueue.MAX_QUEUED_PACKAGES capTrace (by decide)

open Races in
/-- No call is running and a package waits while a slot is free. -/
theorem race_loses_wakeup :
    ∃ s, Reachable s ∧ s.threads = [] ∧ s.queue.waitingJobs ≠ [] ∧
      s.queue.activePackages.length < s.queue.maxConcurrentPackages :=
  exists_reachable_of_run 1 PackageQueue.MAX_QUEUED_PACKAGES wakeupTrace (by decide)

end A3m.Server
