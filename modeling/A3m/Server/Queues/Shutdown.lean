/-
  A3m.Server.Queues.Shutdown

  `stop` sets `shutdown_event`. `work` tests it before each `process_one_job`, and
  `schedule_job` raises `RuntimeError("Queue stopped.")` once it is set, so neither a new
  package nor a next job gets in that way. `_package_completed_callback` does not test it:
  the terminal job of a package that was running when `stop` landed still deactivates its
  package and calls `queue_next_job`, which activates a waiting package and puts its job on
  `job_queue` (`stop_admits_waiting_package`, a run of atomic calls replayed by the kernel).
  That callback is the only way in after `stop`
  (`AtomicReachable.stopped_admits_only_on_completion`); a `process_one_job` that `work`
  started before `stop` still submits the job it takes (`stopped_submits_taken_job`).
-/
import A3m.Server.Queues.Atomic

namespace A3m.Server

/-- A run of atomic calls from a new queue, and one more event after it, that satisfy `p`. -/
theorem exists_atomic_step_of_run (m n : Nat) (es : List Event) (e : Event)
    {p : Sys → Sys → Prop} [∀ s s', Decidable (p s s')]
    (h : ((Sys.init m n).runAtomic es).bind
      (fun s => (s.nextAtomic e).map fun s' => decide (p s s')) = some true) :
    ∃ s s', AtomicReachable s ∧ s.nextAtomic e = some s' ∧ p s s' := by
  cases hr : (Sys.init m n).runAtomic es with
  | none => simp [hr] at h
  | some s =>
    cases he : s.nextAtomic e with
    | none => simp [hr, he] at h
    | some s' =>
      simp only [hr, he, Option.some_bind, Option.map_some', Option.some.injEq,
        decide_eq_true_eq] at h
      exact ⟨s, s', (AtomicReachable.init m n).runAtomic hr, he, h⟩

namespace Shutdown

/-- With one slot, the transfer `a` runs its only job; `b` is scheduled and waits, as the
    slot is taken; `stop` is called; then the job of `a` returns no job at its terminal link,
    and its two callbacks are pending. -/
def stopTrace : List Event :=
  [.trigger Races.jobA, .step 0, .work, .step 0, .trigger Races.jobB, .step 0, .stop,
    .complete 0 .none]

end Shutdown

/-- After `stop`, the package-completion callback activates a waiting package and puts its
    job on `job_queue`. -/
theorem stop_admits_waiting_package :
    ∃ s s', AtomicReachable s ∧ s.nextAtomic (.step 1) = some s' ∧ s.queue.shutdownEvent = true ∧
      (∃ p ∈ s'.queue.activePackageKeys, p ∉ s.queue.activePackageKeys) ∧
      s.queue.jobQueue.length < s'.queue.jobQueue.length :=
  exists_atomic_step_of_run 1 PackageQueue.MAX_QUEUED_PACKAGES Shutdown.stopTrace (.step 1)
    (by decide)

/-- Once `shutdown_event` is set, an atomic event changes no active package and no waiting
    job, and brings no job to `job_queue` or the executor: `job_queue` only loses its head
    to the executor, by a `process_one_job` that `work` started before `stop`. The one
    exception is a package-completion callback for a run that returned no job. -/
theorem AtomicReachable.stopped_admits_only_on_completion {s s' : Sys} (h : AtomicReachable s)
    (hs : s.queue.shutdownEvent = true) {e : Event} (he : s.nextAtomic e = some s')
    (hpc : ∀ i package, e = .step i → s.threads[i]? ≠ some (.packageCompleted package .none)) :
    s'.queue.activePackages = s.queue.activePackages ∧ s'.queue.waitingJobs = s.queue.waitingJobs ∧
      List.IsSuffix s'.queue.jobQueue s.queue.jobQueue ∧
      List.Subperm (s'.queue.jobQueue ++ s'.queue.executor) (s.queue.jobQueue ++ s.queue.executor) := by
  cases e with
  | trigger job =>
    obtain ⟨-, rfl⟩ := Sys.trigger_eq_some he
    exact ⟨rfl, rfl, List.suffix_refl _, List.Subperm.refl _⟩
  | work =>
    obtain ⟨h0, -⟩ := Sys.next_work_eq_some he
    rw [hs] at h0; cases h0
  | complete i result =>
    obtain ⟨job, -, -, rfl⟩ := Sys.complete_eq_some he
    refine ⟨rfl, rfl, List.suffix_refl _, ?_⟩
    rw [← List.eraseIdx_eq_take_drop_succ]
    exact ((List.eraseIdx_sublist _ i).append_left _).subperm
  | stop => cases he; exact ⟨rfl, rfl, List.suffix_refl _, List.Subperm.refl _⟩
  | step i =>
    obtain ⟨pc, q, hpc', hq, rfl⟩ := Sys.nextAtomic_step_eq_some he
    have hraise (q₀ : PackageQueue) (job : Job) (hs₀ : q₀.shutdownEvent = true) :
        q₀.scheduleJob job = .raised (.runtimeError "Queue stopped.") q₀ := by
      simp [PackageQueue.scheduleJob, hs₀]
    have hentry := h.atomicInv.entry pc (List.getElem?_mem hpc')
    cases pc with
    | scheduleJob job =>
      simp only [Pc.resume, hraise _ _ hs, Outcome.state?, Option.some.injEq] at hq
      subst hq; exact ⟨rfl, rfl, List.suffix_refl _, List.Subperm.refl _⟩
    | processOneJob =>
      rcases s.queue.processOneJob_cases with ⟨-, h1⟩ | ⟨job, rest, hj, h1⟩ <;>
        simp only [Pc.resume, h1, Outcome.state?, Option.some.injEq] at hq <;> subst hq
      · exact ⟨rfl, rfl, List.suffix_refl _, List.Subperm.refl _⟩
      · refine ⟨rfl, rfl, hj ▸ List.suffix_cons job rest, ?_⟩
        show List.Subperm (rest ++ (s.queue.executor ++ [job])) (s.queue.jobQueue ++ s.queue.executor)
        rw [hj, List.cons_append, ← List.append_assoc]
        exact List.perm_append_comm.subperm
    | jobCompleted result =>
      cases result <;>
        simp only [Pc.resume, PackageQueue.jobCompletedCallback, hraise, hs, Outcome.state?,
          Option.some.injEq] at hq <;>
        subst hq <;> exact ⟨rfl, rfl, List.suffix_refl _, List.Subperm.refl _⟩
    | packageCompleted package result =>
      cases result with
      | none => exact absurd hpc' (hpc i package rfl)
      | _ =>
        simp only [Pc.resume, PackageQueue.packageCompletedCallback, Outcome.state?,
          Option.some.injEq] at hq
        subst hq; exact ⟨rfl, rfl, List.suffix_refl _, List.Subperm.refl _⟩
    | _ => cases hentry

namespace Shutdown

/-- The transfer `a` is scheduled and its job put on `job_queue`; `work` finds
    `shutdown_event` unset and starts `process_one_job`; `stop` lands before that call runs. -/
def stopBeforeTakeTrace : List Event := [.trigger Races.jobA, .step 0, .work, .stop]

end Shutdown

/-- A `process_one_job` started before `stop` still takes its job off `job_queue` and
    submits it. -/
theorem stopped_submits_taken_job :
    ∃ s s', AtomicReachable s ∧ s.nextAtomic (.step 0) = some s' ∧
      (s.queue.shutdownEvent = true ∧ s.threads[0]? = some .processOneJob ∧
        s.queue.executor.length < s'.queue.executor.length) ∧
      s'.queue.activePackages = s.queue.activePackages ∧ s'.queue.waitingJobs = s.queue.waitingJobs ∧
      List.IsSuffix s'.queue.jobQueue s.queue.jobQueue ∧
      List.Subperm (s'.queue.jobQueue ++ s'.queue.executor) (s.queue.jobQueue ++ s.queue.executor) := by
  obtain ⟨s, s', hr, he, hs, h0, hlt⟩ : ∃ s s', AtomicReachable s ∧
      s.nextAtomic (.step 0) = some s' ∧ s.queue.shutdownEvent = true ∧
      s.threads[0]? = some .processOneJob ∧ s.queue.executor.length < s'.queue.executor.length :=
    exists_atomic_step_of_run 1 PackageQueue.MAX_QUEUED_PACKAGES Shutdown.stopBeforeTakeTrace
      (.step 0) (by decide)
  exact ⟨s, s', hr, he, ⟨hs, h0, hlt⟩, AtomicReachable.stopped_admits_only_on_completion hr hs he
    fun i package hi => by cases hi; rw [h0]; nofun⟩

end A3m.Server
