/-
  A3m.Server.Queues.Gauges

  The four gauges `PackageQueue` moves (`a3m.server.metrics`) against the structures they
  describe. `GaugesAgree q pending`: `job_queue_length_gauge` is the length of `job_queue`,
  `active_package_gauge` the number of active packages, `active_jobs_gauge` the jobs in the
  executor plus `pending` jobs taken off `job_queue` whose `_job_completed_callback` has not
  run yet, and `package_queue_length_gauge` at each label the waiting jobs of packages of
  that class name.

  Each update of a structure comes with its gauge update in one step of `threadStep`, so
  one lemma per primitive update and one per frame (`GaugesAgree.threadStep`) carry the
  agreement through every event (`Reachable.gaugesAgree`); `deactivate_package` needs the
  unique keys of `Inv` to take one package off. Atomic runs are among these runs.
-/
import A3m.Server.Queues.Tokens

namespace A3m.Server

/-- A thread holding a job taken off `job_queue` whose `_job_completed_callback` has not
    decremented `active_jobs_gauge` yet: `process_one_job` about to submit it, or that
    callback. -/
def Pc.countsActiveJob : Pc → Bool
  | .submit _ | .jobCompleted _ => true
  | _ => false

/-- The gauges agree with the queue, `pending` jobs being between `job_queue` and the
    executor or between the executor and `_job_completed_callback`. -/
structure GaugesAgree (q : PackageQueue) (pending : Nat) : Prop where
  jobQueue : q.jobQueueLengthGauge = q.jobQueue.length
  active : q.activePackageGauge = q.activePackages.length
  activeJobs : q.activeJobsGauge = q.executor.length + pending
  packageQueue : ∀ c, q.packageQueueLengthGauge c = q.waitingJobs.countP (·.package.cls.name = c)

namespace GaugesAgree

variable {q : PackageQueue} {n : Nat}

theorem pushJob (h : GaugesAgree q n) (job : Job) : GaugesAgree (q.pushJob job) n :=
  ⟨by simp [h.jobQueue], by simp [h.active], by simp [h.activeJobs], by simpa using h.packageQueue⟩

theorem putWaiting (h : GaugesAgree q n) (job : Job) :
    GaugesAgree (q.putWaiting job.package job) n := by
  refine ⟨by simp [h.jobQueue], by simp [h.active], by simp [h.activeJobs], fun c => ?_⟩
  rw [PackageQueue.countP_waitingJobs_putWaiting]
  by_cases e : c = job.package.cls.name
  · subst e; simp [h.packageQueue]
  · simp [h.packageQueue, e, Ne.symm e]

/-- Taking the head of a waiting queue and moving the gauge of its class down. -/
theorem take (h : GaugesAgree q n) {w : WaitingQueue} {job : Job} {q₁ : PackageQueue}
    (hg : q.getNowait w = (some job, q₁)) : GaugesAgree (q₁.packageGaugeAdd job.package (-1)) n := by
  obtain ⟨-, -, -, h4, h5, h6, h7, h8, h9, h10⟩ := PackageQueue.getNowait_fields hg
  refine ⟨by simp [h5, h7, h.jobQueue], by simp [h4, h8, h.active], by simp [h6, h9, h.activeJobs],
    fun c => ?_⟩
  have := PackageQueue.countP_waitingJobs_getNowait hg (·.package.cls.name = c)
  by_cases e : c = job.package.cls.name
  · subst e; simp at this; simp [h10, h.packageQueue]; omega
  · simp [Ne.symm e] at this; simp [h10, h.packageQueue, e, this]

theorem activatePackage (h : GaugesAgree q n) (package : Package) :
    GaugesAgree (q.activatePackage package) n := by
  unfold PackageQueue.activatePackage
  split_ifs
  · exact h
  · exact ⟨h.jobQueue, by simp [h.active], h.activeJobs, h.packageQueue⟩

theorem deactivatePackage (h : GaugesAgree q n) (hnd : q.activePackageKeys.Nodup)
    (package : Package) : GaugesAgree (q.deactivatePackage package) n := by
  by_cases hk : package.uuid ∈ q.activePackageKeys
  · have hl := PackageQueue.length_deactivatePackage hnd hk
    simp only [PackageQueue.deactivatePackage, if_pos hk] at hl ⊢
    exact ⟨h.jobQueue, by dsimp only; rw [h.active]; omega, h.activeJobs, h.packageQueue⟩
  · simpa [PackageQueue.deactivatePackage, hk] using h

/-- One step of a thread keeps the gauges in agreement, counting that thread's pending job
    before the step and its next frame's after. -/
theorem threadStep {q' : PackageQueue} {pc : Pc} {o : Option Pc}
    (h : GaugesAgree q (n + [pc].countP Pc.countsActiveJob)) (hnd : q.activePackageKeys.Nodup)
    (hs : threadStep q pc = some (q', o)) :
    GaugesAgree q' (n + o.toList.countP Pc.countsActiveJob) := by
  cases pc with
  | scheduleJobLocked job =>
    simp only [A3m.Server.threadStep] at hs
    split_ifs at hs <;> cases hs
    · exact (h.pushJob job)
    · exact h
  | schedulePackage job c =>
    simp only [A3m.Server.threadStep, PackageQueue.putPackageNowait] at hs
    split_ifs at hs <;> cases hs
    · exact h
    · split_ifs <;> exact h.putWaiting job
  | getPackageJob ws =>
    cases ws with
    | nil => cases hs; exact h
    | cons w ws =>
      simp only [A3m.Server.threadStep] at hs
      rcases hg : q.getNowait w with ⟨_ | job, q₁⟩ <;> rw [hg] at hs <;> cases hs
      · rw [PackageQueue.getNowait_none hg]; exact h
      · exact h.take hg
  | putJobNowait job =>
    simp only [A3m.Server.threadStep, PackageQueue.putJobNowait] at hs
    split_ifs at hs <;> cases hs
    · exact h
    · exact h.pushJob job
  | processOneJob =>
    simp only [A3m.Server.threadStep, PackageQueue.takeJob] at hs
    rcases hq : q.jobQueue with _ | ⟨job, rest⟩ <;> simp only [hq] at hs <;> cases hs
    · exact h
    · obtain ⟨h1, h2, h3, h4⟩ := h
      refine ⟨?_, h2, ?_, h4⟩
      · simp only [hq, List.length_cons] at h1 ⊢; omega
      · simp [Pc.countsActiveJob] at h3 ⊢; omega
  | submit job =>
    cases hs
    obtain ⟨h1, h2, h3, h4⟩ := h
    refine ⟨h1, h2, ?_, h4⟩
    simp only [Pc.countsActiveJob, List.countP_singleton, Option.toList] at h3 ⊢
    simp [PackageQueue.submit, h3]; omega
  | jobCompleted result =>
    obtain ⟨h1, h2, h3, h4⟩ := h
    have h3' : q.activeJobsGauge - 1 = q.executor.length + n := by
      simp [Pc.countsActiveJob] at h3; omega
    cases result <;> cases hs <;> exact ⟨h1, h2, by simpa [Pc.countsActiveJob] using h3', h4⟩
  | activatePackage job => cases hs; exact h.activatePackage job.package
  | deactivatePackage package => cases hs; exact h.deactivatePackage hnd package
  | scheduleJob job =>
    cases hs
    split_ifs <;> exact h
  | packageCompleted package result =>
    cases hs
    split_ifs <;> exact h

end GaugesAgree

/-- The gauges agree with the queue and its threads. -/
def Sys.GaugesAgree (s : Sys) : Prop :=
  A3m.Server.GaugesAgree s.queue (s.threads.countP Pc.countsActiveJob)

theorem Sys.GaugesAgree.next {s s' : Sys} (h : s.GaugesAgree) (hi : Inv s) {e : Event}
    (he : s.next e = some s') : s'.GaugesAgree := by
  unfold Sys.GaugesAgree at h ⊢
  cases e with
  | trigger job =>
    obtain ⟨-, rfl⟩ := Sys.trigger_eq_some he
    simpa [Pc.countsActiveJob] using h
  | work =>
    obtain ⟨-, rfl⟩ := Sys.next_work_eq_some he
    simpa [Pc.countsActiveJob] using h
  | complete i result =>
    obtain ⟨job, hj, -, rfl⟩ := Sys.complete_eq_some he
    have hlen := (List.getElem?_eq_some_iff.1 hj).1
    have hex : (s.queue.executor.take i ++ s.queue.executor.drop (i + 1)).length + 1 =
        s.queue.executor.length := by simp; omega
    have hcb : (doneCallbacks job result).countP Pc.countsActiveJob = 1 := by
      unfold doneCallbacks; split_ifs <;> rfl
    obtain ⟨h1, h2, h3, h4⟩ := h
    exact ⟨h1, h2, by dsimp only; rw [List.countP_append, hcb, h3]; omega, h4⟩
  | stop => cases he; exact ⟨h.jobQueue, h.active, h.activeJobs, h.packageQueue⟩
  | step i =>
    obtain ⟨pc, q', o, hpc, hs, rfl⟩ := Sys.next_step_eq_some he
    have hsplit := List.eq_take_cons_drop hpc
    have hn : s.threads.countP Pc.countsActiveJob =
        (s.threads.take i ++ s.threads.drop (i + 1)).countP Pc.countsActiveJob +
          [pc].countP Pc.countsActiveJob := by
      conv_lhs => rw [hsplit]
      simp only [List.countP_append, List.countP_cons, List.countP_nil]; omega
    rw [hn] at h
    have hn' : (s.threads.take i ++ o.toList ++ s.threads.drop (i + 1)).countP Pc.countsActiveJob =
        (s.threads.take i ++ s.threads.drop (i + 1)).countP Pc.countsActiveJob +
          o.toList.countP Pc.countsActiveJob := by
      simp only [List.countP_append]; omega
    dsimp only
    rw [hn']
    exact h.threadStep hi.nodup hs

theorem Reachable.gaugesAgree {s : Sys} (h : Reachable s) : s.GaugesAgree := by
  induction h with
  | init m n => exact ⟨rfl, rfl, rfl, fun c => rfl⟩
  | next e hr he ih => exact ih.next hr.inv he

/-- Under atomic calls the gauges track the structures they describe: the length of
    `job_queue`, the number of active packages, the jobs submitted and not yet through
    `_job_completed_callback` (running, or with the callback pending), and for each class
    name the jobs of that class on the three waiting queues. -/
theorem AtomicReachable.gauges_agree {s : Sys} (h : AtomicReachable s) :
    s.queue.jobQueueLengthGauge = s.queue.jobQueue.length ∧
      s.queue.activePackageGauge = s.queue.activePackages.length ∧
      s.queue.activeJobsGauge = s.queue.executor.length + s.threads.countP Pc.countsActiveJob ∧
      ∀ c, s.queue.packageQueueLengthGauge c =
        s.queue.waitingJobs.countP (·.package.cls.name = c) :=
  let g := h.reachable.gaugesAgree
  ⟨g.jobQueue, g.active, g.activeJobs, g.packageQueue⟩

namespace Gauges

/-- With one slot, the job of transfer `a` is admitted and submitted, transfer `b` waits,
    and the run of `a`'s job returns no job: its two callbacks are pending. -/
def callbackTrace : List Event :=
  [.trigger Races.jobA, .step 0, .work, .step 0, .trigger Races.jobB, .step 0, .complete 0 .none]

end Gauges

/-- The gauges agree while a finished job's `_job_completed_callback` is pending and a
    transfer waits. -/
theorem gauges_agree_callback_pending :
    ∃ s, AtomicReachable s ∧
      (s.queue.executor = [] ∧ s.queue.activeJobsGauge = 1 ∧
        s.queue.packageQueueLengthGauge "Transfer" = 1) ∧
      s.queue.jobQueueLengthGauge = s.queue.jobQueue.length ∧
      s.queue.activePackageGauge = s.queue.activePackages.length ∧
      s.queue.activeJobsGauge = s.queue.executor.length + s.threads.countP Pc.countsActiveJob ∧
      ∀ c, s.queue.packageQueueLengthGauge c =
        s.queue.waitingJobs.countP (·.package.cls.name = c) := by
  obtain ⟨s, hs, hp⟩ := exists_atomicReachable_of_run 1 PackageQueue.MAX_QUEUED_PACKAGES
    Gauges.callbackTrace (fun s => s.queue.executor = [] ∧ s.queue.activeJobsGauge = 1 ∧
      s.queue.packageQueueLengthGauge "Transfer" = 1) (by decide)
  exact ⟨s, hs, hp, AtomicReachable.gauges_agree hs⟩

end A3m.Server
