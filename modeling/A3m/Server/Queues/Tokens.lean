/-
  A3m.Server.Queues.Tokens

  One job per package, under any interleaving. A package gets its first job once
  (`trigger_workflow`), and each `run` hands back at most one next job of the same
  package, so a package's work is a token that moves from thread to waiting queue to
  `job_queue` to executor and back. For each package key we count the jobs it has
  waiting (on a waiting queue, or held by a `schedule_job` about to put it there),
  admitted (on `job_queue`, submitted, or held by a thread about to put or submit it), in
  transit (held by any other thread), and the completion callbacks about to deactivate
  it. `Inv`: at most one of all these exists, and none before the package's first job;
  waiting jobs belong to inactive packages, admitted jobs and pending deactivations to
  active ones; a stalled package stays active with no work.

  A thread step changes the queue and that thread's frame only. `LocalStep` says what it
  may do to the counts of that frame and the queue; `Inv.of_localStep` lifts it to the
  whole system, and each frame has its own `LocalStep` lemma.
-/
import A3m.Server.Queues.Solo
import A3m.Server.Queues.Races

namespace A3m.Server

/-- The jobs of package key `p` in a list. -/
def jobsOf (p : String) (jobs : List Job) : Nat :=
  jobs.countP (·.package.uuid = p)

@[simp] theorem jobsOf_nil (p : String) : jobsOf p [] = 0 := rfl

@[simp] theorem jobsOf_cons (p : String) (job : Job) (jobs : List Job) :
    jobsOf p (job :: jobs) = jobsOf p jobs + if job.package.uuid = p then 1 else 0 := by
  simp [jobsOf, List.countP_cons]

@[simp] theorem jobsOf_append (p : String) (jobs jobs' : List Job) :
    jobsOf p (jobs ++ jobs') = jobsOf p jobs + jobsOf p jobs' := by
  simp [jobsOf]

namespace Pc

/-- The job a `schedule_job` call is about to put on a waiting queue. -/
@[simp] def waitingJob : Pc → Option Job
  | .schedulePackage job _ => some job
  | _ => none

/-- The job a thread is about to put on `job_queue` or to submit. -/
@[simp] def admittedJob : Pc → Option Job
  | .putJobNowait job | .submit job => some job
  | _ => none

/-- The job any other thread carries. -/
@[simp] def transitJob : Pc → Option Job
  | .scheduleJob job | .scheduleJobLocked job | .activatePackage job => some job
  | .jobCompleted (.next job) => some job
  | _ => none

/-- The package a `_package_completed_callback` is about to deactivate. -/
@[simp] def deactivating : Pc → Option Package
  | .packageCompleted package .none | .deactivatePackage package => some package
  | _ => none

end Pc

/-- Waiting jobs of key `p`: on the waiting queues, or held by the threads `ts`. -/
def waitingOf (q : PackageQueue) (ts : List Pc) (p : String) : Nat :=
  jobsOf p q.waitingJobs + jobsOf p (ts.filterMap Pc.waitingJob)

/-- Admitted jobs of key `p`: on `job_queue`, submitted, or held by the threads `ts`. -/
def admittedOf (q : PackageQueue) (ts : List Pc) (p : String) : Nat :=
  jobsOf p (q.jobQueue ++ q.executor) + jobsOf p (ts.filterMap Pc.admittedJob)

/-- Jobs of key `p` the threads `ts` carry elsewhere. -/
def transitOf (ts : List Pc) (p : String) : Nat :=
  jobsOf p (ts.filterMap Pc.transitJob)

/-- Pending deactivations of key `p` among the threads `ts`. -/
def deactivationsOf (ts : List Pc) (p : String) : Nat :=
  (ts.filterMap Pc.deactivating).countP (·.uuid = p)

/-- All the work of key `p`. -/
def workOf (q : PackageQueue) (ts : List Pc) (p : String) : Nat :=
  waitingOf q ts p + admittedOf q ts p + transitOf ts p + deactivationsOf ts p

@[simp] theorem waitingOf_nil (q : PackageQueue) (p : String) :
    waitingOf q [] p = jobsOf p q.waitingJobs := by
  simp [waitingOf]

@[simp] theorem waitingOf_cons (q : PackageQueue) (pc : Pc) (ts : List Pc) (p : String) :
    waitingOf q (pc :: ts) p = waitingOf q ts p + jobsOf p pc.waitingJob.toList := by
  cases h : pc.waitingJob <;>
    simp only [waitingOf, List.filterMap_cons, h, Option.toList, jobsOf_cons, jobsOf_nil] <;> omega

@[simp] theorem admittedOf_nil (q : PackageQueue) (p : String) :
    admittedOf q [] p = jobsOf p q.jobQueue + jobsOf p q.executor := by
  simp [admittedOf]

@[simp] theorem admittedOf_cons (q : PackageQueue) (pc : Pc) (ts : List Pc) (p : String) :
    admittedOf q (pc :: ts) p = admittedOf q ts p + jobsOf p pc.admittedJob.toList := by
  cases h : pc.admittedJob <;>
    simp only [admittedOf, List.filterMap_cons, h, Option.toList, jobsOf_cons, jobsOf_nil] <;> omega

@[simp] theorem transitOf_nil (p : String) : transitOf [] p = 0 := rfl

@[simp] theorem transitOf_cons (pc : Pc) (ts : List Pc) (p : String) :
    transitOf (pc :: ts) p = transitOf ts p + jobsOf p pc.transitJob.toList := by
  cases h : pc.transitJob <;>
    simp only [transitOf, List.filterMap_cons, h, Option.toList, jobsOf_cons, jobsOf_nil] <;> omega

@[simp] theorem deactivationsOf_nil (p : String) : deactivationsOf [] p = 0 := rfl

@[simp] theorem deactivationsOf_cons (pc : Pc) (ts : List Pc) (p : String) :
    deactivationsOf (pc :: ts) p =
      deactivationsOf ts p + pc.deactivating.toList.countP (·.uuid = p) := by
  cases h : pc.deactivating <;>
    simp only [deactivationsOf, List.filterMap_cons, h, Option.toList, List.countP_cons,
      List.countP_nil] <;> omega

@[simp] theorem waitingOf_append (q : PackageQueue) (ts ts' : List Pc) (p : String) :
    waitingOf q (ts ++ ts') p = waitingOf q ts p + jobsOf p (ts'.filterMap Pc.waitingJob) := by
  simp [waitingOf]; omega

@[simp] theorem admittedOf_append (q : PackageQueue) (ts ts' : List Pc) (p : String) :
    admittedOf q (ts ++ ts') p = admittedOf q ts p + jobsOf p (ts'.filterMap Pc.admittedJob) := by
  simp [admittedOf]; omega

@[simp] theorem transitOf_append (ts ts' : List Pc) (p : String) :
    transitOf (ts ++ ts') p = transitOf ts p + transitOf ts' p := by
  simp [transitOf]

@[simp] theorem deactivationsOf_append (ts ts' : List Pc) (p : String) :
    deactivationsOf (ts ++ ts') p = deactivationsOf ts p + deactivationsOf ts' p := by
  simp [deactivationsOf]

/-- The invariant of every interleaving. -/
structure Inv (s : Sys) : Prop where
  nodup : s.queue.activePackageKeys.Nodup
  work_le : ∀ p, workOf s.queue s.threads p ≤ 1
  work_started : ∀ p, p ∉ s.started → workOf s.queue s.threads p = 0
  waiting_inactive : ∀ p ∈ s.queue.activePackageKeys, waitingOf s.queue s.threads p = 0
  admitted_active : ∀ p, p ∉ s.queue.activePackageKeys →
    admittedOf s.queue s.threads p = 0 ∧ deactivationsOf s.threads p = 0
  stalled : ∀ p ∈ s.stalled,
    p ∈ s.started ∧ p ∈ s.queue.activePackageKeys ∧ workOf s.queue s.threads p = 0

/-- `Inv` of a state given by its parts. -/
theorem Inv.of_parts {q : PackageQueue} {ts : List Pc} {started stalled : List String}
    (nodup : q.activePackageKeys.Nodup) (work_le : ∀ p, workOf q ts p ≤ 1)
    (work_started : ∀ p, p ∉ started → workOf q ts p = 0)
    (waiting_inactive : ∀ p ∈ q.activePackageKeys, waitingOf q ts p = 0)
    (admitted_active : ∀ p, p ∉ q.activePackageKeys →
      admittedOf q ts p = 0 ∧ deactivationsOf ts p = 0)
    (stalled_ok : ∀ p ∈ stalled, p ∈ started ∧ p ∈ q.activePackageKeys ∧ workOf q ts p = 0) :
    Inv ⟨q, ts, started, stalled⟩ :=
  ⟨nodup, work_le, work_started, waiting_inactive, admitted_active, stalled_ok⟩

/-- What one step of a frame `pc`, turning the queue `q` into `q'` and the frame into the
    frames `next`, may do to the counts of the queue and that frame: it creates no work,
    keeps active keys unique, activates a key only with the work its frame holds, and
    deactivates a key only with the deactivation its frame holds. -/
structure LocalStep (q : PackageQueue) (pc : Pc) (q' : PackageQueue) (next : List Pc) : Prop where
  nodup : q.activePackageKeys.Nodup → q'.activePackageKeys.Nodup
  work_le : ∀ p, workOf q' next p ≤ workOf q [pc] p
  waiting_le : ∀ p ∈ q'.activePackageKeys,
    waitingOf q' next p ≤ waitingOf q [pc] p ∧ p ∈ q.activePackageKeys ∨
      waitingOf q' next p < workOf q [pc] p
  admitted_le : ∀ p, p ∉ q'.activePackageKeys →
    admittedOf q' next p + deactivationsOf next p ≤ admittedOf q [pc] p + deactivationsOf [pc] p ∧
      p ∉ q.activePackageKeys ∨
    admittedOf q' next p + deactivationsOf next p < workOf q [pc] p
  keeps : ∀ p ∈ q.activePackageKeys, workOf q [pc] p = 0 → p ∈ q'.activePackageKeys

/-- A step that keeps its frame's counts within `LocalStep` keeps `Inv`, whatever the
    other threads hold. -/
theorem Inv.of_localStep {q q' : PackageQueue} {pc : Pc} {next pre post : List Pc}
    {started stalled : List String} (h : Inv ⟨q, pre ++ pc :: post, started, stalled⟩)
    (hl : LocalStep q pc q' next) : Inv ⟨q', pre ++ next ++ post, started, stalled⟩ := by
  obtain ⟨hnd, hle, hst, hw, ha, hs⟩ := h
  obtain ⟨lnd, lwork, lwait, ladm, lkeep⟩ := hl
  rw [List.append_cons] at hle hst hw ha hs
  simp only [workOf, waitingOf, admittedOf, transitOf, deactivationsOf, List.filterMap_append,
    jobsOf_append, List.countP_append] at hle hst hw ha hs lwork lwait ladm lkeep
  refine ⟨lnd hnd, fun p => ?_, fun p hp => ?_, fun p hp => ?_, fun p hp => ?_,
    fun p hp => ?_⟩ <;>
  simp only [workOf, waitingOf, admittedOf, transitOf, deactivationsOf, List.filterMap_append,
    jobsOf_append, List.countP_append]
  · have := hle p; have := lwork p; omega
  · have := hst p hp; have := lwork p; omega
  · have := hle p
    rcases lwait p hp with ⟨h1, h2⟩ | h1
    · have := hw p h2; omega
    · omega
  · have := hle p
    rcases ladm p hp with ⟨h1, h2⟩ | h1
    · have := ha p h2; omega
    · omega
  · obtain ⟨h1, h2, h3⟩ := hs p hp
    have := lwork p
    exact ⟨h1, lkeep p h2 (by omega), by omega⟩

/-- A step that leaves `active_packages` alone only has to create no work, no waiting
    job of an active package, and no admitted job or deactivation of an inactive one. -/
theorem LocalStep.of_keys_eq {q q' : PackageQueue} {pc : Pc} {next : List Pc}
    (hk : q'.activePackageKeys = q.activePackageKeys)
    (hwork : ∀ p, workOf q' next p ≤ workOf q [pc] p)
    (hwait : ∀ p ∈ q.activePackageKeys, waitingOf q' next p ≤ waitingOf q [pc] p)
    (hadm : ∀ p, p ∉ q.activePackageKeys →
      admittedOf q' next p + deactivationsOf next p ≤ admittedOf q [pc] p + deactivationsOf [pc] p) :
    LocalStep q pc q' next where
  nodup h := hk ▸ h
  work_le := hwork
  waiting_le p hp := .inl ⟨hwait p (hk ▸ hp), hk ▸ hp⟩
  admitted_le p hp := .inl ⟨hadm p (hk ▸ hp), hk ▸ hp⟩
  keeps _ hp _ := hk ▸ hp

/-! ## One lemma per frame -/

section Frames

variable {q q' : PackageQueue}

theorem localStep_scheduleJob (job : Job) (o : Option Pc)
    (ho : o = none ∨ o = some (.scheduleJobLocked job)) :
    LocalStep q (.scheduleJob job) q o.toList := by
  apply LocalStep.of_keys_eq rfl <;> rcases ho with rfl | rfl <;> simp [workOf]

theorem localStep_scheduleJobLocked {job : Job} {o : Option Pc}
    (h : threadStep q (.scheduleJobLocked job) = some (q', o)) :
    LocalStep q (.scheduleJobLocked job) q' o.toList := by
  simp only [threadStep] at h
  split_ifs at h with hk hf <;> simp only [Option.some.injEq, Prod.mk.injEq] at h <;>
    obtain ⟨rfl, rfl⟩ := h
  · refine LocalStep.of_keys_eq (by simp) (fun p => ?_) (fun p _ => by simp) (fun p hp => ?_)
    · by_cases e : job.package.uuid = p <;> simp [workOf, e]; omega
    · have : job.package.uuid ≠ p := fun e => hp (e ▸ hk)
      simp [this]
  · refine LocalStep.of_keys_eq rfl (fun p => ?_) (fun p hp => ?_) (fun p _ => by simp)
    · by_cases e : job.package.uuid = p <;> simp [workOf, e]; omega
    · have : job.package.uuid ≠ p := fun e => hk (e ▸ hp)
      simp [this]

@[simp] theorem jobsOf_waitingJobs_putWaiting (q : PackageQueue) (package : Package) (job : Job)
    (p : String) : jobsOf p (q.putWaiting package job).waitingJobs =
      jobsOf p q.waitingJobs + if job.package.uuid = p then 1 else 0 := by
  simp [jobsOf, PackageQueue.countP_waitingJobs_putWaiting]

theorem localStep_schedulePackage {job : Job} {c : Nat} {o : Option Pc}
    (h : threadStep q (.schedulePackage job c) = some (q', o)) :
    LocalStep q (.schedulePackage job c) q' o.toList := by
  simp only [threadStep, PackageQueue.putPackageNowait] at h
  split_ifs at h <;> simp only [Outcome.finish, Option.some.injEq, Prod.mk.injEq] at h <;>
    obtain ⟨rfl, rfl⟩ := h
  · exact LocalStep.of_keys_eq rfl (fun p => by simp [workOf]) (fun p _ => by simp)
      (fun p _ => by simp)
  · refine LocalStep.of_keys_eq (by simp) (fun p => ?_) (fun p _ => ?_) (fun p _ => ?_) <;>
      split_ifs <;> simp [workOf]

theorem localStep_getPackageJob {ws : List WaitingQueue} {o : Option Pc}
    (h : threadStep q (.getPackageJob ws) = some (q', o)) :
    LocalStep q (.getPackageJob ws) q' o.toList := by
  cases ws with
  | nil =>
    simp only [threadStep, Option.some.injEq, Prod.mk.injEq] at h
    obtain ⟨rfl, rfl⟩ := h
    exact LocalStep.of_keys_eq rfl (fun p => by simp [workOf]) (fun p _ => by simp)
      (fun p _ => by simp)
  | cons w ws =>
    simp only [threadStep] at h
    rcases hg : q.getNowait w with ⟨_ | job, q₁⟩ <;> rw [hg] at h <;>
      simp only [Option.some.injEq, Prod.mk.injEq] at h <;> obtain ⟨rfl, rfl⟩ := h
    · rw [PackageQueue.getNowait_none hg]
      exact LocalStep.of_keys_eq rfl (fun p => by simp [workOf]) (fun p _ => by simp)
        (fun p _ => by simp)
    · obtain ⟨-, -, -, hact, hjq, hex, -⟩ := PackageQueue.getNowait_fields hg
      have hw p : jobsOf p q₁.waitingJobs + (if job.package.uuid = p then 1 else 0) =
          jobsOf p q.waitingJobs := by
        simpa [jobsOf] using PackageQueue.countP_waitingJobs_getNowait hg (·.package.uuid = p)
      refine LocalStep.of_keys_eq (by simp [PackageQueue.activePackageKeys, hact])
        (fun p => ?_) (fun p _ => ?_) (fun p _ => ?_) <;>
        simp [workOf, hjq, hex] <;> have := hw p <;> omega

theorem localStep_activatePackage (job : Job) :
    LocalStep q (.activatePackage job) (q.activatePackage job.package) [.putJobNowait job] where
  nodup := PackageQueue.nodup_keys_activatePackage _
  work_le p := by simp [workOf]; omega
  waiting_le p hp := by
    rcases PackageQueue.mem_keys_activatePackage.1 hp with hp | rfl
    · exact .inl ⟨by simp, hp⟩
    · exact .inr (by simp [workOf]; omega)
  admitted_le p hp := by
    simp only [PackageQueue.mem_keys_activatePackage, not_or] at hp
    exact .inl ⟨by simp [Ne.symm hp.2], hp.1⟩
  keeps _ hp _ := PackageQueue.mem_keys_activatePackage.2 (.inl hp)

theorem localStep_deactivatePackage (package : Package) :
    LocalStep q (.deactivatePackage package) (q.deactivatePackage package)
      [.getPackageJob priorityOrder] where
  nodup := PackageQueue.nodup_keys_deactivatePackage _
  work_le p := by by_cases e : package.uuid = p <;> simp [workOf, e]
  waiting_le p hp := .inl ⟨by simp, (PackageQueue.mem_keys_deactivatePackage.1 hp).1⟩
  admitted_le p hp := by
    by_cases e : package.uuid = p
    · exact .inr (by simp [workOf, e]; omega)
    · refine .inl ⟨by simp [e], fun hq => hp ?_⟩
      exact PackageQueue.mem_keys_deactivatePackage.2 ⟨hq, Ne.symm e⟩
  keeps p hp hw := by
    refine PackageQueue.mem_keys_deactivatePackage.2 ⟨hp, fun e => ?_⟩
    subst e
    simp [workOf] at hw

theorem localStep_putJobNowait {job : Job} {o : Option Pc}
    (h : threadStep q (.putJobNowait job) = some (q', o)) :
    LocalStep q (.putJobNowait job) q' o.toList := by
  simp only [threadStep, PackageQueue.putJobNowait] at h
  split_ifs at h <;> simp only [Outcome.finish, Option.some.injEq, Prod.mk.injEq] at h <;>
    obtain ⟨rfl, rfl⟩ := h
  · exact LocalStep.of_keys_eq rfl (fun p => by simp [workOf]) (fun p _ => by simp)
      (fun p _ => by simp)
  · exact LocalStep.of_keys_eq (by simp) (fun p => by simp [workOf]; omega) (fun p _ => by simp)
      (fun p _ => by simp; omega)

theorem localStep_processOneJob {o : Option Pc} (h : threadStep q .processOneJob = some (q', o)) :
    LocalStep q .processOneJob q' o.toList := by
  simp only [threadStep, PackageQueue.takeJob] at h
  rcases hq : q.jobQueue with _ | ⟨job, rest⟩ <;>
    simp only [hq, Option.some.injEq, Prod.mk.injEq] at h <;> obtain ⟨rfl, rfl⟩ := h
  · exact LocalStep.of_keys_eq rfl (fun p => by simp [workOf]) (fun p _ => by simp)
      (fun p _ => by simp)
  · refine LocalStep.of_keys_eq rfl (fun p => ?_) (fun p _ => ?_) (fun p _ => ?_) <;>
      simp [workOf, hq, PackageQueue.waitingJobs] <;> omega

theorem localStep_submit (job : Job) :
    LocalStep q (.submit job) (q.submit job) [] :=
  LocalStep.of_keys_eq (by simp) (fun p => by simp [workOf]; omega) (fun p _ => by simp)
    (fun p _ => by simp; omega)

theorem localStep_jobCompleted {result : RunResult} {o : Option Pc}
    (h : threadStep q (.jobCompleted result) = some (q', o)) :
    LocalStep q (.jobCompleted result) q' o.toList := by
  cases result <;> simp only [threadStep, Option.some.injEq, Prod.mk.injEq] at h <;>
    obtain ⟨rfl, rfl⟩ := h <;>
    exact LocalStep.of_keys_eq rfl (fun p => by simp [workOf, PackageQueue.waitingJobs])
      (fun p _ => by simp [PackageQueue.waitingJobs]) (fun p _ => by simp)

theorem localStep_packageCompleted (package : Package) (result : RunResult) :
    LocalStep q (.packageCompleted package result) q
      (if result = .none then some (Pc.deactivatePackage package) else none).toList := by
  cases result <;>
    exact LocalStep.of_keys_eq rfl (fun p => by simp [workOf]) (fun p _ => by simp)
      (fun p _ => by simp)

/-- Every thread step keeps its frame's counts within `LocalStep`. -/
theorem localStep_of_threadStep {pc : Pc} {o : Option Pc} (h : threadStep q pc = some (q', o)) :
    LocalStep q pc q' o.toList := by
  cases pc with
  | scheduleJobLocked job => exact localStep_scheduleJobLocked h
  | schedulePackage job c => exact localStep_schedulePackage h
  | getPackageJob ws => exact localStep_getPackageJob h
  | putJobNowait job => exact localStep_putJobNowait h
  | processOneJob => exact localStep_processOneJob h
  | jobCompleted result => exact localStep_jobCompleted h
  | _ =>
    simp only [threadStep, Option.some.injEq, Prod.mk.injEq] at h
    obtain ⟨rfl, rfl⟩ := h
    first
      | exact localStep_scheduleJob _ _ (by split_ifs <;> simp)
      | exact localStep_activatePackage _
      | exact localStep_submit _
      | exact localStep_packageCompleted _ _
      | exact localStep_deactivatePackage _

end Frames

/-! ## Events -/

theorem Inv.init (maxConcurrentPackages maxQueuedPackages : Nat) :
    Inv (Sys.init maxConcurrentPackages maxQueuedPackages) := by
  refine ⟨List.nodup_nil, fun p => ?_, fun p _ => ?_, fun p hp => ?_, fun p _ => ?_,
    fun p hp => ?_⟩ <;>
  simp_all [Sys.init, PackageQueue.init, workOf, PackageQueue.waitingJobs,
    PackageQueue.activePackageKeys]

/-- A new package's first job starts as the only work of that package. -/
theorem Inv.trigger {s s' : Sys} (h : Inv s) {job : Job} (he : s.trigger job = some s') :
    Inv s' := by
  obtain ⟨hs, rfl⟩ := Sys.trigger_eq_some he
  obtain ⟨hnd, hle, hst, hw, ha, hsl⟩ := h
  have h0 := hst _ hs
  refine ⟨hnd, fun p => ?_, fun p hp => ?_, fun p hp => ?_, fun p hp => ?_, fun p hp => ?_⟩
  · by_cases e : job.package.uuid = p
    · subst e; simp [workOf] at h0 ⊢; omega
    · have := hle p; simp [workOf, e] at this ⊢; omega
  · simp only [List.mem_cons, not_or] at hp
    have := hst p hp.2; simp [workOf, Ne.symm hp.1] at this ⊢; omega
  · simpa using hw p hp
  · simpa using ha p hp
  · obtain ⟨h1, h2, h3⟩ := hsl p hp
    have : job.package.uuid ≠ p := fun e => hs (e ▸ h1)
    exact ⟨List.mem_cons_of_mem _ h1, h2, by simp [workOf, this] at h3 ⊢; omega⟩

/-- `work` starts a `process_one_job`, which holds nothing yet. -/
theorem Inv.work {s : Sys} (h : Inv s) : Inv { s with threads := s.threads ++ [.processOneJob] } := by
  obtain ⟨hnd, hle, hst, hwi, hai, hsl⟩ := h
  refine ⟨hnd, fun p => ?_, fun p hp => ?_, fun p hp => ?_, fun p hp => ?_, fun p hp => ?_⟩
  · simpa [workOf] using hle p
  · simpa [workOf] using hst p hp
  · simpa using hwi p hp
  · simpa using hai p hp
  · simpa [workOf] using hsl p hp

/-- `stop` sets `shutdown_event` and touches nothing the invariant counts. -/
theorem Inv.stop {s : Sys} (h : Inv s) : Inv { s with queue := s.queue.stop } := by
  obtain ⟨hnd, hle, hst, hwi, hai, hsl⟩ := h
  exact ⟨hnd, hle, hst, hwi, hai, hsl⟩

/-- The callbacks of a finished run carry its work on: its next job, or the
    deactivation of a terminal link; nothing when it stalls. -/
theorem doneCallbacks_work (job : Job) (result : RunResult) (hr : result.OfPackage job.package)
    (p : String) :
    jobsOf p ((doneCallbacks job result).filterMap Pc.waitingJob) = 0 ∧
    jobsOf p ((doneCallbacks job result).filterMap Pc.admittedJob) = 0 ∧
    transitOf (doneCallbacks job result) p + deactivationsOf (doneCallbacks job result) p =
      (if job.package.uuid = p then if result.stalls job then 0 else 1 else 0) ∧
    deactivationsOf (doneCallbacks job result) p ≤ if job.package.uuid = p then 1 else 0 := by
  cases result with
  | next j =>
    simp only [RunResult.OfPackage] at hr
    cases h : job.link.isTerminal <;> simp [doneCallbacks, RunResult.stalls, hr, h]
  | _ => cases h : job.link.isTerminal <;> by_cases e : job.package.uuid = p <;>
      simp [doneCallbacks, RunResult.stalls, h, e]

/-- The admitted jobs once the `i`-th submitted job's `run` returned: that job has left the
    executor, and its callbacks hold no admitted job. -/
theorem admittedOf_complete {s : Sys} {i : Nat} {job : Job} (hj : s.queue.executor[i]? = some job)
    {result : RunResult} (hr : result.OfPackage job.package) (p : String) :
    admittedOf { s.queue with executor := s.queue.executor.take i ++ s.queue.executor.drop (i + 1) }
        (s.threads ++ doneCallbacks job result) p + (if job.package.uuid = p then 1 else 0) =
      admittedOf s.queue s.threads p := by
  have hex : jobsOf p (s.queue.executor.take i ++ s.queue.executor.drop (i + 1)) +
      (if job.package.uuid = p then 1 else 0) = jobsOf p s.queue.executor := by
    conv_rhs => rw [List.eq_take_cons_drop hj]
    simp; omega
  rw [admittedOf_append, (doneCallbacks_work job result hr p).2.1]
  simp only [admittedOf, jobsOf_append] at hex ⊢
  omega

/-- The work of each package once the `i`-th submitted job's `run` returned: the job's
    package keeps its one unit of work, in a callback, unless the run stalled. -/
theorem workOf_complete {s : Sys} {i : Nat} {job : Job} (hj : s.queue.executor[i]? = some job)
    {result : RunResult} (hr : result.OfPackage job.package) (p : String) :
    workOf { s.queue with executor := s.queue.executor.take i ++ s.queue.executor.drop (i + 1) }
        (s.threads ++ doneCallbacks job result) p + (if job.package.uuid = p then 1 else 0) =
      workOf s.queue s.threads p +
        (if job.package.uuid = p then if result.stalls job then 0 else 1 else 0) := by
  have hcb := doneCallbacks_work job result hr p
  have := admittedOf_complete hj hr p
  rw [← hcb.2.2.1]
  simp only [workOf, waitingOf, transitOf_append, deactivationsOf_append, jobsOf_append,
    List.filterMap_append, hcb.1, PackageQueue.waitingJobs] at this ⊢
  omega

/-- A job's `run` returns: its work passes to its callbacks, or ends. -/
theorem Inv.complete {s s' : Sys} (h : Inv s) {i : Nat} {result : RunResult}
    (he : s.complete i result = some s') : Inv s' := by
  obtain ⟨job, hj, hr, rfl⟩ := Sys.complete_eq_some he
  obtain ⟨hnd, hle, hst, hw, ha, hsl⟩ := h
  have hadm := admittedOf_complete hj hr
  have hwork := workOf_complete hj hr
  have hcb := doneCallbacks_work job result hr
  set q' : PackageQueue :=
    { s.queue with executor := s.queue.executor.take i ++ s.queue.executor.drop (i + 1) }
  set cbs := doneCallbacks job result
  have hwait p : waitingOf q' (s.threads ++ cbs) p = waitingOf s.queue s.threads p := by
    simp [waitingOf, q', PackageQueue.waitingJobs, (hcb p).1]
  have hkeys : q'.activePackageKeys = s.queue.activePackageKeys := rfl
  have hact : job.package.uuid ∈ s.queue.activePackageKeys := by
    by_contra hn
    have := (ha _ hn).1
    have := hadm job.package.uuid
    simp at this; omega
  clear_value q' cbs
  have hpos : 1 ≤ workOf s.queue s.threads job.package.uuid := by
    have := hadm job.package.uuid
    simp only [if_true] at this
    simp only [workOf]; omega
  have hold : ∀ p ∈ s.stalled,
      p ∈ s.started ∧ p ∈ q'.activePackageKeys ∧ workOf q' (s.threads ++ cbs) p = 0 := by
    intro p hp
    obtain ⟨h1, h2, h3⟩ := hsl p hp
    have e : job.package.uuid ≠ p := fun e => by subst e; omega
    have h4 := hwork p
    simp only [e, if_false] at h4
    exact ⟨h1, hkeys ▸ h2, by omega⟩
  refine Inv.of_parts (hkeys ▸ hnd) (fun p => ?_) (fun p hp => ?_) (fun p hp => ?_)
    (fun p hp => ?_) (fun p hp => ?_) <;> rw [hkeys] at *
  · have h1 := hle p; have h2 := hwork p
    split_ifs at h2 <;> omega
  · have h1 := hst p hp; have h2 := hwork p
    split_ifs at h2 <;> omega
  · rw [hwait]; exact hw p hp
  · have e : job.package.uuid ≠ p := fun e => hp (e ▸ hact)
    have := ha p hp; have := hadm p; have := (hcb p).2.2.2
    simp only [e, if_false, deactivationsOf_append] at *
    omega
  · split_ifs at hp with hs
    · rcases List.mem_cons.1 hp with rfl | hp
      · have hstart : job.package.uuid ∈ s.started := by
          by_contra hn; have := hst _ hn; omega
        have h1 := hle job.package.uuid; have h2 := hwork job.package.uuid
        simp only [if_true, hs] at h2
        exact ⟨hstart, hact, by omega⟩
      · exact hold p hp
    · exact hold p hp

theorem Inv.next {s s' : Sys} (h : Inv s) {e : Event} (he : s.next e = some s') : Inv s' := by
  cases e with
  | trigger job => exact h.trigger he
  | work => obtain ⟨-, rfl⟩ := Sys.next_work_eq_some he; exact h.work
  | complete i result => exact h.complete he
  | stop => cases he; exact h.stop
  | step i =>
    obtain ⟨pc, q', o, hpc, hs, rfl⟩ := Sys.next_step_eq_some he
    have h' : Inv ⟨s.queue, s.threads.take i ++ pc :: s.threads.drop (i + 1), s.started,
        s.stalled⟩ := List.eq_take_cons_drop hpc ▸ h
    exact h'.of_localStep (localStep_of_threadStep hs)

/-- `Inv` holds in every state of every interleaving. -/
theorem Reachable.inv {s : Sys} (h : Reachable s) : Inv s := by
  induction h with
  | init m n => exact Inv.init m n
  | next e _ he ih => exact ih.next he

/-! ## One job per package -/

/-- Jobs of a package run one after another, under any interleaving: a package key has at
    most one job on a waiting queue, on `job_queue`, submitted to the executor, or held by a
    thread (a returned next job before `_job_completed_callback` hands it to `schedule_job`
    among them). A package with a waiting job is not active, and one with a job on
    `job_queue` or in the executor is. -/
theorem Reachable.one_job_per_package {s : Sys} (h : Reachable s) (p : String) :
    jobsOf p s.queue.waitingJobs + jobsOf p s.queue.jobQueue + jobsOf p s.queue.executor +
        transitOf s.threads p ≤ 1 ∧
      (0 < jobsOf p s.queue.waitingJobs → p ∉ s.queue.activePackageKeys) ∧
      (0 < jobsOf p s.queue.jobQueue + jobsOf p s.queue.executor →
        p ∈ s.queue.activePackageKeys) := by
  obtain ⟨-, hle, -, hw, ha, -⟩ := h.inv
  have hp := hle p
  simp only [workOf, waitingOf, admittedOf, jobsOf_append] at hp
  refine ⟨by omega, fun hj hk => ?_, fun hj => ?_⟩
  · have := hw p hk
    simp only [waitingOf] at this
    omega
  · by_contra hk
    have := (ha p hk).1
    simp only [admittedOf, jobsOf_append] at this
    omega

namespace Tokens

/-- With one slot, the interleaved run of the first `schedule_job` of transfer `a` and of an
    iteration of `work` submits the job of `a`; the `schedule_job` of transfer `b` then
    passes its `shutdown_event` test and holds the job of `b`. -/
def heldTrace : List Event :=
  [.trigger Races.jobA, .step 0, .step 0, .step 0, .step 0, .step 0, .step 0, .step 0, .step 0,
   .work, .step 0, .step 0, .trigger Races.jobB, .step 0]

end Tokens

/-- A package with its job in the executor and one whose job a thread holds, mid-run. -/
theorem one_job_per_package_running_and_held :
    ∃ s, Reachable s ∧ 0 < jobsOf "a" s.queue.executor ∧ 0 < transitOf s.threads "b" ∧
      ∀ p, jobsOf p s.queue.waitingJobs + jobsOf p s.queue.jobQueue + jobsOf p s.queue.executor +
          transitOf s.threads p ≤ 1 ∧
        (0 < jobsOf p s.queue.waitingJobs → p ∉ s.queue.activePackageKeys) ∧
        (0 < jobsOf p s.queue.jobQueue + jobsOf p s.queue.executor →
          p ∈ s.queue.activePackageKeys) := by
  obtain ⟨s, hs, ha, hb⟩ : ∃ s, Reachable s ∧ 0 < jobsOf "a" s.queue.executor ∧
      0 < transitOf s.threads "b" :=
    exists_reachable_of_run 1 PackageQueue.MAX_QUEUED_PACKAGES Tokens.heldTrace (by decide)
  exact ⟨s, hs, ha, hb, Reachable.one_job_per_package hs⟩

end A3m.Server
