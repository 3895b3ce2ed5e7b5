/-
  A3m.Server.Queues.Stall

  Which active packages have work, under atomic calls. A package is activated with its job
  put on `job_queue`, and each call passes the package's work on: to the executor, to the
  done callbacks of the job, to `schedule_job` with the next job, or to
  `_package_completed_callback`, which deactivates the package. Three runs end a package's
  work and leave it active: its job raises, its job returns no job at a link that is not
  terminal (only a terminal link gets `_package_completed_callback`), or `schedule_job`
  raises `RuntimeError` for its next job once the queue is stopped. The first two are the
  stalls of `Sys` (`RunResult.stalls`).

  One lemma per call says what it does to the work of each package
  (`queueNextJobFrom_work`, `scheduleJob_work`, `deactivate_queueNextJob_work`,
  `Inv.resume_work`), and `Sys.ActiveHasWork.nextAtomic` carries "every active package has
  work, stalled, or the queue is stopped" through each atomic event. A stalled package
  stays active with no work in every later state (`Inv.stalled`): with one slot, no other
  package is admitted again (`stalled_package_keeps_slot`). The docstring of `PackageQueue`
  says that a package stops processing, and makes room for a deferred one, when it reaches
  a decision point that has not been pre-configured; the code frees a slot only after a
  terminal link.
-/
import A3m.Server.Queues.Atomic

namespace A3m.Server

/-! ## Work on the queue and in the threads -/

/-- The work of a package on the queue alone: waiting, on `job_queue`, or submitted. -/
@[simp] theorem workOf_nil (q : PackageQueue) (p : String) :
    workOf q [] p = jobsOf p q.waitingJobs + jobsOf p q.jobQueue + jobsOf p q.executor := by
  simp [workOf, Nat.add_assoc]

/-- The threads' share of the work does not depend on the queue. -/
theorem workOf_add_workOf_nil (q q' : PackageQueue) (ts : List Pc) (p : String) :
    workOf q ts p + workOf q' [] p = workOf q' ts p + workOf q [] p := by
  simp only [workOf, waitingOf, admittedOf, jobsOf_append, List.filterMap_nil, jobsOf_nil]
  omega

/-- Taking one thread out of the list takes its share of the work. -/
theorem workOf_middle (q : PackageQueue) (pre post : List Pc) (pc : Pc) (p : String) :
    workOf q (pre ++ pc :: post) p + workOf q [] p = workOf q (pre ++ post) p + workOf q [pc] p := by
  rw [List.append_cons]
  simp only [workOf, waitingOf, admittedOf, transitOf, deactivationsOf, List.filterMap_append,
    List.filterMap_nil, jobsOf_append, jobsOf_nil, List.countP_append, List.countP_nil]
  omega

/-- A thread's jobs are among the package's work. -/
theorem jobsOf_admitted_le_workOf (q : PackageQueue) (ts : List Pc) (p : String) :
    jobsOf p (q.jobQueue ++ q.executor) ≤ workOf q ts p := by
  simp only [workOf, admittedOf]; omega

namespace PackageQueue

theorem workOf_nil_pushJob (q : PackageQueue) (job : Job) (p : String) :
    workOf (q.pushJob job) [] p = workOf q [] p + jobsOf p [job] := by
  simp only [workOf_nil, waitingJobs_pushJob, pushJob_fields, jobsOf_append]; omega

theorem workOf_nil_putWaiting (q : PackageQueue) (package : Package) (job : Job) (p : String) :
    workOf (q.putWaiting package job) [] p = workOf q [] p + jobsOf p [job] := by
  have := q.countP_waitingJobs_putWaiting package job (·.package.uuid = p)
  simp only [workOf_nil, jobsOf, putWaiting_fields, List.countP_singleton] at this ⊢
  omega

/-- With room on `job_queue`, `queue_next_job` moves a job from its waiting queue to
    `job_queue`: it keeps the work of every package, and a package it activates has a job
    on `job_queue`. -/
theorem queueNextJobFrom_work {q q' : PackageQueue} {ws : List WaitingQueue}
    (hroom : ¬queueFull q.maxConcurrentPackages q.jobQueue)
    (h : (q.queueNextJobFrom ws).state? = some q') :
    q'.shutdownEvent = q.shutdownEvent ∧ (∀ p, workOf q' [] p = workOf q [] p) ∧
      ∀ p ∈ q'.activePackageKeys,
        p ∈ q.activePackageKeys ∨ 0 < jobsOf p (q'.jobQueue ++ q'.executor) := by
  rcases queueNextJobFrom_ok q ws hroom with ⟨-, he⟩ | ⟨-, w, -, job, rest, -, -, hw, he⟩ <;>
    rw [he] at h <;> cases h
  · exact ⟨rfl, fun _ => rfl, fun p hp => .inl hp⟩
  refine ⟨by simp, fun p => ?_, fun p hp => ?_⟩
  · have := q.countP_waitingJobs_setWaiting w rest (·.package.uuid = p)
    rw [hw, List.countP_cons] at this
    simp only [workOf_nil, waitingJobs_pushJob, pushJob_fields, waitingJobs_activatePackage,
      waitingJobs_packageGaugeAdd, activatePackage_fields, packageGaugeAdd_fields,
      setWaiting_fields, jobsOf, List.countP_append, List.countP_singleton] at this ⊢
    omega
  · rcases mem_keys_activatePackage.1 hp with hp | rfl
    · left; simpa [activePackageKeys] using hp
    · exact .inr (List.countP_pos_iff.2 ⟨job, by simp, by simp⟩)

/-- `schedule_job` with `job_queue` no longer than the active packages: the job's work goes
    on to the queue, unless it raises on a stopped queue or for a package found inactive;
    a package it activates has a job on `job_queue`. -/
theorem scheduleJob_work {q q' : PackageQueue} {job : Job}
    (hroom : q.jobQueue.length ≤ q.activePackages.length)
    (h : (q.scheduleJob job).state? = some q') :
    q'.shutdownEvent = q.shutdownEvent ∧
      ∀ p ∈ q'.activePackageKeys, p ∈ q.activePackageKeys ∧
          (workOf q [] p + jobsOf p [job] ≤ workOf q' [] p ∨ q.shutdownEvent = true) ∨
        0 < jobsOf p (q'.jobQueue ++ q'.executor) := by
  rcases scheduleJob_cases q job with ⟨hs, he⟩ | ⟨-, -, he⟩ | ⟨-, ha, -, he⟩ | ⟨-, -, -, he⟩ <;>
    rw [he] at h
  · cases h; exact ⟨rfl, fun p hp => .inl ⟨hp, .inr hs⟩⟩
  · split_ifs at h
    · cases h
    obtain rfl := Option.some.inj h
    exact ⟨rfl, fun p hp => .inl ⟨hp, .inl (workOf_nil_pushJob q job p).ge⟩⟩
  · cases h
    refine ⟨rfl, fun p hp => .inl ⟨hp, .inl ?_⟩⟩
    have : job.package.uuid ≠ p := fun e => ha (e ▸ hp)
    simp [jobsOf, this]
  · split_ifs at h with hlt
    · obtain ⟨h1, h2, h3⟩ := queueNextJobFrom_work (not_queueFull_putWaiting _ _ (by omega)) h
      refine ⟨by simpa using h1, fun p hp => (h3 p hp).imp (fun hp' => ⟨by simpa using hp', ?_⟩) id⟩
      rw [h2, workOf_nil_putWaiting]
      exact .inl le_rfl
    · cases h
      exact ⟨by simp, fun p hp => .inl ⟨by simpa using hp, .inl (workOf_nil_putWaiting ..).ge⟩⟩

/-- The package-completion callback with room on `job_queue`: it deactivates its package,
    keeps the work of every other package, and a package it activates has a job on
    `job_queue`. -/
theorem deactivate_queueNextJob_work {q q' : PackageQueue} {package : Package}
    (hroom : ¬queueFull q.maxConcurrentPackages q.jobQueue)
    (h : ((q.deactivatePackage package).queueNextJob).state? = some q') :
    q'.shutdownEvent = q.shutdownEvent ∧
      ∀ p ∈ q'.activePackageKeys, p ∈ q.activePackageKeys ∧ p ≠ package.uuid ∧
          workOf q [] p ≤ workOf q' [] p ∨
        0 < jobsOf p (q'.jobQueue ++ q'.executor) := by
  obtain ⟨h1, h2, h3⟩ := queueNextJobFrom_work (not_queueFull_deactivatePackage _ hroom) h
  refine ⟨by simpa using h1, fun p hp => (h3 p hp).imp (fun hp' => ?_) id⟩
  obtain ⟨hk, hne⟩ := mem_keys_deactivatePackage.1 hp'
  exact ⟨hk, hne, by rw [h2]; simp⟩

/-- `process_one_job` moves a job from `job_queue` to the executor. -/
theorem processOneJob_work {q q' : PackageQueue} (h : q.processOneJob.state? = some q') :
    q'.shutdownEvent = q.shutdownEvent ∧ q'.activePackageKeys = q.activePackageKeys ∧
      ∀ p, workOf q' [] p = workOf q [] p := by
  unfold processOneJob takeJob at h
  rcases hq : q.jobQueue with _ | ⟨job, rest⟩ <;> simp only [hq] at h <;> cases h
  · exact ⟨rfl, rfl, fun _ => rfl⟩
  refine ⟨rfl, rfl, fun p => ?_⟩
  simp only [workOf_nil, waitingJobs, submit_fields, hq, jobsOf_cons, jobsOf_append, jobsOf_nil]
  omega

end PackageQueue

/-! ## One atomic call -/

/-- A pending call of the atomic system, run to its end: a package active after it was
    active before and keeps all the work the queue and the call held for it, unless the
    call raised on a stopped queue; or it has a job on `job_queue`. -/
theorem Inv.resume_work {s : Sys} (hi : Inv s) (ha : AtomicInv s) {pc : Pc}
    (hpc : pc ∈ s.threads) {q' : PackageQueue} (h : (pc.resume s.queue).state? = some q') :
    q'.shutdownEvent = s.queue.shutdownEvent ∧
      ∀ p ∈ q'.activePackageKeys, p ∈ s.queue.activePackageKeys ∧
          (workOf s.queue [pc] p ≤ workOf q' [] p ∨ s.queue.shutdownEvent = true) ∨
        0 < jobsOf p (q'.jobQueue ++ q'.executor) := by
  have hroom : s.queue.jobQueue.length ≤ s.queue.activePackages.length := by
    have := hi.length_admitted_le; omega
  have hentry := ha.entry pc hpc
  cases pc with
  | scheduleJob job =>
    obtain ⟨h1, h2⟩ := PackageQueue.scheduleJob_work hroom h
    refine ⟨h1, fun p hp => (h2 p hp).imp_left fun ⟨hk, hw⟩ => ⟨hk, ?_⟩⟩
    simpa [workOf, Nat.add_assoc] using hw
  | jobCompleted result =>
    cases result with
    | next job =>
      obtain ⟨h1, h2⟩ := @PackageQueue.scheduleJob_work
        { s.queue with activeJobsGauge := s.queue.activeJobsGauge - 1 } _ _ hroom h
      refine ⟨h1, fun p hp => (h2 p hp).imp_left fun ⟨hk, hw⟩ => ⟨hk, ?_⟩⟩
      simpa [workOf, Nat.add_assoc] using hw
    | _ =>
      cases h
      exact ⟨rfl, fun p hp => .inl ⟨hp, .inl (Nat.le_of_eq rfl)⟩⟩
  | processOneJob =>
    obtain ⟨h1, h2, h3⟩ := PackageQueue.processOneJob_work h
    refine ⟨h1, fun p hp => .inl ⟨h2 ▸ hp, .inl ?_⟩⟩
    rw [h3]; simp [workOf]
  | packageCompleted package result =>
    cases result with
    | none =>
      obtain ⟨hk, h0⟩ := hi.active_of_deactivating hpc rfl
      have := hi.length_admitted_lt hk h0
      have := ha.cap
      obtain ⟨h1, h2⟩ := PackageQueue.deactivate_queueNextJob_work
        (not_queueFull_of_lt (by omega)) h
      refine ⟨h1, fun p hp => (h2 p hp).imp_left fun ⟨hk, hne, hw⟩ => ⟨hk, .inl ?_⟩⟩
      simpa [workOf, Ne.symm hne] using hw
    | _ =>
      cases h
      exact ⟨rfl, fun p hp => .inl ⟨hp, .inl (Nat.le_of_eq rfl)⟩⟩
  | _ => cases hentry

/-! ## Every active package has work -/

/-- Every active package has work, or stalled, or the queue is stopped. -/
def Sys.ActiveHasWork (s : Sys) : Prop :=
  ∀ p ∈ s.queue.activePackageKeys,
    0 < workOf s.queue s.threads p ∨ p ∈ s.stalled ∨ s.queue.shutdownEvent = true

theorem Sys.ActiveHasWork.nextAtomic {s s' : Sys} (h : s.ActiveHasWork) (hi : Inv s)
    (ha : AtomicInv s) {e : Event} (he : s.nextAtomic e = some s') : s'.ActiveHasWork := by
  cases e with
  | trigger _ | work =>
    first
      | obtain ⟨-, rfl⟩ := Sys.trigger_eq_some he
      | obtain ⟨-, rfl⟩ := Sys.next_work_eq_some he
    refine fun p hp => (h p hp).imp_left fun hw => ?_
    simp only [workOf, waitingOf_append, admittedOf_append, transitOf_append,
      deactivationsOf_append] at hw ⊢
    omega
  | complete i result =>
    obtain ⟨job, hj, hr, rfl⟩ := Sys.complete_eq_some he
    intro p hp
    have hw := workOf_complete hj hr p
    dsimp only at hw hp ⊢
    rcases h p hp with h | h | h
    · by_cases hk : job.package.uuid = p
      · by_cases hst : result.stalls job
        · exact .inr (.inl (by simp [hst, hk]))
        · simp only [hk, hst, if_true, Bool.false_eq_true, if_false] at hw
          exact .inl (by omega)
      · simp only [hk, if_false] at hw
        exact .inl (by omega)
    · exact .inr (.inl (by split_ifs <;> simp [h]))
    · exact .inr (.inr h)
  | stop =>
    cases he
    exact fun _ _ => .inr (.inr rfl)
  | step i =>
    obtain ⟨pc, q', hpc, hq, rfl⟩ := Sys.nextAtomic_step_eq_some he
    have hmem : pc ∈ s.threads := List.getElem?_mem hpc
    obtain ⟨h1, h2⟩ := hi.resume_work ha hmem hq
    intro p hp
    rcases h2 p hp with ⟨hk, hw⟩ | hj
    · have hsplit := workOf_middle s.queue (s.threads.take i) (s.threads.drop (i + 1)) pc p
      rw [← List.eq_take_cons_drop hpc] at hsplit
      have hmove := workOf_add_workOf_nil s.queue q' (s.threads.take i ++ s.threads.drop (i + 1)) p
      rcases h p hk with h0 | hs | hs
      · rcases hw with hw | hs
        · exact .inl (by dsimp only; omega)
        · exact .inr (.inr (h1 ▸ hs))
      · exact .inr (.inl hs)
      · exact .inr (.inr (h1 ▸ hs))
    · exact .inl (lt_of_lt_of_le hj (jobsOf_admitted_le_workOf _ _ _))

theorem AtomicReachable.activeHasWork {s : Sys} (h : AtomicReachable s) : s.ActiveHasWork := by
  induction h with
  | init m n => intro p hp; simp [Sys.init, PackageQueue.init, PackageQueue.activePackageKeys] at hp
  | next e hr he ih => exact ih.nextAtomic hr.reachable.inv hr.atomicInv he

/-- The job a pending call of the atomic system holds is that of a `schedule_job` or of a
    job-completion callback. -/
theorem Pc.eq_of_transitJob {pc : Pc} (he : pc.isEntry) {job : Job}
    (hj : pc.transitJob = some job) : pc = .scheduleJob job ∨ pc = .jobCompleted (.next job) := by
  cases pc with
  | scheduleJob j => cases hj; exact .inl rfl
  | jobCompleted result => cases result <;> cases hj; exact .inr rfl
  | _ => cases he <;> cases hj

/-- The deactivation a pending call of the atomic system holds is that of a
    package-completion callback for a run that returned no job. -/
theorem Pc.eq_of_deactivating {pc : Pc} (he : pc.isEntry) {package : Package}
    (hd : pc.deactivating = some package) : pc = .packageCompleted package .none := by
  cases pc with
  | packageCompleted pk result => cases result <;> cases hd; rfl
  | _ => cases he <;> cases hd

/-- Under atomic calls, the work of an active package is a job on `job_queue` or in the
    executor, a pending call holding its next job, or a pending package-completion callback
    that will deactivate it. -/
theorem AtomicInv.pending_of_workOf_pos {s : Sys} (hi : Inv s) (ha : AtomicInv s) {p : String}
    (hp : p ∈ s.queue.activePackageKeys) (hw : 0 < workOf s.queue s.threads p) :
    0 < jobsOf p (s.queue.jobQueue ++ s.queue.executor) ∨
      (∃ job, (Pc.scheduleJob job ∈ s.threads ∨ Pc.jobCompleted (.next job) ∈ s.threads) ∧
        job.package.uuid = p) ∨
      ∃ package, Pc.packageCompleted package .none ∈ s.threads ∧ package.uuid = p := by
  have hadm : s.threads.filterMap Pc.admittedJob = [] :=
    List.filterMap_eq_nil_iff.2 fun pc hpc => by
      have := ha.entry pc hpc
      cases pc <;> first | rfl | cases this
  simp only [workOf, admittedOf, hadm, jobsOf_nil, hi.waiting_inactive p hp] at hw
  rcases Nat.eq_zero_or_pos (jobsOf p (s.queue.jobQueue ++ s.queue.executor)) with h0 | h0
  swap
  · exact .inl h0
  rcases Nat.eq_zero_or_pos (transitOf s.threads p) with ht | ht
  · obtain ⟨package, hmem, hd⟩ := List.countP_pos_iff.1 (show 0 < deactivationsOf s.threads p by omega)
    obtain ⟨pc, hpc, hpk⟩ := List.mem_filterMap.1 hmem
    exact .inr (.inr ⟨package, Pc.eq_of_deactivating (ha.entry pc hpc) hpk ▸ hpc, by simpa using hd⟩)
  · obtain ⟨job, hmem, hd⟩ := List.countP_pos_iff.1 ht
    obtain ⟨pc, hpc, hpj⟩ := List.mem_filterMap.1 hmem
    refine .inr (.inl ⟨job, ?_, by simpa using hd⟩)
    rcases Pc.eq_of_transitJob (ha.entry pc hpc) hpj with rfl | rfl
    · exact .inl hpc
    · exact .inr hpc

/-- Under atomic calls, every active package has a job on `job_queue` or in the executor, a
    pending call holding its next job, or a pending package-completion callback that will
    deactivate it, unless the queue is stopped or the package stalled: one of its jobs
    raised, or returned no job at a link that is not terminal. A stalled package stays
    active with no work left anywhere. -/
theorem AtomicReachable.active_package_has_work {s : Sys} (h : AtomicReachable s) :
    (∀ p ∈ s.queue.activePackageKeys,
      0 < jobsOf p (s.queue.jobQueue ++ s.queue.executor) ∨
        (∃ job, (Pc.scheduleJob job ∈ s.threads ∨ Pc.jobCompleted (.next job) ∈ s.threads) ∧
          job.package.uuid = p) ∨
        (∃ package, Pc.packageCompleted package .none ∈ s.threads ∧ package.uuid = p) ∨
        p ∈ s.stalled ∨ s.queue.shutdownEvent = true) ∧
      ∀ p ∈ s.stalled, p ∈ s.queue.activePackageKeys ∧ workOf s.queue s.threads p = 0 := by
  have hi := h.reachable.inv
  refine ⟨fun p hp => ?_, fun p hp => (hi.stalled p hp).2⟩
  rcases h.activeHasWork p hp with hw | hs | hs
  · rcases AtomicInv.pending_of_workOf_pos hi h.atomicInv hp hw with h1 | h1 | h1
    exacts [.inl h1, .inr (.inl h1), .inr (.inr (.inl h1))]
  · exact .inr (.inr (.inr (.inl hs)))
  · exact .inr (.inr (.inr (.inr hs)))

/-! ## A stalled package keeps its slot -/

theorem maxConcurrentPackages_threadStep {q q' : PackageQueue} {pc : Pc} {o : Option Pc}
    (h : threadStep q pc = some (q', o)) : q'.maxConcurrentPackages = q.maxConcurrentPackages := by
  cases pc with
  | scheduleJobLocked job =>
    simp only [threadStep] at h
    split_ifs at h <;> cases h <;> rfl
  | schedulePackage job c =>
    simp only [threadStep, PackageQueue.putPackageNowait] at h
    split_ifs at h <;> cases h <;> simp
  | getPackageJob ws =>
    cases ws with
    | nil => cases h; rfl
    | cons w ws =>
      simp only [threadStep] at h
      rcases hg : q.getNowait w with ⟨_ | job, q₁⟩ <;> rw [hg] at h <;> cases h <;>
        simp [(PackageQueue.getNowait_fields hg).1]
  | putJobNowait job =>
    simp only [threadStep, PackageQueue.putJobNowait] at h
    split_ifs at h <;> cases h <;> rfl
  | processOneJob =>
    simp only [threadStep, PackageQueue.takeJob] at h
    rcases hq : q.jobQueue with _ | ⟨job, rest⟩ <;> simp only [hq] at h <;> cases h <;> rfl
  | jobCompleted result => cases result <;> cases h <;> rfl
  | activatePackage job => cases h; simp
  | deactivatePackage package => cases h; simp
  | scheduleJob job => cases h; rfl
  | submit job => cases h; rfl
  | packageCompleted package result => cases h; rfl

/-- No event changes `max_concurrent_packages` or forgets a stalled package. -/
theorem Sys.Step.monotone {s s' : Sys} (h : Sys.Step s s') :
    s'.queue.maxConcurrentPackages = s.queue.maxConcurrentPackages ∧ s.stalled ⊆ s'.stalled := by
  obtain ⟨e, he⟩ := h
  cases e with
  | trigger job =>
    obtain ⟨-, rfl⟩ := Sys.trigger_eq_some he
    exact ⟨rfl, List.Subset.refl _⟩
  | work =>
    obtain ⟨-, rfl⟩ := Sys.next_work_eq_some he
    exact ⟨rfl, List.Subset.refl _⟩
  | complete i result =>
    obtain ⟨job, -, -, rfl⟩ := Sys.complete_eq_some he
    refine ⟨rfl, ?_⟩
    split_ifs
    · exact List.subset_cons_self _ _
    · exact List.Subset.refl _
  | stop => cases he; exact ⟨rfl, List.Subset.refl _⟩
  | step i =>
    obtain ⟨pc, q', o, -, hs, rfl⟩ := Sys.next_step_eq_some he
    exact ⟨maxConcurrentPackages_threadStep hs, List.Subset.refl _⟩

theorem Sys.star_monotone {s s' : Sys} (h : Relation.ReflTransGen Sys.Step s s') :
    s'.queue.maxConcurrentPackages = s.queue.maxConcurrentPackages ∧ s.stalled ⊆ s'.stalled := by
  induction h with
  | refl => exact ⟨rfl, List.Subset.refl _⟩
  | tail _ hstep ih =>
    have := hstep.monotone
    exact ⟨this.1.trans ih.1, ih.2.trans this.2⟩

theorem Sys.runAtomic_monotone {s s' : Sys} {es : List Event} (h : s.runAtomic es = some s') :
    s'.queue.maxConcurrentPackages = s.queue.maxConcurrentPackages ∧ s.stalled ⊆ s'.stalled := by
  induction es generalizing s with
  | nil => cases h; exact ⟨rfl, List.Subset.refl _⟩
  | cons e es ih =>
    simp only [Sys.runAtomic, Option.bind_eq_some] at h
    obtain ⟨s₁, h₁, h₂⟩ := h
    have h1 := Sys.star_monotone (Sys.star_of_nextAtomic h₁)
    have h2 := ih h₂
    exact ⟨h2.1.trans h1.1, h1.2.trans h2.2⟩

namespace Stall

/-- The first job of transfer `a`, at a link that is not terminal. -/
def jobN : Job := ⟨Races.transferA, ⟨false⟩⟩

/-- With one slot, transfer `a` is admitted and its job runs and returns no job at a link
    that is not terminal; its job-completion callback runs; then transfer `b` is scheduled
    and waits, as the slot is taken. -/
def stallTrace : List Event :=
  [.trigger jobN, .step 0, .work, .step 0, .complete 0 .none, .step 0, .trigger Races.jobB, .step 0]

end Stall

/-- A package whose job returned no job at a link that is not terminal keeps the only slot
    for ever: after `Stall.stallTrace` no call is pending and transfer `b` waits, and in
    every state of every atomic run from there transfer `a` is active with no job on
    `job_queue` or in the executor, and `b` is not admitted. -/
theorem stalled_package_keeps_slot :
    ∃ s, AtomicReachable s ∧ s.threads = [] ∧ Races.jobB ∈ s.queue.waitingJobs ∧
      ∀ es s', s.runAtomic es = some s' →
        "a" ∈ s'.queue.activePackageKeys ∧
          jobsOf "a" (s'.queue.jobQueue ++ s'.queue.executor) = 0 ∧
          "b" ∉ s'.queue.activePackageKeys := by
  obtain ⟨s, hs, hth, hb, ha, hm⟩ := exists_atomicReachable_of_run 1
    PackageQueue.MAX_QUEUED_PACKAGES Stall.stallTrace
    (fun s => s.threads = [] ∧ Races.jobB ∈ s.queue.waitingJobs ∧ "a" ∈ s.stalled ∧
      s.queue.maxConcurrentPackages = 1) (by decide)
  refine ⟨s, hs, hth, hb, fun es s' hr => ?_⟩
  have hs' := hs.runAtomic hr
  obtain ⟨hm', hsub⟩ := Sys.runAtomic_monotone hr
  obtain ⟨-, hk, hw⟩ := hs'.reachable.inv.stalled "a" (hsub ha)
  refine ⟨hk, Nat.eq_zero_of_le_zero (hw ▸ jobsOf_admitted_le_workOf _ _ _), fun hb' => ?_⟩
  have hlen : s'.queue.activePackageKeys.length ≤ 1 := by
    have := hs'.atomicInv.cap
    simp only [PackageQueue.activePackageKeys, List.length_map]; omega
  generalize s'.queue.activePackageKeys = keys at hlen hk hb'
  rcases keys with _ | ⟨x, _ | ⟨y, l⟩⟩
  · cases hk
  · rw [List.mem_singleton] at hk hb'
    exact absurd (hk.trans hb'.symm) (by decide)
  · simp at hlen

end A3m.Server
