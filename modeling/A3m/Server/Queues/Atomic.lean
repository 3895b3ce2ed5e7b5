/-
  A3m.Server.Queues.Atomic

  The queue when each call runs to its end before the next starts (`AtomicReachable`).
  Its threads are then only calls not yet started: the `schedule_job` of a
  `trigger_workflow`, the `process_one_job` of an iteration of `work`, and the done
  callbacks of a finished job (`Pc.isEntry`). `AtomicInv`
  adds the cap, `|active_packages| <= max_concurrent_packages`, to the invariant of every
  interleaving; `Races.lean` shows that the cap needs the atomicity.

  From `Inv` alone the jobs on `job_queue` and in the executor belong to distinct active
  packages (`Inv.admitted_keys`), and a thread carrying a package's work leaves none of
  that package's jobs there. So `job_queue` never fills under a caller that needs room:
  the blocking `put` of `schedule_job` never blocks, and the `put_nowait` of
  `queue_next_job` never raises `queue.Full`.
-/
import A3m.Server.Queues.Tokens
import A3m.Server.Queues.Calls
import A3m.Server.Queues.Races

namespace A3m.Server

/-! ## `job_queue` under `Inv` -/

theorem count_map_uuid (p : String) (jobs : List Job) :
    (jobs.map (·.package.uuid)).count p = jobsOf p jobs := by
  induction jobs with
  | nil => rfl
  | cons j jobs ih => by_cases e : j.package.uuid = p <;> simp [List.count_cons, e, ih]

theorem transitOf_pos {ts : List Pc} {pc : Pc} (hpc : pc ∈ ts) {job : Job}
    (hj : pc.transitJob = some job) : 0 < transitOf ts job.package.uuid := by
  induction ts with
  | nil => cases hpc
  | cons t ts ih =>
    rw [transitOf_cons]
    rcases List.mem_cons.1 hpc with rfl | h
    · rw [hj]; simp
    · have := ih h; omega

theorem deactivationsOf_pos {ts : List Pc} {pc : Pc} (hpc : pc ∈ ts) {package : Package}
    (hd : pc.deactivating = some package) : 0 < deactivationsOf ts package.uuid := by
  induction ts with
  | nil => cases hpc
  | cons t ts ih =>
    rw [deactivationsOf_cons]
    rcases List.mem_cons.1 hpc with rfl | h
    · rw [hd]; simp
    · have := ih h; omega

namespace Inv

variable {s : Sys}

/-- The jobs on `job_queue` and in the executor belong to distinct active packages. -/
theorem admitted_keys (h : Inv s) :
    ((s.queue.jobQueue ++ s.queue.executor).map (·.package.uuid)).Nodup ∧
      (s.queue.jobQueue ++ s.queue.executor).map (·.package.uuid) ⊆ s.queue.activePackageKeys := by
  have hle p : jobsOf p (s.queue.jobQueue ++ s.queue.executor) ≤ 1 := by
    have := h.work_le p
    simp only [workOf, admittedOf] at this
    omega
  refine ⟨List.nodup_iff_count_le_one.2 fun p => count_map_uuid p _ ▸ hle p, fun p hp => ?_⟩
  by_contra hk
  have h1 := (h.admitted_active p hk).1
  have h2 := List.count_pos_iff.2 hp
  simp only [admittedOf, count_map_uuid] at h1 h2
  omega

theorem length_admitted_le (h : Inv s) :
    s.queue.jobQueue.length + s.queue.executor.length ≤ s.queue.activePackages.length := by
  have := (List.subperm_of_subset h.admitted_keys.1 h.admitted_keys.2).length_le
  simpa [PackageQueue.activePackageKeys] using this

/-- An active package with no job on `job_queue` or in the executor leaves a slot between
    those jobs and the active packages. -/
theorem length_admitted_lt (h : Inv s) {p : String} (hp : p ∈ s.queue.activePackageKeys)
    (h0 : jobsOf p (s.queue.jobQueue ++ s.queue.executor) = 0) :
    s.queue.jobQueue.length + s.queue.executor.length < s.queue.activePackages.length := by
  obtain ⟨hnd, hsub⟩ := h.admitted_keys
  have hn : p ∉ (s.queue.jobQueue ++ s.queue.executor).map (·.package.uuid) := by
    rw [← List.count_eq_zero, count_map_uuid, h0]
  have := (List.subperm_of_subset (List.nodup_cons.2 ⟨hn, hnd⟩)
    (List.cons_subset.2 ⟨hp, hsub⟩)).length_le
  simpa [PackageQueue.activePackageKeys] using this

/-- A thread carrying a job holds all the work of its package. -/
theorem admitted_eq_zero_of_transit (h : Inv s) {pc : Pc} (hpc : pc ∈ s.threads) {job : Job}
    (hj : pc.transitJob = some job) :
    jobsOf job.package.uuid (s.queue.jobQueue ++ s.queue.executor) = 0 := by
  have h1 := transitOf_pos hpc hj
  have := h.work_le job.package.uuid
  simp only [workOf, admittedOf] at this
  omega

/-- A callback about to deactivate a package finds it active, with no job of it on
    `job_queue` or in the executor. -/
theorem active_of_deactivating (h : Inv s) {pc : Pc} (hpc : pc ∈ s.threads) {package : Package}
    (hd : pc.deactivating = some package) :
    package.uuid ∈ s.queue.activePackageKeys ∧
      jobsOf package.uuid (s.queue.jobQueue ++ s.queue.executor) = 0 := by
  have h1 := deactivationsOf_pos hpc hd
  have := h.work_le package.uuid
  simp only [workOf, admittedOf] at this
  refine ⟨?_, by omega⟩
  by_contra hk
  have := (h.admitted_active _ hk).2
  omega

end Inv

/-! ## Calls that keep the cap -/

namespace PackageQueue

/-- `schedule_job` with `job_queue` no longer than the active packages, and with room on it
    for the job of an active package, returns within the cap or raises before any change. -/
theorem scheduleJob_within {q : PackageQueue} {job : Job}
    (hroom : q.jobQueue.length ≤ q.activePackages.length)
    (hact : job.package.uuid ∈ q.activePackageKeys → q.jobQueue.length < q.maxConcurrentPackages)
    (hc : q.activePackages.length ≤ q.maxConcurrentPackages) :
    (∃ q', q.scheduleJob job = .ok q' ∧ q'.activePackages.length ≤ q'.maxConcurrentPackages) ∨
      ∃ e, q.scheduleJob job = .raised e q := by
  rcases scheduleJob_cases q job with ⟨-, he⟩ | ⟨-, ha, he⟩ | ⟨-, -, -, he⟩ | ⟨-, -, -, he⟩
  · exact .inr ⟨_, he⟩
  · rw [he, if_neg (not_queueFull_of_lt (hact ha))]
    exact .inl ⟨_, rfl, by simpa using hc⟩
  · exact .inr ⟨_, he⟩
  · rw [he]
    split_ifs with hlt
    · obtain ⟨q', hq'⟩ : ∃ q', (q.putWaiting job.package job).queueNextJob = .ok q' :=
        exists_queueNextJobFrom_eq_ok _ _ (not_queueFull_putWaiting _ _ (by omega))
      have hl := length_queueNextJobFrom_le (congrArg Outcome.state? hq')
      simp only [putWaiting_fields] at hl
      exact .inl ⟨q', hq', by omega⟩
    · exact .inl ⟨_, rfl, by simpa using hc⟩

/-- A package-completion callback that deactivates an active package and calls
    `queue_next_job` returns within the cap. -/
theorem deactivate_queueNextJob_within {q : PackageQueue} {package : Package}
    (hnd : q.activePackageKeys.Nodup) (hk : package.uuid ∈ q.activePackageKeys)
    (hroom : q.jobQueue.length < q.activePackages.length)
    (hc : q.activePackages.length ≤ q.maxConcurrentPackages) :
    ∃ q', (q.deactivatePackage package).queueNextJob = .ok q' ∧
      q'.activePackages.length ≤ q'.maxConcurrentPackages := by
  have hd := length_deactivatePackage hnd hk
  obtain ⟨q', hq'⟩ : ∃ q', (q.deactivatePackage package).queueNextJob = .ok q' :=
    exists_queueNextJobFrom_eq_ok _ _
      (not_queueFull_deactivatePackage _ (not_queueFull_of_lt (by omega)))
  have hl := length_queueNextJobFrom_le (congrArg Outcome.state? hq')
  simp only [deactivatePackage_fields] at hl
  exact ⟨q', hq', by omega⟩

end PackageQueue

/-! ## The atomic system -/

/-- The calls a thread of the atomic system can hold: `schedule_job` from
    `trigger_workflow`, the `process_one_job` of an iteration of `work`, and the two done
    callbacks. -/
def Pc.isEntry : Pc → Bool
  | .scheduleJob _ | .processOneJob | .jobCompleted _ | .packageCompleted .. => true
  | _ => false

/-- The invariant of atomic runs, beside `Inv`. -/
structure AtomicInv (s : Sys) : Prop where
  entry : ∀ pc ∈ s.threads, pc.isEntry
  cap : s.queue.activePackages.length ≤ s.queue.maxConcurrentPackages

/-- A pending call of the atomic system returns within the cap, or raises before it
    changed any package or job. -/
theorem AtomicInv.resume {s : Sys} (hi : Inv s) (ha : AtomicInv s) {pc : Pc}
    (hpc : pc ∈ s.threads) :
    (∃ q', pc.resume s.queue = .ok q' ∧ q'.activePackages.length ≤ q'.maxConcurrentPackages) ∨
      ∃ e q', pc.resume s.queue = .raised e q' ∧ q'.activePackages = s.queue.activePackages ∧
        q'.jobQueue = s.queue.jobQueue ∧ q'.waitingJobs = s.queue.waitingJobs ∧
        q'.maxConcurrentPackages = s.queue.maxConcurrentPackages := by
  have hroom := hi.length_admitted_le
  have hschedule (job : Job) (hj : pc.transitJob = some job) (q : PackageQueue)
      (hq : q.activePackages = s.queue.activePackages ∧ q.jobQueue = s.queue.jobQueue ∧
        q.maxConcurrentPackages = s.queue.maxConcurrentPackages) :
      (∃ q', q.scheduleJob job = .ok q' ∧ q'.activePackages.length ≤ q'.maxConcurrentPackages) ∨
        ∃ e, q.scheduleJob job = .raised e q := by
    obtain ⟨h1, h2, h3⟩ := hq
    refine PackageQueue.scheduleJob_within (by rw [h1, h2]; omega) (fun hk => ?_)
      (by rw [h1, h3]; exact ha.cap)
    have := hi.length_admitted_lt (by simpa [PackageQueue.activePackageKeys, h1] using hk)
      (hi.admitted_eq_zero_of_transit hpc hj)
    have := ha.cap
    rw [h2, h3]; omega
  have hentry := ha.entry pc hpc
  cases pc with
  | scheduleJob job =>
    rcases hschedule job rfl s.queue ⟨rfl, rfl, rfl⟩ with h | ⟨e, he⟩
    · exact .inl h
    · exact .inr ⟨e, _, he, rfl, rfl, rfl, rfl⟩
  | jobCompleted result =>
    cases result with
    | next job =>
      rcases hschedule job rfl { s.queue with activeJobsGauge := s.queue.activeJobsGauge - 1 }
        ⟨rfl, rfl, rfl⟩ with h | ⟨e, he⟩
      · exact .inl h
      · exact .inr ⟨e, _, he, rfl, rfl, rfl, rfl⟩
    | none => exact .inl ⟨_, rfl, ha.cap⟩
    | raised => exact .inr ⟨_, _, rfl, rfl, rfl, rfl, rfl⟩
  | processOneJob =>
    rcases s.queue.processOneJob_cases with ⟨-, h⟩ | ⟨_, _, -, h⟩ <;> exact .inl ⟨_, h, ha.cap⟩
  | packageCompleted package result =>
    cases result with
    | none =>
      obtain ⟨hk, h0⟩ := hi.active_of_deactivating hpc rfl
      have := hi.length_admitted_lt hk h0
      exact .inl (PackageQueue.deactivate_queueNextJob_within hi.nodup hk (by omega) ha.cap)
    | next job => exact .inl ⟨_, rfl, ha.cap⟩
    | raised => exact .inr ⟨_, _, rfl, rfl, rfl, rfl, rfl⟩
  | _ => cases hentry

theorem AtomicInv.nextAtomic {s s' : Sys} (hi : Inv s) (ha : AtomicInv s) {e : Event}
    (he : s.nextAtomic e = some s') : AtomicInv s' := by
  cases e with
  | trigger _ | work =>
    first
      | obtain ⟨-, rfl⟩ := Sys.trigger_eq_some he
      | obtain ⟨-, rfl⟩ := Sys.next_work_eq_some he
    refine ⟨fun pc hpc => ?_, ha.cap⟩
    rcases List.mem_append.1 hpc with h | h
    · exact ha.entry pc h
    · rw [List.mem_singleton.1 h]; rfl
  | complete i result =>
    obtain ⟨job, -, -, rfl⟩ := Sys.complete_eq_some he
    refine ⟨?_, ha.cap⟩
    simp only [List.mem_append, doneCallbacks]
    rintro pc (hpc | hpc)
    · exact ha.entry pc hpc
    · split_ifs at hpc <;> simp at hpc <;> rcases hpc with rfl | rfl <;> rfl
  | stop => cases he; exact ⟨ha.entry, ha.cap⟩
  | step i =>
    obtain ⟨pc, q, hpc, hq, rfl⟩ := Sys.nextAtomic_step_eq_some he
    have hmem : pc ∈ s.threads := List.getElem?_mem hpc
    refine ⟨fun pc' hpc' => ha.entry pc' ?_, ?_⟩
    · rcases List.mem_append.1 hpc' with h | h
      · exact List.mem_of_mem_take h
      · exact List.mem_of_mem_drop h
    · rcases ha.resume hi hmem with ⟨q', he', hc⟩ | ⟨e, q', he', h1, -, -, h4⟩ <;>
        rw [he'] at hq <;> cases hq
      · exact hc
      · rw [h1, h4]; exact ha.cap

/-- `AtomicInv` holds in every state of every atomic run. -/
theorem AtomicReachable.atomicInv {s : Sys} (h : AtomicReachable s) : AtomicInv s := by
  induction h with
  | init m n => exact ⟨by simp [Sys.init], by simp [Sys.init, PackageQueue.init]⟩
  | next e hr he ih => exact ih.nextAtomic hr.reachable.inv he

/-! ## `job_queue` never overflows -/

/-- Under atomic calls, the jobs on `job_queue` and in the executor never outnumber the
    active packages, which never exceed `max_concurrent_packages`. No pending call blocks in
    the `job_queue.put` of `schedule_job`, and a call that raises, `queue.Full` included,
    has changed no package and no job: the `put_nowait` of `queue_next_job`, which comes
    after a job left its waiting queue and its package was activated, never raises. -/
theorem AtomicReachable.job_queue_within_cap {s : Sys} (h : AtomicReachable s) :
    s.queue.jobQueue.length + s.queue.executor.length ≤ s.queue.activePackages.length ∧
      s.queue.activePackages.length ≤ s.queue.maxConcurrentPackages ∧
      ∀ pc ∈ s.threads, pc.resume s.queue ≠ .blocked ∧
        ∀ e q', pc.resume s.queue = .raised e q' →
          q'.activePackages = s.queue.activePackages ∧ q'.jobQueue = s.queue.jobQueue ∧
            q'.waitingJobs = s.queue.waitingJobs := by
  have hi := h.reachable.inv
  have ha := h.atomicInv
  refine ⟨hi.length_admitted_le, ha.cap, fun pc hpc => ?_⟩
  rcases ha.resume hi hpc with ⟨q', he, -⟩ | ⟨e, q', he, h1, h2, h3, -⟩ <;> rw [he]
  · exact ⟨nofun, nofun⟩
  · exact ⟨nofun, fun _ _ h' => by cases h'; exact ⟨h1, h2, h3⟩⟩

namespace Atomic

/-- A third transfer and its first job. -/
def jobC : Job := ⟨⟨"c", .transfer⟩, ⟨true⟩⟩

/-- With one slot and one place on each waiting queue, the job of transfer `a` is admitted
    and submitted, transfer `b` waits on the transfer queue, which is then full, and a new
    iteration of `work` has started `process_one_job`. -/
def busyTrace : List Event :=
  [.trigger Races.jobA, .step 0, .work, .step 0, .trigger Races.jobB, .step 0, .work]

end Atomic

/-- The bound is met with a job in the executor, a package waiting and a call pending. -/
theorem job_queue_within_cap_busy :
    ∃ s, AtomicReachable s ∧
      (s.queue.jobQueue.length + s.queue.executor.length = s.queue.maxConcurrentPackages ∧
        s.queue.waitingJobs ≠ [] ∧ s.threads ≠ []) ∧
      s.queue.jobQueue.length + s.queue.executor.length ≤ s.queue.activePackages.length ∧
      s.queue.activePackages.length ≤ s.queue.maxConcurrentPackages ∧
      ∀ pc ∈ s.threads, pc.resume s.queue ≠ .blocked ∧
        ∀ e q', pc.resume s.queue = .raised e q' →
          q'.activePackages = s.queue.activePackages ∧ q'.jobQueue = s.queue.jobQueue ∧
            q'.waitingJobs = s.queue.waitingJobs := by
  obtain ⟨s, hs, hb⟩ := exists_atomicReachable_of_run 1 1 Atomic.busyTrace
    (fun s => s.queue.jobQueue.length + s.queue.executor.length = s.queue.maxConcurrentPackages ∧
      s.queue.waitingJobs ≠ [] ∧ s.threads ≠ []) (by decide)
  exact ⟨s, hs, hb, AtomicReachable.job_queue_within_cap hs⟩

/-! ## When `schedule_job` raises -/

/-- Under atomic calls, `schedule_job` raises exactly on a stopped queue (`RuntimeError`)
    and on a full waiting queue of an inactive package's class (`queue.Full`), and then
    leaves the queue as it was. When it returns, the job is on `job_queue` with its package
    active, or on the waiting queue of its class. (The job of an active package meeting a
    full `job_queue` neither raises nor returns: the `put` blocks.) -/
theorem AtomicReachable.scheduleJob_raises_iff {s : Sys} (h : AtomicReachable s) (job : Job) :
    (∀ e q', s.queue.scheduleJob job = .raised e q' → q' = s.queue ∧
      (e = .runtimeError "Queue stopped." ∧ s.queue.shutdownEvent = true ∨
        e = .full ∧ s.queue.shutdownEvent = false ∧
          job.package.uuid ∉ s.queue.activePackageKeys ∧
          queueFull s.queue.maxQueuedPackages (s.queue.waiting job.package.cls.waitingQueue))) ∧
    (s.queue.shutdownEvent = true ∨ job.package.uuid ∉ s.queue.activePackageKeys ∧
        queueFull s.queue.maxQueuedPackages (s.queue.waiting job.package.cls.waitingQueue) →
      ∃ e, s.queue.scheduleJob job = .raised e s.queue) ∧
    (∀ q', s.queue.scheduleJob job = .ok q' →
      job ∈ q'.jobQueue ∧ job.package.uuid ∈ q'.activePackageKeys ∨
        job ∈ q'.waiting job.package.cls.waitingQueue) := by
  have hroom := h.reachable.inv.length_admitted_le
  rcases PackageQueue.scheduleJob_cases s.queue job with
    ⟨hs, he⟩ | ⟨hs, ha, he⟩ | ⟨hs, ha, hf, he⟩ | ⟨hs, ha, hf, he⟩ <;> rw [he]
  · refine ⟨fun e q' h' => ?_, fun _ => ⟨_, rfl⟩, nofun⟩
    cases h'
    exact ⟨rfl, .inl ⟨rfl, hs⟩⟩
  · refine ⟨fun e q' h' => ?_, ?_, fun q' h' => ?_⟩
    · split_ifs at h'
    · rintro (h' | ⟨h', -⟩)
      · simp [hs] at h'
      · exact absurd ha h'
    · split_ifs at h'
      cases h'
      exact .inl ⟨by simp, by simpa using ha⟩
  · refine ⟨fun e q' h' => ?_, fun _ => ⟨_, rfl⟩, nofun⟩
    cases h'
    exact ⟨rfl, .inr ⟨rfl, hs, ha, hf⟩⟩
  · have hne : ¬(s.queue.shutdownEvent = true ∨ job.package.uuid ∉ s.queue.activePackageKeys ∧
        queueFull s.queue.maxQueuedPackages (s.queue.waiting job.package.cls.waitingQueue)) := by
      rintro (h' | ⟨-, h'⟩)
      · simp [hs] at h'
      · exact hf h'
    split_ifs with hlt
    · obtain ⟨q₁, hq₁⟩ : ∃ q₁, (s.queue.putWaiting job.package job).queueNextJob = .ok q₁ :=
        PackageQueue.exists_queueNextJobFrom_eq_ok _ _
          (PackageQueue.not_queueFull_putWaiting _ _ (by omega))
      rw [hq₁]
      refine ⟨nofun, fun h' => absurd h' hne, fun q' h' => ?_⟩
      cases h'
      exact PackageQueue.mem_queueNextJob_putWaiting (not_queueFull_of_lt (by omega)) hq₁
    · refine ⟨nofun, fun h' => absurd h' hne, fun q' h' => ?_⟩
      cases h'
      exact .inr (by simp [PackageQueue.putWaiting])

/-- On a stopped queue `schedule_job` raises `RuntimeError`; on a running queue whose
    transfer queue is full it raises `queue.Full` for a new transfer; on a new queue it
    admits the job. -/
theorem scheduleJob_raises_when_stopped_or_full :
    ∃ s₁ s₂, AtomicReachable s₁ ∧ AtomicReachable s₂ ∧ s₁.queue.shutdownEvent = true ∧
      s₂.queue.shutdownEvent = false ∧ Atomic.jobC.package.uuid ∉ s₂.queue.activePackageKeys ∧
      s₁.queue.scheduleJob Atomic.jobC = .raised (.runtimeError "Queue stopped.") s₁.queue ∧
      s₂.queue.scheduleJob Atomic.jobC = .raised .full s₂.queue ∧
      ∃ q', (Sys.init 1 1).queue.scheduleJob Atomic.jobC = .ok q' ∧
        (Atomic.jobC ∈ q'.jobQueue ∧ Atomic.jobC.package.uuid ∈ q'.activePackageKeys ∨
          Atomic.jobC ∈ q'.waiting Atomic.jobC.package.cls.waitingQueue) := by
  obtain ⟨s₁, hr₁, hs₁⟩ := exists_atomicReachable_of_run 1 1 (Atomic.busyTrace ++ [.stop])
    (fun s => s.queue.shutdownEvent = true) (by decide)
  obtain ⟨s₂, hr₂, hs₂, hc, hf⟩ := exists_atomicReachable_of_run 1 1 Atomic.busyTrace
    (fun s => s.queue.shutdownEvent = false ∧ Atomic.jobC.package.uuid ∉ s.queue.activePackageKeys ∧
      queueFull s.queue.maxQueuedPackages (s.queue.waiting .transfer)) (by decide)
  obtain ⟨h₁, hraise₁, -⟩ := AtomicReachable.scheduleJob_raises_iff hr₁ Atomic.jobC
  obtain ⟨h₂, hraise₂, -⟩ := AtomicReachable.scheduleJob_raises_iff hr₂ Atomic.jobC
  obtain ⟨e₁, he₁⟩ := hraise₁ (.inl hs₁)
  obtain ⟨e₂, he₂⟩ := hraise₂ (.inr ⟨hc, hf⟩)
  refine ⟨s₁, s₂, hr₁, hr₂, hs₁, hs₂, hc, ?_, ?_,
    _, rfl, (AtomicReachable.scheduleJob_raises_iff (.init 1 1) Atomic.jobC).2.2 _ rfl⟩
  · rcases (h₁ e₁ _ he₁).2 with ⟨rfl, -⟩ | ⟨-, h, -⟩
    · exact he₁
    · rw [hs₁] at h; cases h
  · rcases (h₂ e₂ _ he₂).2 with ⟨-, h⟩ | ⟨rfl, -⟩
    · rw [hs₂] at h; cases h
    · exact he₂

end A3m.Server
