/-
  A3m.Server.Queues.Methods

  The methods of `PackageQueue` (`a3m/server/queues.py`) as the sequential code they are,
  over the state of `State.lean`. A method that calls another calls its translation; a
  `with self.active_package_lock` block, a queue put or get and a gauge update each
  become field updates. Logging changes nothing and is left out.

  The rest of `schedule_job` after its lock block (`schedulePackage`) and the rest of
  `_get_package_job_nowait` after each `get_nowait` (`getPackageJobFrom`) are definitions
  of their own, so that the thread model (`Threads.lean`) can resume a call there.
-/
import A3m.Server.Queues.State
import Mathlib.Data.List.Nodup

namespace A3m.Server
namespace PackageQueue

/-- `activate_package`: insert the package under its key, unless the key is present
    (then only a warning is logged). -/
def activatePackage (q : PackageQueue) (package : Package) : PackageQueue :=
  if package.uuid ∈ q.activePackageKeys then q
  else { q with activePackages := q.activePackages ++ [package]
                activePackageGauge := q.activePackageGauge + 1 }

/-- `deactivate_package`: delete the key if it is present (else a warning is logged). -/
def deactivatePackage (q : PackageQueue) (package : Package) : PackageQueue :=
  if package.uuid ∈ q.activePackageKeys then
    { q with activePackages := q.activePackages.filter (·.uuid ≠ package.uuid)
             activePackageGauge := q.activePackageGauge - 1 }
  else q

/-- `job_queue.put(job)` once the queue has room, then `job_queue_length_gauge.inc()`. -/
def pushJob (q : PackageQueue) (job : Job) : PackageQueue :=
  { q with jobQueue := q.jobQueue ++ [job], jobQueueLengthGauge := q.jobQueueLengthGauge + 1 }

/-- `job_queue.put_nowait(job)` and the gauge update of `queue_next_job`. -/
def putJobNowait (q : PackageQueue) (job : Job) : Outcome :=
  if queueFull q.maxConcurrentPackages q.jobQueue then .raised .full q else .ok (q.pushJob job)

/-- `package_queue_length_gauge.labels(package_type=...)` of a package's class moved by `d`. -/
def packageGaugeAdd (q : PackageQueue) (package : Package) (d : Int) : PackageQueue :=
  { q with packageQueueLengthGauge := gaugeAdd q.packageQueueLengthGauge package.cls.name d }

/-- A successful `put_nowait` on the package's waiting queue and the gauge update after it. -/
def putWaiting (q : PackageQueue) (package : Package) (job : Job) : PackageQueue :=
  let w := package.cls.waitingQueue
  (q.setWaiting w (q.waiting w ++ [job])).packageGaugeAdd package 1

/-- `_put_package_nowait`. -/
def putPackageNowait (q : PackageQueue) (package : Package) (job : Job) : Outcome :=
  if queueFull q.maxQueuedPackages (q.waiting package.cls.waitingQueue) then .raised .full q
  else .ok (q.putWaiting package job)

/-- `get_nowait` on one waiting queue; `none` is `queue.Empty`. -/
def getNowait (q : PackageQueue) (w : WaitingQueue) : Option Job × PackageQueue :=
  match q.waiting w with
  | [] => (none, q)
  | job :: rest => (some job, q.setWaiting w rest)

/-- `_get_package_job_nowait` from the waiting queues `ws` on: the first job of the first
    non-empty one, with the gauge of its package's class name moved down. -/
def getPackageJobFrom (q : PackageQueue) : List WaitingQueue → Option Job × PackageQueue
  | [] => (none, q)
  | w :: ws =>
    match q.getNowait w with
    | (some job, q) => (some job, q.packageGaugeAdd job.package (-1))
    | (none, q) => q.getPackageJobFrom ws

/-- `_get_package_job_nowait`: the DIP queue, then SIP, then transfer. -/
def getPackageJobNowait (q : PackageQueue) : Option Job × PackageQueue :=
  q.getPackageJobFrom [.dip, .sip, .transfer]

/-- `queue_next_job` once `_get_package_job_nowait` has reached the queues `ws`. -/
def queueNextJobFrom (q : PackageQueue) (ws : List WaitingQueue) : Outcome :=
  match q.getPackageJobFrom ws with
  | (none, q) => .ok q
  | (some job, q) => (q.activatePackage job.package).putJobNowait job

/-- `queue_next_job`. -/
def queueNextJob (q : PackageQueue) : Outcome :=
  q.queueNextJobFrom [.dip, .sip, .transfer]

/-- `schedule_job` for a package found inactive, from `_put_package_nowait` on, with the
    count of active packages read under the lock. -/
def schedulePackage (q : PackageQueue) (job : Job) (activePackageCount : Nat) : Outcome :=
  match q.putPackageNowait job.package job with
  | .ok q => if activePackageCount < q.maxConcurrentPackages then q.queueNextJob else .ok q
  | o => o

/-- `schedule_job` from its `with self.active_package_lock` block on. -/
def scheduleJobLocked (q : PackageQueue) (job : Job) : Outcome :=
  if job.package.uuid ∈ q.activePackageKeys then
    if queueFull q.maxConcurrentPackages q.jobQueue then .blocked else .ok (q.pushJob job)
  else q.schedulePackage job q.activePackages.length

/-- `schedule_job`. -/
def scheduleJob (q : PackageQueue) (job : Job) : Outcome :=
  if q.shutdownEvent then .raised (.runtimeError "Queue stopped.") q
  else q.scheduleJobLocked job

/-- `job_queue.get` of `process_one_job` and its two gauge updates; `none` is
    `queue.Empty` after the timeout. -/
def takeJob (q : PackageQueue) : Option Job × PackageQueue :=
  match q.jobQueue with
  | [] => (none, q)
  | job :: rest =>
    (some job, { q with jobQueue := rest, jobQueueLengthGauge := q.jobQueueLengthGauge - 1
                        activeJobsGauge := q.activeJobsGauge + 1 })

/-- `executor.submit(job.run)`: the job runs on a worker until its future completes. -/
def submit (q : PackageQueue) (job : Job) : PackageQueue :=
  { q with executor := q.executor ++ [job] }

/-- `process_one_job`; the callbacks it attaches are `doneCallbacks` (`Threads.lean`). -/
def processOneJob (q : PackageQueue) : Outcome :=
  match q.takeJob with
  | (none, q) => .ok q
  | (some job, q) => .ok (q.submit job)

/-- `_job_completed_callback`. -/
def jobCompletedCallback (q : PackageQueue) (result : RunResult) : Outcome :=
  match result with
  | .raised => .raised .runError { q with activeJobsGauge := q.activeJobsGauge - 1 }
  | .none => .ok { q with activeJobsGauge := q.activeJobsGauge - 1 }
  | .next job => PackageQueue.scheduleJob { q with activeJobsGauge := q.activeJobsGauge - 1 } job

/-- `_package_completed_callback`; a next job is only warned about. -/
def packageCompletedCallback (q : PackageQueue) (package : Package) (result : RunResult) :
    Outcome :=
  match result with
  | .raised => .raised .runError q
  | .next _ => .ok q
  | .none => (q.deactivatePackage package).queueNextJob

/-- `stop`. -/
def stop (q : PackageQueue) : PackageQueue :=
  { q with shutdownEvent := true }

/-! ## What each step changes -/

@[simp] theorem packageGaugeAdd_fields (q : PackageQueue) (package : Package) (d : Int) :
    (q.packageGaugeAdd package d).maxConcurrentPackages = q.maxConcurrentPackages ∧
    (q.packageGaugeAdd package d).maxQueuedPackages = q.maxQueuedPackages ∧
    (q.packageGaugeAdd package d).shutdownEvent = q.shutdownEvent ∧
    (q.packageGaugeAdd package d).activePackages = q.activePackages ∧
    (q.packageGaugeAdd package d).jobQueue = q.jobQueue ∧
    (q.packageGaugeAdd package d).dipQueue = q.dipQueue ∧
    (q.packageGaugeAdd package d).sipQueue = q.sipQueue ∧
    (q.packageGaugeAdd package d).transferQueue = q.transferQueue ∧
    (q.packageGaugeAdd package d).executor = q.executor ∧
    (q.packageGaugeAdd package d).jobQueueLengthGauge = q.jobQueueLengthGauge ∧
    (q.packageGaugeAdd package d).activePackageGauge = q.activePackageGauge ∧
    (q.packageGaugeAdd package d).activeJobsGauge = q.activeJobsGauge ∧
    (q.packageGaugeAdd package d).packageQueueLengthGauge =
      gaugeAdd q.packageQueueLengthGauge package.cls.name d :=
  ⟨rfl, rfl, rfl, rfl, rfl, rfl, rfl, rfl, rfl, rfl, rfl, rfl, rfl⟩

@[simp] theorem pushJob_fields (q : PackageQueue) (job : Job) :
    (q.pushJob job).maxConcurrentPackages = q.maxConcurrentPackages ∧
    (q.pushJob job).maxQueuedPackages = q.maxQueuedPackages ∧
    (q.pushJob job).shutdownEvent = q.shutdownEvent ∧
    (q.pushJob job).activePackages = q.activePackages ∧
    (q.pushJob job).jobQueue = q.jobQueue ++ [job] ∧
    (q.pushJob job).dipQueue = q.dipQueue ∧
    (q.pushJob job).sipQueue = q.sipQueue ∧
    (q.pushJob job).transferQueue = q.transferQueue ∧
    (q.pushJob job).executor = q.executor ∧
    (q.pushJob job).jobQueueLengthGauge = q.jobQueueLengthGauge + 1 ∧
    (q.pushJob job).activePackageGauge = q.activePackageGauge ∧
    (q.pushJob job).activeJobsGauge = q.activeJobsGauge ∧
    (q.pushJob job).packageQueueLengthGauge = q.packageQueueLengthGauge :=
  ⟨rfl, rfl, rfl, rfl, rfl, rfl, rfl, rfl, rfl, rfl, rfl, rfl, rfl⟩

@[simp] theorem submit_fields (q : PackageQueue) (job : Job) :
    (q.submit job).maxConcurrentPackages = q.maxConcurrentPackages ∧
    (q.submit job).maxQueuedPackages = q.maxQueuedPackages ∧
    (q.submit job).shutdownEvent = q.shutdownEvent ∧
    (q.submit job).activePackages = q.activePackages ∧
    (q.submit job).jobQueue = q.jobQueue ∧
    (q.submit job).dipQueue = q.dipQueue ∧
    (q.submit job).sipQueue = q.sipQueue ∧
    (q.submit job).transferQueue = q.transferQueue ∧
    (q.submit job).executor = q.executor ++ [job] ∧
    (q.submit job).jobQueueLengthGauge = q.jobQueueLengthGauge ∧
    (q.submit job).activePackageGauge = q.activePackageGauge ∧
    (q.submit job).activeJobsGauge = q.activeJobsGauge ∧
    (q.submit job).packageQueueLengthGauge = q.packageQueueLengthGauge :=
  ⟨rfl, rfl, rfl, rfl, rfl, rfl, rfl, rfl, rfl, rfl, rfl, rfl, rfl⟩

/-- `process_one_job` returns; on a nonempty `job_queue` it takes the first job and submits
    it. -/
theorem processOneJob_cases (q : PackageQueue) :
    (q.jobQueue = [] ∧ q.processOneJob = .ok q) ∨
      ∃ job rest, q.jobQueue = job :: rest ∧
        q.processOneJob = .ok (PackageQueue.submit
          { q with jobQueue := rest, jobQueueLengthGauge := q.jobQueueLengthGauge - 1
                   activeJobsGauge := q.activeJobsGauge + 1 } job) := by
  unfold processOneJob takeJob
  rcases q.jobQueue with _ | ⟨job, rest⟩
  · exact .inl ⟨rfl, rfl⟩
  · exact .inr ⟨job, rest, rfl, rfl⟩

/-- `activate_package` changes `active_packages` and its gauge only. -/
@[simp] theorem activatePackage_fields (q : PackageQueue) (package : Package) :
    (q.activatePackage package).maxConcurrentPackages = q.maxConcurrentPackages ∧
    (q.activatePackage package).maxQueuedPackages = q.maxQueuedPackages ∧
    (q.activatePackage package).shutdownEvent = q.shutdownEvent ∧
    (q.activatePackage package).jobQueue = q.jobQueue ∧
    (q.activatePackage package).dipQueue = q.dipQueue ∧
    (q.activatePackage package).sipQueue = q.sipQueue ∧
    (q.activatePackage package).transferQueue = q.transferQueue ∧
    (q.activatePackage package).executor = q.executor ∧
    (q.activatePackage package).jobQueueLengthGauge = q.jobQueueLengthGauge ∧
    (q.activatePackage package).activeJobsGauge = q.activeJobsGauge ∧
    (q.activatePackage package).packageQueueLengthGauge = q.packageQueueLengthGauge := by
  unfold activatePackage; split_ifs <;> simp

/-- `deactivate_package` changes `active_packages` and its gauge only. -/
@[simp] theorem deactivatePackage_fields (q : PackageQueue) (package : Package) :
    (q.deactivatePackage package).maxConcurrentPackages = q.maxConcurrentPackages ∧
    (q.deactivatePackage package).maxQueuedPackages = q.maxQueuedPackages ∧
    (q.deactivatePackage package).shutdownEvent = q.shutdownEvent ∧
    (q.deactivatePackage package).jobQueue = q.jobQueue ∧
    (q.deactivatePackage package).dipQueue = q.dipQueue ∧
    (q.deactivatePackage package).sipQueue = q.sipQueue ∧
    (q.deactivatePackage package).transferQueue = q.transferQueue ∧
    (q.deactivatePackage package).executor = q.executor ∧
    (q.deactivatePackage package).jobQueueLengthGauge = q.jobQueueLengthGauge ∧
    (q.deactivatePackage package).activeJobsGauge = q.activeJobsGauge ∧
    (q.deactivatePackage package).packageQueueLengthGauge = q.packageQueueLengthGauge := by
  unfold deactivatePackage; split_ifs <;> simp

@[simp] theorem waiting_packageGaugeAdd (q : PackageQueue) (package : Package) (d : Int)
    (w : WaitingQueue) : (q.packageGaugeAdd package d).waiting w = q.waiting w := by
  cases w <;> rfl

@[simp] theorem waiting_pushJob (q : PackageQueue) (job : Job) (w : WaitingQueue) :
    (q.pushJob job).waiting w = q.waiting w := by
  cases w <;> rfl

@[simp] theorem waiting_activatePackage (q : PackageQueue) (package : Package) (w : WaitingQueue) :
    (q.activatePackage package).waiting w = q.waiting w := by
  cases w <;> simp [waiting]

@[simp] theorem waitingJobs_packageGaugeAdd (q : PackageQueue) (package : Package) (d : Int) :
    (q.packageGaugeAdd package d).waitingJobs = q.waitingJobs := rfl

@[simp] theorem waitingJobs_pushJob (q : PackageQueue) (job : Job) :
    (q.pushJob job).waitingJobs = q.waitingJobs := rfl

@[simp] theorem waitingJobs_submit (q : PackageQueue) (job : Job) :
    (q.submit job).waitingJobs = q.waitingJobs := rfl

@[simp] theorem waitingJobs_activatePackage (q : PackageQueue) (package : Package) :
    (q.activatePackage package).waitingJobs = q.waitingJobs := by
  simp [waitingJobs]

@[simp] theorem waitingJobs_deactivatePackage (q : PackageQueue) (package : Package) :
    (q.deactivatePackage package).waitingJobs = q.waitingJobs := by
  simp [waitingJobs]

@[simp] theorem activePackageKeys_packageGaugeAdd (q : PackageQueue) (package : Package) (d : Int) :
    (q.packageGaugeAdd package d).activePackageKeys = q.activePackageKeys := rfl

@[simp] theorem activePackageKeys_pushJob (q : PackageQueue) (job : Job) :
    (q.pushJob job).activePackageKeys = q.activePackageKeys := rfl

@[simp] theorem activePackageKeys_submit (q : PackageQueue) (job : Job) :
    (q.submit job).activePackageKeys = q.activePackageKeys := rfl

@[simp] theorem activePackageKeys_putWaiting (q : PackageQueue) (package : Package) (job : Job) :
    (q.putWaiting package job).activePackageKeys = q.activePackageKeys := by
  simp [putWaiting, activePackageKeys]

@[simp] theorem putWaiting_fields (q : PackageQueue) (package : Package) (job : Job) :
    (q.putWaiting package job).maxConcurrentPackages = q.maxConcurrentPackages ∧
    (q.putWaiting package job).maxQueuedPackages = q.maxQueuedPackages ∧
    (q.putWaiting package job).shutdownEvent = q.shutdownEvent ∧
    (q.putWaiting package job).activePackages = q.activePackages ∧
    (q.putWaiting package job).jobQueue = q.jobQueue ∧
    (q.putWaiting package job).executor = q.executor ∧
    (q.putWaiting package job).jobQueueLengthGauge = q.jobQueueLengthGauge ∧
    (q.putWaiting package job).activePackageGauge = q.activePackageGauge ∧
    (q.putWaiting package job).activeJobsGauge = q.activeJobsGauge ∧
    (q.putWaiting package job).packageQueueLengthGauge =
      gaugeAdd q.packageQueueLengthGauge package.cls.name 1 := by
  simp [putWaiting]

/-- A successful `put_nowait` on a waiting queue adds one job to the waiting jobs. -/
theorem countP_waitingJobs_putWaiting (q : PackageQueue) (package : Package) (job : Job)
    (f : Job → Bool) :
    (q.putWaiting package job).waitingJobs.countP f =
      q.waitingJobs.countP f + if f job then 1 else 0 := by
  have := q.countP_waitingJobs_setWaiting package.cls.waitingQueue
    (q.waiting package.cls.waitingQueue ++ [job]) f
  simp only [List.countP_append, List.countP_cons, List.countP_nil] at this
  simp only [putWaiting, waitingJobs, packageGaugeAdd_fields] at this ⊢
  omega

/-- A `get_nowait` that returns a job takes it off the waiting jobs. -/
theorem countP_waitingJobs_getNowait {q q' : PackageQueue} {w : WaitingQueue} {job : Job}
    (h : q.getNowait w = (some job, q')) (f : Job → Bool) :
    q'.waitingJobs.countP f + (if f job then 1 else 0) = q.waitingJobs.countP f := by
  unfold getNowait at h
  split at h
  · cases h
  · rename_i rest hw
    simp only [Prod.mk.injEq, Option.some.injEq] at h
    obtain ⟨rfl, rfl⟩ := h
    have := q.countP_waitingJobs_setWaiting w rest f
    rw [hw, List.countP_cons] at this
    omega

theorem getNowait_none {q q' : PackageQueue} {w : WaitingQueue} (h : q.getNowait w = (none, q')) :
    q' = q := by
  unfold getNowait at h
  split at h <;> simp_all

/-- A `get_nowait` changes only the waiting queue it takes from. -/
theorem getNowait_fields {q q' : PackageQueue} {w : WaitingQueue} {o : Option Job}
    (h : q.getNowait w = (o, q')) :
    q'.maxConcurrentPackages = q.maxConcurrentPackages ∧ q'.maxQueuedPackages = q.maxQueuedPackages ∧
    q'.shutdownEvent = q.shutdownEvent ∧ q'.activePackages = q.activePackages ∧
    q'.jobQueue = q.jobQueue ∧ q'.executor = q.executor ∧
    q'.jobQueueLengthGauge = q.jobQueueLengthGauge ∧ q'.activePackageGauge = q.activePackageGauge ∧
    q'.activeJobsGauge = q.activeJobsGauge ∧
    q'.packageQueueLengthGauge = q.packageQueueLengthGauge := by
  unfold getNowait at h
  split at h <;> simp only [Prod.mk.injEq] at h <;> obtain ⟨-, rfl⟩ := h <;> simp

/-! ## Active packages -/

theorem mem_keys_activatePackage {q : PackageQueue} {package : Package} {x : String} :
    x ∈ (q.activatePackage package).activePackageKeys ↔
      x ∈ q.activePackageKeys ∨ x = package.uuid := by
  unfold activatePackage
  split_ifs with h
  · exact ⟨Or.inl, fun h' => h'.elim id (· ▸ h)⟩
  · simp [activePackageKeys]

theorem mem_keys_deactivatePackage {q : PackageQueue} {package : Package} {x : String} :
    x ∈ (q.deactivatePackage package).activePackageKeys ↔
      x ∈ q.activePackageKeys ∧ x ≠ package.uuid := by
  unfold deactivatePackage
  split_ifs with h
  · simp only [activePackageKeys, List.mem_map, List.mem_filter, decide_eq_true_eq]
    constructor
    · rintro ⟨a, ⟨ha, hne⟩, rfl⟩
      exact ⟨⟨a, ha, rfl⟩, hne⟩
    · rintro ⟨⟨a, ha, rfl⟩, hne⟩
      exact ⟨a, ⟨ha, hne⟩, rfl⟩
  · exact ⟨fun h' => ⟨h', fun e => h (e ▸ h')⟩, And.left⟩

theorem nodup_keys_activatePackage {q : PackageQueue} (package : Package)
    (h : q.activePackageKeys.Nodup) : (q.activatePackage package).activePackageKeys.Nodup := by
  unfold activatePackage
  split_ifs with hm
  · exact h
  · simp only [activePackageKeys, List.map_append, List.map_cons, List.map_nil] at h hm ⊢
    exact List.nodup_append.2 ⟨h, List.nodup_singleton _, List.disjoint_singleton.2 hm⟩

theorem nodup_keys_deactivatePackage {q : PackageQueue} (package : Package)
    (h : q.activePackageKeys.Nodup) : (q.deactivatePackage package).activePackageKeys.Nodup := by
  unfold deactivatePackage
  split_ifs
  · exact (List.filter_sublist _).map Package.uuid |>.nodup h
  · exact h

theorem length_activatePackage_le (q : PackageQueue) (package : Package) :
    (q.activatePackage package).activePackages.length ≤ q.activePackages.length + 1 := by
  unfold activatePackage
  split_ifs <;> simp

/-- With unique keys, deleting a present key removes exactly one package. -/
theorem length_deactivatePackage {q : PackageQueue} {package : Package}
    (hn : q.activePackageKeys.Nodup) (hm : package.uuid ∈ q.activePackageKeys) :
    (q.deactivatePackage package).activePackages.length + 1 = q.activePackages.length := by
  have hc : q.activePackageKeys.count package.uuid = 1 := List.count_eq_one_of_mem hn hm
  simp only [activePackageKeys, List.count_eq_countP, List.countP_map] at hc
  simp only [deactivatePackage, hm, if_true, ← List.countP_eq_length_filter]
  rw [List.length_eq_countP_add_countP (fun a => a.uuid = package.uuid)]
  have hf : (fun a : Package => a.uuid == package.uuid) = fun a => decide (a.uuid = package.uuid) := by
    funext a; by_cases h : a.uuid = package.uuid <;> simp [h]
  rw [Function.comp_def, hf] at hc
  simp [hc, Nat.add_comm]

end PackageQueue
end A3m.Server
