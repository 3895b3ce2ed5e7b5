/-
  A3m.Server.Queues.Calls

  What each sequential call of `Methods.lean` can do, said once. `_get_package_job_nowait`
  either finds every waiting queue it tries empty, or takes the first job of the first
  non-empty one (`getPackageJobFrom_none`, `getPackageJobFrom_some`); `queue_next_job`
  then activates that job's package and puts the job on `job_queue`
  (`queueNextJobFrom_cases`), which succeeds when `job_queue` has room
  (`queueNextJobFrom_ok`). `schedule_job` ends in one of four ways (`scheduleJob_cases`):
  it raises on a stopped queue, puts the job of an active package on `job_queue` (blocking
  on a full one), raises `queue.Full` on a full waiting queue, or puts the job on its
  waiting queue and, with the count read under the lock below the cap, promotes a package.

  The invariants of the atomic system (`Atomic.lean`, `Gauges.lean`, `Stall.lean`) and the
  callers of `schedule_job` are derived from these lemmas, not from the definitions.
-/
import A3m.Server.Queues.Methods

namespace A3m.Server
namespace PackageQueue

/-! ## `_get_package_job_nowait` -/

theorem getNowait_eq_none {q q' : PackageQueue} {w : WaitingQueue}
    (h : q.getNowait w = (none, q')) : q' = q ∧ q.waiting w = [] := by
  unfold getNowait at h
  split at h
  · exact ⟨(Prod.mk.inj h).2.symm, ‹_›⟩
  · cases h

theorem getNowait_eq_some {q q' : PackageQueue} {w : WaitingQueue} {job : Job}
    (h : q.getNowait w = (some job, q')) :
    ∃ rest, q.waiting w = job :: rest ∧ q' = q.setWaiting w rest := by
  unfold getNowait at h
  split at h
  · cases h
  · rename_i j rest hw
    simp only [Prod.mk.injEq, Option.some.injEq] at h
    exact ⟨rest, h.1 ▸ hw, h.2.symm⟩

/-- Finding nothing, `_get_package_job_nowait` found every queue it tried empty. -/
theorem getPackageJobFrom_none {q q' : PackageQueue} {ws : List WaitingQueue}
    (h : q.getPackageJobFrom ws = (none, q')) : q' = q ∧ ∀ w ∈ ws, q.waiting w = [] := by
  induction ws with
  | nil => exact ⟨(Prod.mk.inj h).2.symm, by simp⟩
  | cons w ws ih =>
    simp only [getPackageJobFrom] at h
    rcases hg : q.getNowait w with ⟨_ | j, q₁⟩ <;> rw [hg] at h
    · obtain ⟨rfl, hw⟩ := getNowait_eq_none hg
      obtain ⟨rfl, hws⟩ := ih h
      exact ⟨rfl, List.forall_mem_cons.2 ⟨hw, hws⟩⟩
    · cases h

/-- A job found is the head of the first non-empty queue tried; it leaves that queue and
    the gauge of its package's class goes down. -/
theorem getPackageJobFrom_some {q q' : PackageQueue} {ws : List WaitingQueue} {job : Job}
    (h : q.getPackageJobFrom ws = (some job, q')) :
    ∃ pre w post rest, ws = pre ++ w :: post ∧ (∀ w' ∈ pre, q.waiting w' = []) ∧
      q.waiting w = job :: rest ∧ q' = (q.setWaiting w rest).packageGaugeAdd job.package (-1) := by
  induction ws with
  | nil => cases h
  | cons w ws ih =>
    simp only [getPackageJobFrom] at h
    rcases hg : q.getNowait w with ⟨_ | j, q₁⟩ <;> rw [hg] at h
    · obtain ⟨rfl, hw⟩ := getNowait_eq_none hg
      obtain ⟨pre, w', post, rest, rfl, hpre, hw', rfl⟩ := ih h
      exact ⟨w :: pre, w', post, rest, rfl, List.forall_mem_cons.2 ⟨hw, hpre⟩, hw', rfl⟩
    · simp only [Prod.mk.injEq, Option.some.injEq] at h
      obtain ⟨rfl, rfl⟩ := h
      obtain ⟨rest, hw, rfl⟩ := getNowait_eq_some hg
      exact ⟨[], w, ws, rest, rfl, by simp, hw, rfl⟩

/-! ## `queue_next_job` -/

/-- `queue_next_job` finds nothing and changes nothing, or takes the head `job` of a
    waiting queue, activates its package and calls `job_queue.put_nowait(job)`. -/
theorem queueNextJobFrom_cases (q : PackageQueue) (ws : List WaitingQueue) :
    (∀ w ∈ ws, q.waiting w = []) ∧ q.queueNextJobFrom ws = .ok q ∨
    ∃ pre w post job rest, ws = pre ++ w :: post ∧ (∀ w' ∈ pre, q.waiting w' = []) ∧
      q.waiting w = job :: rest ∧
      q.queueNextJobFrom ws =
        (((q.setWaiting w rest).packageGaugeAdd job.package (-1)).activatePackage
          job.package).putJobNowait job := by
  unfold queueNextJobFrom
  rcases hg : q.getPackageJobFrom ws with ⟨_ | job, q'⟩
  · obtain ⟨rfl, hws⟩ := getPackageJobFrom_none hg
    exact .inl ⟨hws, rfl⟩
  · obtain ⟨pre, w, post, rest, rfl, hpre, hw, rfl⟩ := getPackageJobFrom_some hg
    exact .inr ⟨pre, w, post, job, rest, rfl, hpre, hw, rfl⟩

/-- With room on `job_queue`, `queue_next_job` returns. -/
theorem queueNextJobFrom_ok (q : PackageQueue) (ws : List WaitingQueue)
    (hroom : ¬queueFull q.maxConcurrentPackages q.jobQueue) :
    (∀ w ∈ ws, q.waiting w = []) ∧ q.queueNextJobFrom ws = .ok q ∨
    ∃ pre w post job rest, ws = pre ++ w :: post ∧ (∀ w' ∈ pre, q.waiting w' = []) ∧
      q.waiting w = job :: rest ∧
      q.queueNextJobFrom ws =
        .ok ((((q.setWaiting w rest).packageGaugeAdd job.package (-1)).activatePackage
          job.package).pushJob job) := by
  refine (queueNextJobFrom_cases q ws).imp id fun ⟨pre, w, post, job, rest, h1, h2, h3, h4⟩ =>
    ⟨pre, w, post, job, rest, h1, h2, h3, ?_⟩
  rw [h4, putJobNowait, if_neg (by simpa using hroom)]

theorem exists_queueNextJobFrom_eq_ok (q : PackageQueue) (ws : List WaitingQueue)
    (hroom : ¬queueFull q.maxConcurrentPackages q.jobQueue) :
    ∃ q', q.queueNextJobFrom ws = .ok q' := by
  rcases queueNextJobFrom_ok q ws hroom with ⟨-, h⟩ | ⟨_, _, _, _, _, -, -, -, h⟩ <;> exact ⟨_, h⟩

/-- Room on `job_queue` stays through a put on a waiting queue. -/
theorem not_queueFull_putWaiting {q : PackageQueue} (package : Package) (job : Job)
    (h : q.jobQueue.length < q.maxConcurrentPackages) :
    ¬queueFull (q.putWaiting package job).maxConcurrentPackages (q.putWaiting package job).jobQueue := by
  simpa using not_queueFull_of_lt h

/-- Room on `job_queue` stays through `deactivate_package`. -/
theorem not_queueFull_deactivatePackage {q : PackageQueue} (package : Package)
    (h : ¬queueFull q.maxConcurrentPackages q.jobQueue) :
    ¬queueFull (q.deactivatePackage package).maxConcurrentPackages
      (q.deactivatePackage package).jobQueue := by
  simpa using h

/-- `queue_next_job` activates at most one package. -/
theorem length_queueNextJobFrom_le {q q' : PackageQueue} {ws : List WaitingQueue}
    (h : (q.queueNextJobFrom ws).state? = some q') :
    q'.activePackages.length ≤ q.activePackages.length + 1 ∧
      q'.maxConcurrentPackages = q.maxConcurrentPackages := by
  rcases queueNextJobFrom_cases q ws with ⟨-, he⟩ | ⟨pre, w, post, job, rest, -, -, -, he⟩ <;>
    rw [he] at h
  · cases h; simp
  · have hl := ((q.setWaiting w rest).packageGaugeAdd job.package (-1)).length_activatePackage_le
      job.package
    unfold putJobNowait at h
    split_ifs at h <;> cases h <;> simpa using hl

/-! ## `schedule_job` -/

/-- The four ways `schedule_job` ends. -/
theorem scheduleJob_cases (q : PackageQueue) (job : Job) :
    q.shutdownEvent = true ∧ q.scheduleJob job = .raised (.runtimeError "Queue stopped.") q ∨
    q.shutdownEvent = false ∧ job.package.uuid ∈ q.activePackageKeys ∧
      q.scheduleJob job =
        (if queueFull q.maxConcurrentPackages q.jobQueue then .blocked else .ok (q.pushJob job)) ∨
    q.shutdownEvent = false ∧ job.package.uuid ∉ q.activePackageKeys ∧
      queueFull q.maxQueuedPackages (q.waiting job.package.cls.waitingQueue) ∧
      q.scheduleJob job = .raised .full q ∨
    q.shutdownEvent = false ∧ job.package.uuid ∉ q.activePackageKeys ∧
      ¬queueFull q.maxQueuedPackages (q.waiting job.package.cls.waitingQueue) ∧
      q.scheduleJob job =
        if q.activePackages.length < q.maxConcurrentPackages then
          (q.putWaiting job.package job).queueNextJob
        else .ok (q.putWaiting job.package job) := by
  unfold scheduleJob scheduleJobLocked schedulePackage putPackageNowait
  cases hs : q.shutdownEvent
  · by_cases ha : job.package.uuid ∈ q.activePackageKeys
    · exact .inr (.inl ⟨rfl, ha, by simp [ha]⟩)
    · by_cases hf : queueFull q.maxQueuedPackages (q.waiting job.package.cls.waitingQueue)
      · exact .inr (.inr (.inl ⟨rfl, ha, hf, by simp [ha, hf]⟩))
      · exact .inr (.inr (.inr ⟨rfl, ha, hf, by simp [ha, hf]⟩))
  · exact .inl ⟨rfl, by simp⟩

/-- A job put on its waiting queue and a call of `queue_next_job` after it: the job is on
    `job_queue` with its package active, or still on its waiting queue. -/
theorem mem_queueNextJob_putWaiting {q q' : PackageQueue} {job : Job}
    (hroom : ¬queueFull q.maxConcurrentPackages q.jobQueue)
    (h : (q.putWaiting job.package job).queueNextJob = .ok q') :
    job ∈ q'.jobQueue ∧ job.package.uuid ∈ q'.activePackageKeys ∨
      job ∈ q'.waiting job.package.cls.waitingQueue := by
  set q₁ := q.putWaiting job.package job
  have hmem : job ∈ q₁.waiting job.package.cls.waitingQueue := by simp [q₁, putWaiting]
  have hroom₁ : ¬queueFull q₁.maxConcurrentPackages q₁.jobQueue := by simpa [q₁] using hroom
  clear_value q₁
  rcases queueNextJobFrom_ok q₁ _ hroom₁ with ⟨-, he⟩ | ⟨-, w, -, j, rest, -, -, hw, he⟩ <;>
    rw [queueNextJob, he] at h <;> cases h
  · exact .inr hmem
  · by_cases hj : j = job
    · subst hj
      exact .inl ⟨by simp, mem_keys_activatePackage.2 (.inr rfl)⟩
    · refine .inr ?_
      by_cases hw' : job.package.cls.waitingQueue = w
      · subst hw'
        rw [hw] at hmem
        simpa [Ne.symm hj] using hmem
      · simpa [waiting_setWaiting_of_ne _ _ hw'] using hmem

end PackageQueue
end A3m.Server
