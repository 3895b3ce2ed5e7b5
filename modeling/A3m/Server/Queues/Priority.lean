/-
  A3m.Server.Queues.Priority

  The three waiting queues and one priority queue. The abstract model (`Waiting`) keeps
  every waiting job in one list in the order the jobs were put; `put` appends a job unless
  the jobs of its class already fill `max_queued_packages` places, and `get` takes out the
  earliest job among those whose class has the highest rank present (DIP, then SIP, then
  every other class). `Refines q l` says that each waiting queue of `q` holds the jobs of
  its class in the order of `l`.

  `_put_package_nowait` and `_get_package_job_nowait` each do what the abstract operation
  does and keep `Refines` (`Refines.putPackageNowait`, `Refines.getPackageJobNowait`), so
  any sequence of the two calls gives the abstract model's answers
  (`Refines.runWaiting`).
-/
import A3m.Server.Queues.Calls

namespace A3m.Server

/-- The rank of a waiting queue: `_get_package_job_nowait` tries the DIP queue first, then
    the SIP queue, then the transfer queue. -/
def WaitingQueue.rank : WaitingQueue → Nat
  | .dip => 0
  | .sip => 1
  | .transfer => 2

theorem WaitingQueue.rank_inj {w w' : WaitingQueue} (h : w.rank = w'.rank) : w = w' := by
  cases w <;> cases w' <;> first | rfl | cases h

/-- The rank of a job's package class. -/
def Job.rank (job : Job) : Nat := job.package.cls.waitingQueue.rank

namespace Waiting

/-- Put a job at the end, unless the jobs of its class already fill `maxQueued` places. -/
def put (maxQueued : Nat) (l : List Job) (job : Job) : Option (List Job) :=
  if queueFull maxQueued
      (l.filter (·.package.cls.waitingQueue = job.package.cls.waitingQueue)) then none
  else some (l ++ [job])

/-- Take out the earliest job whose rank no waiting job beats. -/
def get (l : List Job) : Option Job × List Job :=
  match l.find? (fun j => l.all (fun k => j.rank ≤ k.rank)) with
  | none => (none, l)
  | some j => (some j, l.erase j)

/-- A non-empty list has a job of least rank. -/
theorem exists_min_rank : ∀ {l : List Job}, l ≠ [] → ∃ j ∈ l, ∀ k ∈ l, j.rank ≤ k.rank
  | [], h => absurd rfl h
  | [a], _ => ⟨a, .head _, by simp⟩
  | a :: b :: l, _ => by
    obtain ⟨j, hj, hmin⟩ := exists_min_rank (List.cons_ne_nil b l)
    by_cases ha : a.rank ≤ j.rank
    · refine ⟨a, .head _, fun k hk => ?_⟩
      rcases List.mem_cons.1 hk with rfl | hk
      · exact le_rfl
      · exact ha.trans (hmin k hk)
    · refine ⟨j, .tail _ hj, fun k hk => ?_⟩
      rcases List.mem_cons.1 hk with rfl | hk
      · omega
      · exact hmin k hk

/-- `get` finds a job exactly when one is waiting. -/
theorem get_fst_eq_none_iff (l : List Job) : (get l).1 = none ↔ l = [] := by
  refine ⟨fun h => ?_, by rintro rfl; rfl⟩
  by_contra hl
  obtain ⟨j, hj, hmin⟩ := exists_min_rank hl
  have hf : l.find? (fun j => l.all fun k => j.rank ≤ k.rank) ≠ none :=
    fun hn => absurd (List.find?_eq_none.1 hn j hj) (by simpa using hmin)
  unfold get at h
  split at h
  · contradiction
  · cases h

end Waiting

/-- Each waiting queue of `q` holds the jobs of `l` of its class, in the order of `l`. -/
def Refines (q : PackageQueue) (l : List Job) : Prop :=
  ∀ w, q.waiting w = l.filter (·.package.cls.waitingQueue = w)

theorem refines_init (maxConcurrentPackages maxQueuedPackages : Nat) :
    Refines (PackageQueue.init maxConcurrentPackages maxQueuedPackages) [] := by
  intro w; cases w <;> rfl

/-! ## One lemma per call -/

/-- A `find?` over a list on which its test agrees with `p` returns the first job of
    `l.filter p`. -/
theorem find?_eq_of_filter_eq_cons {l : List Job} {p r : Job → Bool} {j : Job} {rest : List Job}
    (hpr : ∀ a ∈ l, r a = p a) (h : l.filter p = j :: rest) : l.find? r = some j := by
  induction l with
  | nil => cases h
  | cons a l ih =>
    have ha := hpr a (.head _)
    rw [List.find?_cons, ha]
    rw [List.filter_cons] at h
    split_ifs at h with hp
    · cases h; simp [hp]
    · simp only [Bool.not_eq_true] at hp
      rw [hp]
      exact ih (fun b hb => hpr b (.tail _ hb)) h

/-- The waiting queues `_get_package_job_nowait` tries before `w` are those of lower rank. -/
theorem mem_pre_of_rank_lt {pre post : List WaitingQueue} {w w' : WaitingQueue}
    (h : [.dip, .sip, .transfer] = pre ++ w :: post) (hlt : w'.rank < w.rank) : w' ∈ pre := by
  cases w <;> cases w' <;> rcases pre with _ | ⟨a, _ | ⟨b, _ | ⟨c, pre⟩⟩⟩ <;>
    simp_all [WaitingQueue.rank]

/-- When no job of `l` has a class of lower rank than `w`, the abstract `get` finds the
    first job of class `w`. -/
theorem find?_min_rank {l : List Job} {w : WaitingQueue} {j : Job} {rest : List Job}
    (hfw : l.filter (·.package.cls.waitingQueue = w) = j :: rest)
    (hmin : ∀ k ∈ l, w.rank ≤ k.rank) :
    l.find? (fun j => l.all (fun k => j.rank ≤ k.rank)) = some j := by
  have hmem : j ∈ l.filter (·.package.cls.waitingQueue = w) := hfw ▸ List.mem_cons_self j rest
  have hjl : j ∈ l := List.mem_of_mem_filter hmem
  have hjw : j.package.cls.waitingQueue = w := by simpa using (List.mem_filter.1 hmem).2
  refine find?_eq_of_filter_eq_cons (fun a ha => ?_) hfw
  by_cases haw : a.package.cls.waitingQueue = w
  · have e : decide (a.package.cls.waitingQueue = w) = true := decide_eq_true haw
    rw [e, List.all_eq_true]
    exact fun k hk => decide_eq_true ((show a.rank = w.rank by simp [Job.rank, haw]) ▸ hmin k hk)
  · have hlt : w.rank < a.rank :=
      lt_of_le_of_ne (hmin a ha) fun e => haw (WaitingQueue.rank_inj e).symm
    have e : decide (a.package.cls.waitingQueue = w) = false := decide_eq_false haw
    rw [e, Bool.eq_false_iff]
    intro hall
    have := of_decide_eq_true (List.all_eq_true.1 hall j hjl)
    simp only [Job.rank, hjw] at this hlt
    omega

/-- `_put_package_nowait` raises `queue.Full` when the abstract `put` refuses the job, and
    otherwise puts it where the abstract `put` does. -/
theorem Refines.putPackageNowait {q : PackageQueue} {l : List Job} (h : Refines q l) (job : Job) :
    match Waiting.put q.maxQueuedPackages l job with
    | none => q.putPackageNowait job.package job = .raised .full q
    | some l' => ∃ q', q.putPackageNowait job.package job = .ok q' ∧ Refines q' l' := by
  unfold Waiting.put PackageQueue.putPackageNowait
  rw [← h job.package.cls.waitingQueue]
  split_ifs
  · rfl
  · refine ⟨_, rfl, fun w => ?_⟩
    by_cases hw : w = job.package.cls.waitingQueue
    · subst hw
      simp [PackageQueue.putWaiting, h _]
    · simp [PackageQueue.putWaiting, PackageQueue.waiting_setWaiting_of_ne _ _ hw, h w,
        Ne.symm hw]

/-- `_get_package_job_nowait` returns and takes out the job the abstract `get` does. -/
theorem Refines.getPackageJobNowait {q : PackageQueue} {l : List Job} (h : Refines q l) :
    q.getPackageJobNowait.1 = (Waiting.get l).1 ∧
      Refines q.getPackageJobNowait.2 (Waiting.get l).2 := by
  unfold PackageQueue.getPackageJobNowait
  rcases hg : q.getPackageJobFrom [.dip, .sip, .transfer] with ⟨_ | j, q'⟩
  · obtain ⟨rfl, hempty⟩ := PackageQueue.getPackageJobFrom_none hg
    have hl : l = [] := List.eq_nil_iff_forall_not_mem.2 fun k hk => by
      have := h k.package.cls.waitingQueue
      rw [hempty _ (by cases k.package.cls.waitingQueue <;> simp)] at this
      exact List.filter_eq_nil_iff.1 this.symm k hk (by simp)
    subst hl
    exact ⟨rfl, h⟩
  · obtain ⟨pre, w, post, rest, hws, hpre, hw, rfl⟩ := PackageQueue.getPackageJobFrom_some hg
    have hfw : l.filter (·.package.cls.waitingQueue = w) = j :: rest := (h w).symm.trans hw
    have hmem : j ∈ l.filter (·.package.cls.waitingQueue = w) := hfw ▸ List.mem_cons_self j rest
    have hjw : j.package.cls.waitingQueue = w := by simpa using (List.mem_filter.1 hmem).2
    -- every waiting job's class has a rank at least `w`'s
    have hmin k (hk : k ∈ l) : w.rank ≤ k.rank := by
      by_contra hlt
      have hpre' := hpre _ (mem_pre_of_rank_lt hws (not_le.1 hlt))
      rw [h] at hpre'
      exact List.filter_eq_nil_iff.1 hpre' k hk (by simp)
    have hfind := find?_min_rank hfw hmin
    simp only [Waiting.get, hfind, true_and]
    intro w'
    rw [← List.erase_filter, ← h w']
    by_cases hw' : w' = w
    · subst hw'; simp [hw]
    · rw [PackageQueue.waiting_packageGaugeAdd, PackageQueue.waiting_setWaiting_of_ne _ _ hw',
        List.erase_of_not_mem]
      rw [h w']
      simp [hjw, Ne.symm hw']

/-! ## Sequences of calls -/

/-- A call on the waiting queues. -/
inductive WaitingOp where
  | put (job : Job)
  | get
  deriving DecidableEq, Repr

/-- What a call answers: a put accepted or refused with `queue.Full`, the job a get found. -/
inductive WaitingOut where
  | put (accepted : Bool)
  | get (job : Option Job)
  deriving DecidableEq, Repr

/-- A sequence of `_put_package_nowait` and `_get_package_job_nowait` calls. -/
def PackageQueue.runWaiting (q : PackageQueue) : List WaitingOp → List WaitingOut × PackageQueue
  | [] => ([], q)
  | .put job :: ops =>
    match q.putPackageNowait job.package job with
    | .ok q' => let r := q'.runWaiting ops; (.put true :: r.1, r.2)
    | .raised _ q' => let r := q'.runWaiting ops; (.put false :: r.1, r.2)
    | .blocked => ([], q)
  | .get :: ops =>
    let r := q.getPackageJobNowait.2.runWaiting ops
    (.get q.getPackageJobNowait.1 :: r.1, r.2)

/-- The same sequence on the abstract priority queue. -/
def Waiting.run (maxQueued : Nat) (l : List Job) : List WaitingOp → List WaitingOut × List Job
  | [] => ([], l)
  | .put job :: ops =>
    match put maxQueued l job with
    | some l' => let r := run maxQueued l' ops; (.put true :: r.1, r.2)
    | none => let r := run maxQueued l ops; (.put false :: r.1, r.2)
  | .get :: ops =>
    let r := run maxQueued (get l).2 ops
    (.get (get l).1 :: r.1, r.2)

theorem PackageQueue.maxQueuedPackages_putPackageNowait {q q' : PackageQueue} {job : Job}
    (h : q.putPackageNowait job.package job = .ok q') :
    q'.maxQueuedPackages = q.maxQueuedPackages := by
  unfold PackageQueue.putPackageNowait at h
  split_ifs at h
  cases h
  simp

theorem PackageQueue.maxQueuedPackages_getPackageJobNowait (q : PackageQueue) :
    q.getPackageJobNowait.2.maxQueuedPackages = q.maxQueuedPackages := by
  unfold PackageQueue.getPackageJobNowait
  rcases hg : q.getPackageJobFrom [.dip, .sip, .transfer] with ⟨_ | j, q'⟩
  · rw [(PackageQueue.getPackageJobFrom_none hg).1]
  · obtain ⟨-, -, -, -, -, -, -, rfl⟩ := PackageQueue.getPackageJobFrom_some hg
    simp

/-- The three waiting queues refine one priority queue: over any sequence of puts and
    gets, each call answers as the abstract model does (a get returns the earliest job of
    the highest class rank present, or `None` when nothing waits, and takes exactly that
    job out), and the queues go on holding the abstract model's jobs. -/
theorem Refines.runWaiting {q : PackageQueue} {l : List Job} (h : Refines q l)
    (ops : List WaitingOp) :
    (q.runWaiting ops).1 = (Waiting.run q.maxQueuedPackages l ops).1 ∧
      Refines (q.runWaiting ops).2 (Waiting.run q.maxQueuedPackages l ops).2 := by
  induction ops generalizing q l with
  | nil => exact ⟨rfl, h⟩
  | cons op ops ih =>
    cases op with
    | put job =>
      have hp := h.putPackageNowait job
      simp only [PackageQueue.runWaiting, Waiting.run]
      split at hp
      · rename_i hput
        rw [hput, hp]
        exact ⟨by simp [(ih h).1], (ih h).2⟩
      · rename_i l' hput
        obtain ⟨q', hq', hr⟩ := hp
        rw [hput, hq']
        have := ih hr
        rw [PackageQueue.maxQueuedPackages_putPackageNowait hq'] at this
        exact ⟨by simp [this.1], this.2⟩
    | get =>
      obtain ⟨h1, h2⟩ := h.getPackageJobNowait
      have := ih h2
      rw [PackageQueue.maxQueuedPackages_getPackageJobNowait] at this
      simp only [PackageQueue.runWaiting, Waiting.run, h1]
      exact ⟨by simp [this.1], this.2⟩

namespace Priority

/-- Two transfers, a SIP and a DIP are put in that order; a third transfer is refused, as
    two transfers fill the transfer queue; then five gets. -/
def mixedOps : List WaitingOp :=
  [.put ⟨⟨"t1", .transfer⟩, ⟨false⟩⟩, .put ⟨⟨"s", .sip⟩, ⟨false⟩⟩,
   .put ⟨⟨"t2", .transfer⟩, ⟨false⟩⟩, .put ⟨⟨"d", .dip⟩, ⟨false⟩⟩,
   .put ⟨⟨"t3", .transfer⟩, ⟨false⟩⟩, .get, .get, .get, .get, .get]

end Priority

/-- The queues answer the mixed run as the priority queue does: the DIP first, then the
    SIP, then the two transfers in the order they were put, then `None`. -/
theorem runWaiting_mixedOps :
    Refines (PackageQueue.init 1 2) [] ∧
      (((PackageQueue.init 1 2).runWaiting Priority.mixedOps).1 =
          (Waiting.run (PackageQueue.init 1 2).maxQueuedPackages [] Priority.mixedOps).1 ∧
        Refines ((PackageQueue.init 1 2).runWaiting Priority.mixedOps).2
          (Waiting.run (PackageQueue.init 1 2).maxQueuedPackages [] Priority.mixedOps).2) ∧
      (Waiting.run 2 [] Priority.mixedOps).1 =
        [.put true, .put true, .put true, .put true, .put false,
         .get (some ⟨⟨"d", .dip⟩, ⟨false⟩⟩), .get (some ⟨⟨"s", .sip⟩, ⟨false⟩⟩),
         .get (some ⟨⟨"t1", .transfer⟩, ⟨false⟩⟩), .get (some ⟨⟨"t2", .transfer⟩, ⟨false⟩⟩),
         .get none] :=
  ⟨refines_init 1 2, Refines.runWaiting (refines_init 1 2) Priority.mixedOps, by decide⟩

/-- A transfer put before a DIP still comes out after it. -/
example :
    ((PackageQueue.init 1 4096).runWaiting
      [.put ⟨⟨"t", .transfer⟩, ⟨false⟩⟩, .put ⟨⟨"d", .dip⟩, ⟨false⟩⟩, .get, .get, .get]).1 =
      [.put true, .put true, .get (some ⟨⟨"d", .dip⟩, ⟨false⟩⟩),
        .get (some ⟨⟨"t", .transfer⟩, ⟨false⟩⟩), .get none] := by
  decide

end A3m.Server
