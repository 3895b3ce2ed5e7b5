/-
  A3m.Server.Queues.Solo

  The two levels of `Threads.lean` agree. A thread that runs alone from its frame to its
  end computes what the sequential methods of `Methods.lean` compute (`Pc.resume`):
  one step, then the rest of the call, is the rest of the call (`state?_resume`). So an
  atomic event is a run of single steps (`Sys.star_of_nextAtomic`), and every state
  reached with atomic calls is reached by some interleaving
  (`AtomicReachable.reachable`): what holds of every interleaving holds of atomic runs.
-/
import A3m.Server.Queues.Threads

namespace A3m.Server

/-- A bound on the steps a frame has left. -/
def Pc.rank : Pc → Nat
  | .putJobNowait _ | .submit _ => 0
  | .activatePackage _ | .processOneJob => 1
  | .getPackageJob ws => ws.length + 2
  | .schedulePackage .. | .deactivatePackage _ => 6
  | .scheduleJobLocked _ | .packageCompleted .. => 7
  | .scheduleJob _ => 8
  | .jobCompleted _ => 9

theorem Outcome.state?_finish (o : Outcome) :
    o.state? = match o.finish with
      | none => none
      | some (q, _) => some q := by
  cases o <;> rfl

/-- One step of a thread, then the rest of its call, is the rest of its call. -/
theorem state?_resume (q : PackageQueue) (pc : Pc) :
    (pc.resume q).state? = match threadStep q pc with
      | none => none
      | some (q', none) => some q'
      | some (q', some pc') => (pc'.resume q').state? := by
  cases pc with
  | scheduleJob job =>
    by_cases h : q.shutdownEvent <;> simp [Pc.resume, threadStep, PackageQueue.scheduleJob, h,
      Outcome.state?]
  | scheduleJobLocked job =>
    simp only [Pc.resume, threadStep, PackageQueue.scheduleJobLocked]
    split_ifs <;> rfl
  | schedulePackage job count =>
    simp only [Pc.resume, threadStep, PackageQueue.schedulePackage]
    cases q.putPackageNowait job.package job with
    | ok q' =>
      by_cases hc : count < q'.maxConcurrentPackages <;>
        simp [hc, Pc.resume, PackageQueue.queueNextJob, priorityOrder, Outcome.state?]
    | raised e q' => rfl
    | blocked => rfl
  | getPackageJob ws =>
    cases ws with
    | nil => rfl
    | cons w ws =>
      simp only [Pc.resume, threadStep, PackageQueue.queueNextJobFrom,
        PackageQueue.getPackageJobFrom]
      rcases q.getNowait w with ⟨_ | job, q'⟩ <;> rfl
  | activatePackage job => rfl
  | putJobNowait job =>
    simp only [Pc.resume, threadStep, PackageQueue.putJobNowait]
    split_ifs <;> rfl
  | processOneJob =>
    simp only [Pc.resume, threadStep, PackageQueue.processOneJob]
    rcases q.takeJob with ⟨_ | job, q'⟩ <;> rfl
  | submit job => rfl
  | jobCompleted result => cases result <;> rfl
  | packageCompleted package result => cases result <;> rfl
  | deactivatePackage package => rfl

theorem Outcome.finish_ne_some_some (o : Outcome) (q : PackageQueue) (pc : Pc) :
    o.finish ≠ some (q, some pc) := by
  cases o <;> simp [Outcome.finish]

/-- A thread's next frame has fewer steps left. -/
theorem rank_lt_of_threadStep {q q' : PackageQueue} {pc pc' : Pc}
    (h : threadStep q pc = some (q', some pc')) : pc'.rank < pc.rank := by
  cases pc
  case getPackageJob ws =>
    cases ws with
    | nil => simp [threadStep] at h
    | cons w ws =>
      simp only [threadStep] at h
      split at h <;> simp only [Option.some.injEq, Prod.mk.injEq] at h <;>
        rcases h with ⟨-, rfl⟩ <;> simp [Pc.rank]
  all_goals
    simp only [threadStep] at h; (repeat' split at h) <;>
    (try simp only [Option.some.injEq, Prod.mk.injEq, reduceCtorEq, false_and] at h) <;>
    first
      | exact absurd h (Outcome.finish_ne_some_some _ _ _)
      | (rcases h with ⟨-, rfl⟩; simp [Pc.rank, priorityOrder])
      | (rcases h with ⟨-, h⟩; simp at h)

/-- One event of the interleaved system. -/
def Sys.Step (s s' : Sys) : Prop := ∃ e, s.next e = some s'

/-- A thread's step is an event, wherever the thread sits among the others. -/
theorem Sys.step_of_threadStep {q q' : PackageQueue} {pc : Pc} {o : Option Pc}
    (pre post : List Pc) (started stalled : List String) (h : threadStep q pc = some (q', o)) :
    Sys.Step ⟨q, pre ++ pc :: post, started, stalled⟩ ⟨q', pre ++ o.toList ++ post, started, stalled⟩ :=
  ⟨.step pre.length, by
    have hpc : (pre ++ pc :: post)[pre.length]? = some pc := by
      rw [List.getElem?_append_right (Nat.le_refl _)]; simp
    simp [Sys.next, hpc, h]⟩

/-- A thread that runs alone to the end of its call leaves the queue as the sequential
    method does. -/
theorem Sys.solo (pre post : List Pc) (started stalled : List String) :
    ∀ (pc : Pc) (q q' : PackageQueue), (pc.resume q).state? = some q' →
      Relation.ReflTransGen Sys.Step ⟨q, pre ++ pc :: post, started, stalled⟩
        ⟨q', pre ++ post, started, stalled⟩ := by
  suffices ∀ n (pc : Pc), pc.rank = n → ∀ q q', (pc.resume q).state? = some q' →
      Relation.ReflTransGen Sys.Step ⟨q, pre ++ pc :: post, started, stalled⟩
        ⟨q', pre ++ post, started, stalled⟩ from fun pc => this _ pc rfl
  intro n
  induction n using Nat.strong_induction_on with
  | _ n ih =>
    intro pc h q q' hr
    rw [state?_resume] at hr
    rcases hs : threadStep q pc with _ | ⟨q₁, _ | pc₁⟩ <;> rw [hs] at hr
    · cases hr
    · cases hr
      simpa using Relation.ReflTransGen.single (Sys.step_of_threadStep pre post started stalled hs)
    · exact .head (by simpa using Sys.step_of_threadStep pre post started stalled hs)
        (ih _ (h ▸ rank_lt_of_threadStep hs) pc₁ rfl q₁ q' hr)

theorem List.eq_take_cons_drop {α : Type} {l : List α} {i : Nat} {a : α} (h : l[i]? = some a) :
    l = l.take i ++ a :: l.drop (i + 1) := by
  obtain ⟨hi, rfl⟩ := List.getElem?_eq_some_iff.1 h
  rw [← List.drop_eq_getElem_cons hi, List.take_append_drop]

/-- An atomic event is a run of single steps: the call runs alone to its end. -/
theorem Sys.star_of_nextAtomic {s s' : Sys} {e : Event} (h : s.nextAtomic e = some s') :
    Relation.ReflTransGen Sys.Step s s' := by
  cases e with
  | step i =>
    obtain ⟨pc, q, hpc, hq, rfl⟩ := Sys.nextAtomic_step_eq_some h
    have := Sys.solo (s.threads.take i) (s.threads.drop (i + 1)) s.started s.stalled pc _ _ hq
    rwa [← List.eq_take_cons_drop hpc] at this
  | trigger job => exact .single ⟨.trigger job, h⟩
  | work => exact .single ⟨.work, h⟩
  | complete i result => exact .single ⟨.complete i result, h⟩
  | stop => exact .single ⟨.stop, h⟩

theorem Reachable.star {s s' : Sys} (h : Reachable s) (hs : Relation.ReflTransGen Sys.Step s s') :
    Reachable s' := by
  induction hs with
  | refl => exact h
  | tail _ hstep ih => obtain ⟨e, he⟩ := hstep; exact ih.next e he

/-- Every state reached with atomic calls is reached by some interleaving. -/
theorem AtomicReachable.reachable {s : Sys} (h : AtomicReachable s) : Reachable s := by
  induction h with
  | init m n => exact .init m n
  | next e _ he ih => exact ih.star (Sys.star_of_nextAtomic he)

end A3m.Server
