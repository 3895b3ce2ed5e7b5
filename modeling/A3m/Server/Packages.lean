/-
  A3m.Server.Packages

  `Package.create_package` and `Package.trigger_workflow` (`a3m/server/packages.py`) over
  the queue model. `create_package` checks `name` and `url`, creates the transfer and SIP
  rows, hands `trigger_workflow` to the executor and returns the package at once.
  `trigger_workflow` looks up the workflow's initiator link and calls `schedule_job` with
  the first job of a new `JobChain`: a job of the package at that link (`JobChain` is not
  among the sources; only the package and the link of its first job are used here). An
  exception raised there reaches only `trigger_workflow_done_callback`, which logs it.

  So a submission that `schedule_job` refuses has already been answered with its package:
  on a queue whose waiting queue for transfers is full, `create_package` returns the
  package and `trigger_workflow` raises `queue.Full` leaving the queue as it was
  (`create_package_returns_rejected_package`, on a queue reached by atomic calls).
-/
import A3m.Python.Builtins
import A3m.Server.Queues.Calls
import A3m.Server.Queues.Races

namespace A3m.Server

/-- `Package.create_package`: the checks of `name` and `url`; then the package, handed to
    `trigger_workflow` on the executor, is returned without waiting for it. -/
def createPackage (name url : String) (package : Package) : Except Exc Package :=
  if name = "" then .error (.valueError "No transfer name provided.")
  else if url = "" then .error (.valueError "No url provided.")
  else .ok package

/-- `Package.trigger_workflow`, given the workflow's initiator link (`none` when
    `get_initiator` finds none): `schedule_job` with the package's job at that link. -/
def triggerWorkflow (q : PackageQueue) (package : Package) (initiator : Option Link) : Outcome :=
  match initiator with
  | none => .raised (.valueError "Workflow initiator not found") q
  | some link => q.scheduleJob ⟨package, link⟩

namespace Packages

/-- A third transfer. -/
def transferC : Package := ⟨"c", .transfer⟩

/-- With one slot and one place on each waiting queue, transfer `a` is active and transfer
    `b` waits on the transfer queue, which is then full. -/
def fullTrace : List Event :=
  [.trigger Races.jobA, .step 0, .trigger Races.jobB, .step 0]

end Packages

/-- `create_package` returns a package whose first job `schedule_job` then refuses:
    `trigger_workflow` raises `queue.Full`, the queue is left as it was, and the exception
    only reaches `trigger_workflow_done_callback`. -/
theorem create_package_returns_rejected_package :
    ∃ s, AtomicReachable s ∧
      createPackage "c" "url" Packages.transferC = .ok Packages.transferC ∧
      triggerWorkflow s.queue Packages.transferC (some ⟨true⟩) = .raised .full s.queue := by
  obtain ⟨s, hs, hsd, hk, hf⟩ := exists_atomicReachable_of_run 1 1 Packages.fullTrace
    (fun s => s.queue.shutdownEvent = false ∧ "c" ∉ s.queue.activePackageKeys ∧
      queueFull s.queue.maxQueuedPackages (s.queue.waiting .transfer)) (by decide)
  refine ⟨s, hs, rfl, ?_⟩
  rcases PackageQueue.scheduleJob_cases s.queue ⟨Packages.transferC, ⟨true⟩⟩ with
    ⟨h1, -⟩ | ⟨-, h2, -⟩ | ⟨-, -, -, h3⟩ | ⟨-, -, h4, -⟩
  · simp [hsd] at h1
  · exact absurd h2 hk
  · exact h3
  · exact absurd hf h4

/-! ## Looking up an active package -/

/-- A `uuid.UUID`, by its 128-bit value. -/
structure UUID where
  int : Nat
  deriving DecidableEq, Repr

/-- A key of `active_packages` or an argument of its lookups: a `str` or a `uuid.UUID`. They
    never compare equal: `UUID.__eq__` and `str.__eq__` both return `NotImplemented` for the
    other type. -/
inductive PyKey where
  | str (s : String)
  | uuid (u : UUID)
  deriving DecidableEq, Repr

namespace PackageQueue

open A3m.Python

/-- `is_package_active(package_uuid)`, with `uuid.UUID(hex)` as `parse`: an argument that is
    not a `UUID` is converted, then looked up among the keys of `active_packages`. -/
def isPackageActive (parse : String → Except PyExc UUID) (q : PackageQueue) (packageUuid : PyKey) :
    Except PyExc Bool := do
  let key ← match packageUuid with
    | .uuid u => pure u
    | .str s => parse s
  pure ((q.activePackageKeys.map PyKey.str).contains (.uuid key))

/-- `package_queue.active_packages.get(package_id)`, the lookup of `get_package_status`. -/
def activePackagesGet (q : PackageQueue) (packageId : PyKey) : Option Package :=
  q.activePackages.find? fun p => PyKey.str p.uuid = packageId

/-- `is_package_active` never returns `True`: the converted key is a `UUID`, and every key
    is a `str`. -/
theorem isPackageActive_ne_true (parse : String → Except PyExc UUID) (q : PackageQueue)
    (packageUuid : PyKey) : q.isPackageActive parse packageUuid ≠ .ok true := by
  have hkey : ∀ u, (q.activePackageKeys.map PyKey.str).contains (.uuid u) = false := by
    simp
  cases packageUuid with
  | uuid u => simp [isPackageActive, hkey, bind, Except.bind, pure, Except.pure]
  | str s =>
    cases h : parse s <;> simp [isPackageActive, h, hkey, bind, Except.bind, pure, Except.pure]

/-- `get` finds a package of `active_packages` by its key. -/
theorem activePackagesGet_isSome {q : PackageQueue} {p : Package} (hp : p ∈ q.activePackages) :
    q.activePackagesGet (.str p.uuid) ≠ none := by
  rw [activePackagesGet, Ne, List.find?_eq_none]
  exact fun h => h p hp (by simp)

end PackageQueue

/-- The two active-package lookups disagree on every active package: `get` finds it by its
    id, and `is_package_active` returns `True` for no argument, whether a `str` or a
    `UUID`. -/
theorem isPackageActive_disagrees_with_get (parse : String → Except A3m.Python.PyExc UUID)
    (q : PackageQueue) {p : Package} (hp : p ∈ q.activePackages) :
    q.activePackagesGet (.str p.uuid) ≠ none ∧
      ∀ packageUuid, q.isPackageActive parse packageUuid ≠ .ok true :=
  ⟨PackageQueue.activePackagesGet_isSome hp, PackageQueue.isPackageActive_ne_true parse q⟩

namespace Packages

/-- A transfer with a `str(uuid4())` key. -/
def transferU : Package := ⟨"1b4e28ba-2fa1-11d2-883f-0016d3cca427", .transfer⟩

/-- A `uuid.UUID` that reads that key as its value. -/
def parseTransferU (_ : String) : Except A3m.Python.PyExc UUID :=
  .ok ⟨0x1b4e28ba2fa111d2883f0016d3cca427⟩

end Packages

/-- Activated through `activate_package`, the transfer is found by `get` and not by
    `is_package_active`. -/
theorem isPackageActive_disagrees_with_get_activated :
    Packages.transferU ∈ ((PackageQueue.init 1 1).activatePackage Packages.transferU).activePackages ∧
      ((PackageQueue.init 1 1).activatePackage Packages.transferU).activePackagesGet
          (.str Packages.transferU.uuid) ≠ none ∧
      ∀ packageUuid, ((PackageQueue.init 1 1).activatePackage Packages.transferU).isPackageActive
          Packages.parseTransferU packageUuid ≠ .ok true :=
  have hp : Packages.transferU ∈
      ((PackageQueue.init 1 1).activatePackage Packages.transferU).activePackages := by decide
  ⟨hp, isPackageActive_disagrees_with_get Packages.parseTransferU _ hp⟩

end A3m.Server
