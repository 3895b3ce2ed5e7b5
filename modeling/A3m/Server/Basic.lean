/-
  A3m.Server.Basic

  The objects the package queue of `a3m/server/queues.py` handles: packages, workflow
  links, jobs, what `Job.run` hands back through its future, and the exceptions the queue
  raises or re-raises.

  The queue sees a package through two things only: its key `package.uuid` (the SIP
  primary key, `str(uuid4())` in `Package.create_package`) and its class, which picks the
  waiting queue through the `isinstance` tests of `_put_package_nowait` and labels
  `package_queue_length_gauge` through `package.__class__.__name__`. A job is seen through
  its package and whether its link is terminal.
-/
import Mathlib.Data.List.Basic

namespace A3m.Server

/-- The package classes of `a3m/server/packages.py`: `Package` and its subclasses
    `SIPDIP`, `DIP`, `Transfer` and `SIP`. -/
inductive PackageClass where
  | package
  | sipdip
  | dip
  | transfer
  | sip
  deriving DecidableEq, Repr

/-- `cls.__name__`, the `package_type` label of `package_queue_length_gauge`. -/
def PackageClass.name : PackageClass → String
  | .package => "Package"
  | .sipdip => "SIPDIP"
  | .dip => "DIP"
  | .transfer => "Transfer"
  | .sip => "SIP"

/-- A package as the queue reads it: `package.uuid` and `package.__class__`. -/
structure Package where
  uuid : String
  cls : PackageClass
  deriving DecidableEq, Repr

/-- A workflow link as the queue reads it: `link.is_terminal`. -/
structure Link where
  isTerminal : Bool
  deriving DecidableEq, Repr

/-- A job as the queue reads it: `job.package` and `job.link`. -/
structure Job where
  package : Package
  link : Link
  deriving DecidableEq, Repr

/-- What `future.result()` gives for a submitted `job.run`: `None`, the next job to
    schedule, or the exception `run` raised, which `result()` raises again. -/
inductive RunResult where
  | none
  | next (job : Job)
  | raised
  deriving DecidableEq, Repr

/-- The exceptions of the modelled code: `RuntimeError` and `ValueError` with their
    messages, `queue.Full`, and the exception of a failed `Job.run` that
    `future.result()` raises again in a completion callback. -/
inductive Exc where
  | runtimeError (msg : String)
  | valueError (msg : String)
  | full
  | runError
  deriving DecidableEq, Repr

end A3m.Server
