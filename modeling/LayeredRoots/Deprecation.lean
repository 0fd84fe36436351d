/-! # Deprecated lookups

    Asking for a directory instead of a file still works but is deprecated.
    A log remembers which resources were asked for that way and decides how
    often to complain:

    - `once`: the first time a resource is recorded since the log was reset;
    - `always`: every time. -/

namespace LayeredRoots

/-- How often a deprecated lookup of one resource is reported. -/
inductive WarnPolicy where
  | once
  | always
  deriving DecidableEq, Repr

/-- The name of a policy in configuration files. -/
def WarnPolicy.key : WarnPolicy → String
  | once => "once"
  | always => "always"

/-- The resources whose lookup was deprecated since the last reset. -/
structure DeprecationLog where
  policy : WarnPolicy
  warned : List String
  deriving DecidableEq, Repr

namespace DeprecationLog

/-- A log without entries. -/
def fresh (policy : WarnPolicy) : DeprecationLog := ⟨policy, []⟩

/-- Whether a resource was recorded since the last reset. -/
def hasWarned (log : DeprecationLog) (resource : String) : Bool :=
  decide (resource ∈ log.warned)

/-- The log without its entries. -/
def reset (log : DeprecationLog) : DeprecationLog := { log with warned := [] }

/-- The log with one more entry. -/
def insert (log : DeprecationLog) (resource : String) : DeprecationLog :=
  if resource ∈ log.warned then log else { log with warned := resource :: log.warned }

/-- Whether recording a resource now is worth a warning. -/
def warns (log : DeprecationLog) (resource : String) : Bool :=
  match log.policy with
  | .once => !log.hasWarned resource
  | .always => true

/-- The text of the warning about a resource. -/
def warning (resource : String) : String :=
  s!"Locating a directory (e.g., '{resource}') is deprecated. " ++
    "Always request a file within the directory instead."

/-- Records deprecated lookups in order.  Second is what warnings that gives,
    named by their resources. -/
def record (log : DeprecationLog) : List String → DeprecationLog × List String
  | [] => (log, [])
  | resource :: rest =>
    let (after, warned) := (log.insert resource).record rest
    (after, if log.warns resource then resource :: warned else warned)

/-! ### Small facts -/

@[simp] theorem record_nil (log : DeprecationLog) : log.record [] = (log, []) := rfl

@[simp] theorem mem_warned_insert {log : DeprecationLog} {p q : String} :
    p ∈ (log.insert q).warned ↔ p = q ∨ p ∈ log.warned := by
  unfold insert
  split <;> simp_all

@[simp] theorem policy_insert (log : DeprecationLog) (p : String) :
    (log.insert p).policy = log.policy := by
  unfold insert
  split <;> rfl

theorem record_append (log : DeprecationLog) (ps qs : List String) :
    log.record (ps ++ qs) =
      (((log.record ps).1.record qs).1, (log.record ps).2 ++ ((log.record ps).1.record qs).2) := by
  induction ps generalizing log with
  | nil => simp
  | cons p rest ih =>
    simp only [List.cons_append, record, ih]
    split <;> simp

end DeprecationLog
end LayeredRoots
