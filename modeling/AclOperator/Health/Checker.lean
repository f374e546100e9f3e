import Mathlib.Data.Nat.Defs

/-! The health checker (`pkg/health`): two flags and the Unix second of the last reconcile, read
by the liveness and readiness probes; clock readings are Unix nanoseconds. -/
namespace AclOperator

/-- `Checker`; the atomic flags are Bools, and `lastReconcile` is in Unix seconds. -/
structure Checker where
  ready : Bool
  healthy : Bool
  lastReconcile : Nat
  deriving DecidableEq, Repr

namespace Checker

/-- `time.Second`, in nanoseconds. -/
def second : Nat := 1000000000

/-- `time.Now().Unix()` at clock reading `now`. -/
def unixSeconds (now : Nat) : Nat := now / second

/-- `NewChecker`: healthy, not ready. -/
def newChecker (now : Nat) : Checker :=
  { ready := false, healthy := true, lastReconcile := unixSeconds now }

variable (ck : Checker)

def setReady (ready : Bool) : Checker := { ck with ready := ready }

/-- `SetHealthy`: marking healthy also stamps the reconcile time. The metric is left out. -/
def setHealthy (now : Nat) (healthy : Bool) : Checker :=
  if healthy then { ck with healthy := true, lastReconcile := unixSeconds now }
  else { ck with healthy := false }

/-- `RecordReconcile`. The metric is left out. -/
def recordReconcile (now : Nat) : Checker :=
  { ck with lastReconcile := unixSeconds now, healthy := true }

def isReady : Bool := ck.ready

/-- `IsHealthy` at clock reading `now`: marked healthy and reconciled within five minutes. -/
def isHealthy (now : Nat) : Bool :=
  ck.healthy && !decide (now - ck.lastReconcile * second > 5 * 60 * second)

def livenessCheck (now : Nat) : Except String Unit :=
  if !ck.isHealthy now then .error "operator unhealthy" else .ok ()

def readinessCheck (now : Nat) : Except String Unit :=
  if !ck.isReady || !ck.isHealthy now then .error "operator not ready" else .ok ()

@[simp] theorem recordReconcile_healthy (now : Nat) : (ck.recordReconcile now).healthy = true :=
  rfl

@[simp] theorem recordReconcile_lastReconcile (now : Nat) :
    (ck.recordReconcile now).lastReconcile = unixSeconds now := rfl

@[simp] theorem setHealthy_false (now : Nat) : ck.setHealthy now false = { ck with healthy := false } :=
  rfl

theorem livenessCheck_eq_ok_iff (now : Nat) : ck.livenessCheck now = .ok () ↔ ck.isHealthy now := by
  unfold livenessCheck
  cases ck.isHealthy now <;> simp

theorem isHealthy_iff (now : Nat) :
    ck.isHealthy now ↔ ck.healthy ∧ now ≤ ck.lastReconcile * second + 300 * second := by
  unfold isHealthy
  cases ck.healthy <;> simp only [Bool.false_and, Bool.true_and, Bool.not_eq_true',
    decide_eq_false_iff_not, gt_iff_lt, not_lt, true_and, false_and, Bool.false_eq_true]
  omega

theorem isHealthy_recordReconcile (now t : Nat) :
    (ck.recordReconcile now).isHealthy t ↔ t ≤ now / second * second + 300 * second := by
  simp [isHealthy_iff, unixSeconds]

end Checker

end AclOperator
