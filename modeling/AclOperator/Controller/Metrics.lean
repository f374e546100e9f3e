import AclOperator.Controller.ConfigReconciler
import AclOperator.Rbac.Metrics

/-! The metrics the config controller records itself: the reconciler's health gauge, the managed
namespaces, and in the deferred call the active configs and the reconciliation. -/
namespace AclOperator

def setOperatorHealth (component : String) (healthy : Bool) : WithMetrics Unit :=
  modify (· ++ [.operatorHealth component healthy])

def updateManagedNamespaces (config : String) (count : Nat) : WithMetrics Unit :=
  modify (· ++ [.managedNamespaces config count])

/-- `ActiveConfigs.Set`. -/
def setActiveConfigs (count : Nat) : WithMetrics Unit :=
  modify (· ++ [.activeConfigs count])

/-- `RecordReconciliation`: the total under the result label; timings and error kinds left out. -/
def recordReconciliation (config controller : String) (err : Except GoError Unit) :
    WithMetrics Unit :=
  modify (· ++ [.reconciliation config controller (resultLabel err)])

namespace NamespaceRBACConfigReconciler
variable (re : Regexp) (mgr : Manager)

/-- `Reconcile` on a fetched config with its metrics, and the value its `err` is left with. -/
def reconcileFetchedWithMetrics (now : Nat) (config : NamespaceRBACConfig) :
    WithMetrics ((Result × Except GoError Unit) × Except GoError Unit) := do
  if config.metadata.deletionTimestamp.isSome then
    return (← handleDeletion (m := StateM Cluster) config, .ok ())
  else if !containsFinalizer config finalizerName then
    match ← (Client.updateConfig (addFinalizer config finalizerName) : StateM Cluster _) with
    | .error e => return (({}, .error (.status e)), .ok ())
    | .ok () => return (({ requeue := true }, .ok ()), .ok ())
  else
    let config := markProgressing now config
    match validateConfig re config with
    | .error e =>
      setOperatorHealth "reconciler" false
      return (← updateStatus (m := StateM Cluster) (markValidationFailed now e config), .ok ())
    | .ok () =>
      match ← reconcileRBAC (m := StateM Cluster) re mgr config with
      | .error e =>
        setOperatorHealth "reconciler" false
        return (← updateStatus (m := StateM Cluster) (markReconcileFailed now e config), .error e)
      | .ok appliedNamespaces =>
        updateManagedNamespaces config.metadata.name appliedNamespaces.length
        setOperatorHealth "reconciler" true
        return (← updateStatus (m := StateM Cluster) (markReconciled now appliedNamespaces config),
          .ok ())

/-- The deferred call of `Reconcile`: the active configs, then the reconciliation under `err`. -/
def recordDeferred (config : String) (err : Except GoError Unit) : WithMetrics Unit := do
  match ← (Client.listConfigs : StateM Cluster _) with
  | .ok configs => setActiveConfigs configs.length
  | .error _ => pure ()
  recordReconciliation config "NamespaceRBACConfig" err

/-- `Reconcile` with the metrics it records itself. -/
def reconcileWithMetrics (now : Nat) (name : String) :
    WithMetrics (Result × Except GoError Unit) := do
  match ← (Client.getConfig name : StateM Cluster _) with
  | .error .notFound => return ({}, .ok ())
  | .error e =>
    setOperatorHealth "reconciler" false
    recordReconciliation name "NamespaceRBACConfig" (.error (.status e))
    return ({}, .error (.status e))
  | .ok config =>
    let (result, err) ← reconcileFetchedWithMetrics re mgr now config
    recordDeferred config.metadata.name err
    return result

/-- Whether a pass on `config` from store `c` gets to `reconcileRBAC` and that fails. -/
def rbacFailed (now : Nat) (config : NamespaceRBACConfig) (c : Cluster) : Bool :=
  config.metadata.deletionTimestamp.isNone && containsFinalizer config finalizerName &&
    (validateConfig re config).toBool &&
    !((reconcileRBAC (m := StateM Cluster) re mgr (markProgressing now config)).run c).1.toBool

private theorem run_bind_state {α β : Type} (q : StateM Cluster α) (f : α → StateM Cluster β)
    (c : Cluster) : (q >>= f).run c = (f (q.run c).1).run (q.run c).2 := rfl

theorem reconcileFetchedWithMetrics_run (now : Nat) (config : NamespaceRBACConfig)
    (log : Metrics) (c : Cluster) :
    ∃ err new, ((reconcileFetchedWithMetrics re mgr now config).run log).run c =
        (((((reconcileFetched (m := StateM Cluster) re mgr now config).run c).1, err),
          log ++ new), ((reconcileFetched (m := StateM Cluster) re mgr now config).run c).2) ∧
      resultLabel err = if rbacFailed re mgr now config c then "error" else "success" := by
  unfold reconcileFetchedWithMetrics reconcileFetched rbacFailed
  cases hdel : config.metadata.deletionTimestamp with
  | some t => exact ⟨.ok (), [], by simp only [Option.isSome_some, if_true, List.append_nil]; rfl,
      by simp [resultLabel]⟩
  | none =>
  cases hfin : containsFinalizer config finalizerName
  case false =>
    simp only [Option.isSome_none, Bool.not_false, if_true, Bool.false_eq_true, if_false]
    rw [run_lift_bind, run_bind_state]
    rcases (Client.updateConfig (addFinalizer config finalizerName) : StateM Cluster _).run c with
      ⟨_ | ⟨⟩, _⟩ <;>
      exact ⟨.ok (), [], by rw [List.append_nil]; rfl, by simp [resultLabel, hfin]⟩
  case true =>
  simp only [Option.isSome_none, Bool.not_true, Bool.false_eq_true, if_false,
    validateConfig_markProgressing]
  cases hv : validateConfig re config
  case error e =>
    exact ⟨.ok (), [.operatorHealth "reconciler" false], rfl,
      by simp [resultLabel, hv, Except.toBool]⟩
  case ok =>
  rw [run_lift_bind, run_bind_state]
  rcases hr : (reconcileRBAC (m := StateM Cluster) re mgr (markProgressing now config)).run c with
    ⟨e | appliedNamespaces, c₁⟩
  · exact ⟨.error e, [.operatorHealth "reconciler" false], rfl,
      by simp [resultLabel, hfin, hv, hr, Except.toBool]⟩
  · refine ⟨.ok (), [.managedNamespaces config.metadata.name appliedNamespaces.length,
      .operatorHealth "reconciler" true], ?_, by simp [resultLabel, hfin, hv, hr, Except.toBool]⟩
    rw [← List.singleton_append, ← List.append_assoc]
    rfl

theorem recordDeferred_run (config : String) (err : Except GoError Unit) (log : Metrics)
    (c : Cluster) : ∃ new, ((recordDeferred config err).run log).run c =
      (((), log ++ new ++ [.reconciliation config "NamespaceRBACConfig" (resultLabel err)]), c) := by
  unfold recordDeferred
  rw [run_lift_bind,
    show (Client.listConfigs : StateM Cluster _).run c = (c.listConfigs, c) from rfl]
  rcases c.listConfigs with _ | configs
  · exact ⟨[], by rw [List.append_nil]; rfl⟩
  · exact ⟨[.activeConfigs configs.length], rfl⟩

theorem reconcileWithMetrics_erases (now : Nat) (name : String) :
    Erases (reconcileWithMetrics re mgr now name) (reconcile re mgr now name) := by
  refine .bind (.lift _) fun r => ?_
  rcases r with e | config
  · cases e
    case notFound => exact .pure _
    all_goals exact .modify_bind _ (.modify_bind _ (.pure _))
  intro log c
  obtain ⟨err, new, h, -⟩ := reconcileFetchedWithMetrics_run re mgr now config log c
  obtain ⟨new', h'⟩ := recordDeferred_run config.metadata.name err (log ++ new)
    ((reconcileFetched (m := StateM Cluster) re mgr now config).run c).2
  simp only [run_bind_of_run h, run_bind_of_run h']
  rfl

/-- A config pass counts an error exactly when `reconcileRBAC` failed, whatever it returns. -/
theorem reconcile_records_rbac_failure (now : Nat) (name : String) (c : Cluster)
    (log : Metrics) {config : NamespaceRBACConfig} (hget : c.getConfig name = .ok config) :
    Erases (reconcileWithMetrics re mgr now name) (reconcile re mgr now name) ∧
      ∃ new, (((reconcileWithMetrics re mgr now name).run log).run c).1.2 =
        log ++ new ++ [.reconciliation name "NamespaceRBACConfig"
          (if rbacFailed re mgr now config c then "error" else "success")] := by
  refine ⟨reconcileWithMetrics_erases re mgr now name, ?_⟩
  have hname := c.findConfig_name (c.findConfig_of_getConfig hget)
  obtain ⟨err, new, h, hlabel⟩ := reconcileFetchedWithMetrics_run re mgr now config log c
  obtain ⟨new', h'⟩ := recordDeferred_run config.metadata.name err (log ++ new)
    ((reconcileFetched (m := StateM Cluster) re mgr now config).run c).2
  refine ⟨new ++ new', ?_⟩
  unfold reconcileWithMetrics
  rw [run_lift_bind, show (Client.getConfig name : StateM Cluster _).run c = (c.getConfig name, c)
    from rfl, hget]
  simp only [run_bind_of_run h, run_bind_of_run h']
  simp [hname, hlabel]

/-- Config `dev` whose status write is refused: the pass returns an error, counted a success. -/
theorem reconcile_records_rbac_failure_dev :
    let re : Regexp := ⟨fun _ => none, fun _ _ => false⟩
    let mgr : Manager := ⟨⟨fun _ => none, fun _ text _ => .ok text⟩, {}⟩
    let dev : NamespaceRBACConfig :=
      { metadata := { name := "dev", finalizers := [finalizerName], resourceVersion := 1 }
        spec := { rbacTemplates := { roles := [{ name := "viewer", rules := [] }] } } }
    let c : Cluster :=
      { Cluster.empty with
          configs := [dev]
          revision := 1
          faults := { updateStatus := fun _ => some "etcdserver: request timed out" } }
    c.getConfig "dev" = .ok dev ∧
      ((reconcile (m := StateM Cluster) re mgr 5 "dev").run c).1.2.toBool = false ∧
      rbacFailed re mgr 5 dev c = false ∧
      (Erases (reconcileWithMetrics re mgr 5 "dev") (reconcile re mgr 5 "dev") ∧
        ∃ new, (((reconcileWithMetrics re mgr 5 "dev").run []).run c).1.2 =
          [] ++ new ++ [.reconciliation "dev" "NamespaceRBACConfig"
            (if rbacFailed re mgr 5 dev c then "error" else "success")]) :=
  ⟨rfl, rfl, rfl, reconcile_records_rbac_failure _ _ 5 "dev" _ [] rfl⟩

end NamespaceRBACConfigReconciler

end AclOperator
