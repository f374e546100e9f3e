import AclOperator.Controller.System
import AclOperator.Health.Checker

/-! The two controllers with their health checker, which erase to the passes without it; a
failing liveness probe passes again only after a recorded reconcile. -/
namespace AclOperator

/-- A pass with the health checker: the store requests, lifted, and the calls on the checker. -/
abbrev WithHealth := StateT Checker (StateM Cluster)

/-! ### The config controller -/

namespace NamespaceRBACConfigReconciler
variable (re : Regexp) (mgr : Manager)

/-- `Reconcile` with its calls on the health checker at clock reading `clock`. -/
def reconcileWithHealth (clock now : Nat) (name : String) :
    WithHealth (Result × Except GoError Unit) := do
  match ← (Client.getConfig name : StateM Cluster _) with
  | .error .notFound => return ({}, .ok ())
  | .error e =>
    modify (·.setHealthy clock false)
    return ({}, .error (.status e))
  | .ok config =>
    if config.metadata.deletionTimestamp.isSome then handleDeletion (m := StateM Cluster) config
    else if !containsFinalizer config finalizerName then
      match ← (Client.updateConfig (addFinalizer config finalizerName) : StateM Cluster _) with
      | .error e => return ({}, .error (.status e))
      | .ok () => return ({ requeue := true }, .ok ())
    else
      let config := markProgressing now config
      match validateConfig re config with
      | .error e =>
        modify (·.setHealthy clock false)
        updateStatus (m := StateM Cluster) (markValidationFailed now e config)
      | .ok () =>
        match ← reconcileRBAC (m := StateM Cluster) re mgr config with
        | .error e =>
          modify (·.setHealthy clock false)
          updateStatus (m := StateM Cluster) (markReconcileFailed now e config)
        | .ok appliedNamespaces =>
          modify (·.recordReconcile clock)
          updateStatus (m := StateM Cluster) (markReconciled now appliedNamespaces config)

theorem reconcileWithHealth_erases (clock now : Nat) (name : String) :
    Erases (reconcileWithHealth re mgr clock now name) (reconcile re mgr now name) := by
  refine .bind (.lift _) fun r => ?_
  rcases r with e | config
  · cases e
    case notFound => exact .pure _
    all_goals exact .modify_bind _ (.pure _)
  show Erases _ (reconcileFetched re mgr now config)
  unfold reconcileFetched
  dsimp only
  split_ifs
  · exact .lift _
  · exact .bind (.lift _) fun r => by rcases r with _ | ⟨⟩ <;> exact .pure _
  · cases validateConfig re (markProgressing now config)
    · exact .modify_bind _ (.lift _)
    · exact .bind (.lift _) fun r => by rcases r with _ | _ <;> exact .modify_bind _ (.lift _)

theorem reconcileWithHealth_checker (clock now : Nat) (name : String) (c : Cluster)
    (ck : Checker) :
    (((reconcileWithHealth re mgr clock now name).run ck).run c).1.2 =
      match Operator.passEnding re mgr now name c with
      | some true => ck.recordReconcile clock
      | some false => ck.setHealthy clock false
      | none =>
        match c.getConfig name with
        | .error .notFound | .ok _ => ck
        | .error _ => ck.setHealthy clock false := by
  unfold reconcileWithHealth Operator.passEnding
  rw [run_lift_bind,
    show (Client.getConfig name : StateM Cluster _).run c = (c.getConfig name, c) from rfl]
  rcases c.getConfig name with e | config
  · cases e <;> rfl
  · dsimp only
    cases hdel : config.metadata.deletionTimestamp with
    | some t => simp only [Option.isSome_some, if_true, reduceCtorEq, false_and, if_false]; rfl
    | none =>
    cases hfin : containsFinalizer config finalizerName
    · simp only [Option.isSome_none, Bool.not_false, if_true, Bool.false_eq_true, if_false, and_false]
      rw [run_lift_bind]
      rcases (Client.updateConfig (addFinalizer config finalizerName) : StateM Cluster _).run c with
        ⟨_ | ⟨⟩, _⟩ <;> rfl
    · simp only [Option.isSome_none, Bool.not_true, Bool.false_eq_true, if_false, and_self, if_true,
        passSucceeds, validateConfig_markProgressing]
      cases validateConfig re config
      · rfl
      · rw [run_lift_bind]
        rcases (reconcileRBAC (m := StateM Cluster) re mgr (markProgressing now config)).run c with
          ⟨_ | _, c₁⟩ <;> rfl

end NamespaceRBACConfigReconciler

/-! ### The namespace controller -/

namespace NamespaceReconciler
variable (re : Regexp) (mgr : Manager)

/-- `handleNamespaceCreateOrUpdate` with its calls on the health checker. -/
def handleNamespaceCreateOrUpdateWithHealth (clock : Nat) (ns : Namespace) :
    WithHealth (Result × Except GoError Unit) := do
  match ← (Client.listConfigs : StateM Cluster _) with
  | .error e =>
    modify (·.setHealthy clock false)
    return ({}, .error (.status e))
  | .ok configs =>
    (configs.forM fun config => do
      match namespaceMatches re ns config.spec.namespaceSelector with
      | .error _ => pure ()
      | .ok true => let _ ← applyRBACForNamespace mgr ns config
      | .ok false => let _ ← cleanupRBACForNamespace ns.metadata.name config : StateM Cluster PUnit)
    modify (·.recordReconcile clock)
    return ({}, .ok ())

/-- `handleNamespaceDeletion` with its calls on the health checker. -/
def handleNamespaceDeletionWithHealth (clock : Nat) (namespaceName : String) :
    WithHealth (Result × Except GoError Unit) := do
  match ← (Client.listConfigs : StateM Cluster _) with
  | .error e =>
    modify (·.setHealthy clock false)
    return ({}, .error (.status e))
  | .ok configs =>
    (configs.forM fun config => do
      let _ ← cleanupRBACForNamespace namespaceName config : StateM Cluster PUnit)
    modify (·.recordReconcile clock)
    return ({}, .ok ())

/-- `Reconcile` with its calls on the health checker, at clock reading `clock`. -/
def reconcileWithHealth (clock : Nat) (name : String) : WithHealth (Result × Except GoError Unit) := do
  match ← (Client.getNamespace name : StateM Cluster _) with
  | .error .notFound => handleNamespaceDeletionWithHealth clock name
  | .error e =>
    modify (·.setHealthy clock false)
    return ({}, .error (.status e))
  | .ok ns => handleNamespaceCreateOrUpdateWithHealth re mgr clock ns

theorem reconcileWithHealth_erases (clock : Nat) (name : String) :
    Erases (reconcileWithHealth re mgr clock name) (reconcile re mgr name) := by
  refine .bind (.lift _) fun r => ?_
  rcases r with e | ns
  · cases e
    case notFound =>
      refine .bind (.lift _) fun r => ?_
      rcases r with _ | configs
      · exact .modify_bind _ (.pure _)
      · exact .bind (.lift _) fun _ => .modify_bind _ (.pure _)
    all_goals exact .modify_bind _ (.pure _)
  · refine .bind (.lift _) fun r => ?_
    rcases r with _ | configs
    · exact .modify_bind _ (.pure _)
    · exact .bind (.lift _) fun _ => .modify_bind _ (.pure _)

theorem reconcileWithHealth_checker (clock : Nat) (name : String) (c : Cluster) (ck : Checker) :
    (((reconcileWithHealth re mgr clock name).run ck).run c).1.2 =
      match c.getNamespace name, c.listConfigs with
      | .error .notFound, .ok _ | .ok _, .ok _ => ck.recordReconcile clock
      | _, _ => ck.setHealthy clock false := by
  unfold reconcileWithHealth
  rw [run_lift_bind,
    show (Client.getNamespace name : StateM Cluster _).run c = (c.getNamespace name, c) from rfl]
  rcases c.getNamespace name with e | ns
  · cases e
    case notFound =>
      unfold handleNamespaceDeletionWithHealth
      rw [run_lift_bind,
        show (Client.listConfigs : StateM Cluster _).run c = (c.listConfigs, c) from rfl]
      rcases c.listConfigs with _ | _ <;> rfl
    all_goals rcases c.listConfigs with _ | _ <;> rfl
  · unfold handleNamespaceCreateOrUpdateWithHealth
    rw [run_lift_bind,
      show (Client.listConfigs : StateM Cluster _).run c = (c.listConfigs, c) from rfl]
    rcases c.listConfigs with _ | _ <;> rfl

end NamespaceReconciler

/-! ### The operator with its checker -/

namespace Operator
variable (re : Regexp) (mgr : Manager)

/-- One event served at clock reading `clock`; only the passes call the checker. -/
def stepWithHealth (s : Cluster × Checker) : Nat × Event → Cluster × Checker
  | (clock, .reconcileConfig now name) =>
    let r :=
      ((NamespaceRBACConfigReconciler.reconcileWithHealth re mgr clock now name).run s.2).run s.1
    (r.2, r.1.2)
  | (clock, .reconcileNamespace name) =>
    let r := ((NamespaceReconciler.reconcileWithHealth re mgr clock name).run s.2).run s.1
    (r.2, r.1.2)
  | (_, e) => (step re mgr s.1 e, s.2)

/-- The store and the checker after a run of events, each with its clock reading. -/
def runWithHealth (s : Cluster × Checker) (events : List (Nat × Event)) : Cluster × Checker :=
  events.foldl (stepWithHealth re mgr) s

theorem stepWithHealth_cluster (s : Cluster × Checker) (te : Nat × Event) :
    (stepWithHealth re mgr s te).1 = step re mgr s.1 te.2 := by
  obtain ⟨clock, e⟩ := te
  cases e with
  | reconcileConfig now name =>
    exact congrArg Prod.snd
      (NamespaceRBACConfigReconciler.reconcileWithHealth_erases re mgr clock now name s.2 s.1)
  | reconcileNamespace name =>
    exact congrArg Prod.snd (NamespaceReconciler.reconcileWithHealth_erases re mgr clock name s.2 s.1)
  | _ => rfl

/-- Whether the event, served from store `c`, has a controller record a reconcile. -/
def recordsReconcile (c : Cluster) : Nat × Event → Bool
  | (_, .reconcileConfig now name) => passEnding re mgr now name c == some true
  | (_, .reconcileNamespace name) =>
    (match c.getNamespace name with
     | .error .notFound | .ok _ => true
     | .error _ => false) && c.listConfigs.toBool
  | _ => false

theorem stepWithHealth_checker (s : Cluster × Checker) (te : Nat × Event) :
    (recordsReconcile re mgr s.1 te = true →
      (stepWithHealth re mgr s te).2 = s.2.recordReconcile te.1) ∧
    (recordsReconcile re mgr s.1 te = false →
      (stepWithHealth re mgr s te).2 = s.2 ∨
        (stepWithHealth re mgr s te).2 = s.2.setHealthy te.1 false) := by
  obtain ⟨c, ck⟩ := s
  obtain ⟨clock, e⟩ := te
  cases e with
  | reconcileConfig now name =>
    rw [show (stepWithHealth re mgr (c, ck) (clock, .reconcileConfig now name)).2 =
      (((NamespaceRBACConfigReconciler.reconcileWithHealth re mgr clock now name).run ck).run
        c).1.2 from rfl, NamespaceRBACConfigReconciler.reconcileWithHealth_checker]
    simp only [recordsReconcile]
    rcases passEnding re mgr now name c with _ | _ | _
    · rcases c.getConfig name with (_ | _) | _ <;> simp
    all_goals simp
  | reconcileNamespace name =>
    rw [show (stepWithHealth re mgr (c, ck) (clock, .reconcileNamespace name)).2 =
      (((NamespaceReconciler.reconcileWithHealth re mgr clock name).run ck).run c).1.2 from rfl,
      NamespaceReconciler.reconcileWithHealth_checker]
    simp only [recordsReconcile]
    rcases c.getNamespace name with (_ | _) | _ <;> rcases c.listConfigs with _ | _ <;>
      simp [Except.toBool]
  | _ => simp [recordsReconcile, stepWithHealth]

/-- A config pass that writes its status tells `Ready` and the health checker the same outcome. -/
theorem ready_condition_agrees_with_checker (s : Cluster × Checker) (clock now : Nat)
    (name : String) (hc : ConditionsInvariant s.1) {succeeded : Bool}
    (hend : passEnding re mgr now name s.1 = some succeeded)
    (hf : s.1.faults.updateStatus ⟨"", name⟩ = none) :
    ∃ status,
      configStatus (stepWithHealth re mgr s (clock, .reconcileConfig now name)).1 name =
        some status ∧
      conditionStatus status.conditions conditionTypeReady =
        some (if succeeded then .true else .false) ∧
      (stepWithHealth re mgr s (clock, .reconcileConfig now name)).2 =
        if succeeded then s.2.recordReconcile clock else s.2.setHealthy clock false := by
  obtain ⟨status, hs, -, hready⟩ :=
    (reconcileConfig_recorded re mgr now name hc).recorded succeeded hend hf
  refine ⟨status, (stepWithHealth_cluster re mgr s _).symm ▸ hs, hready, ?_⟩
  show (((NamespaceRBACConfigReconciler.reconcileWithHealth re mgr clock now name).run s.2).run
    s.1).1.2 = _
  rw [NamespaceRBACConfigReconciler.reconcileWithHealth_checker, hend]
  cases succeeded <;> rfl

/-- Config `dev`, valid and finalized: the pass stores `Ready` true and records a reconcile. -/
theorem ready_condition_agrees_with_checker_dev :
    let re : Regexp := ⟨fun _ => none, fun _ _ => false⟩
    let mgr : Manager := ⟨⟨fun _ => none, fun _ text _ => .ok text⟩, {}⟩
    let dev : NamespaceRBACConfig :=
      { metadata := { name := "dev", finalizers := [finalizerName], resourceVersion := 1 }
        spec := { rbacTemplates := { roles := [{ name := "viewer", rules := [] }] } } }
    let s : Cluster × Checker :=
      ({ Cluster.empty with
          configs := [dev]
          namespaces := [⟨{ name := "team-a" }⟩]
          revision := 1 }, Checker.newChecker 0)
    ConditionsInvariant s.1 ∧ passEnding re mgr 5 "dev" s.1 = some true ∧
      s.1.faults.updateStatus ⟨"", "dev"⟩ = none ∧
      ∃ status,
        configStatus (stepWithHealth re mgr s (7 * Checker.second, .reconcileConfig 5 "dev")).1
          "dev" = some status ∧
        conditionStatus status.conditions conditionTypeReady = some .true ∧
        (stepWithHealth re mgr s (7 * Checker.second, .reconcileConfig 5 "dev")).2 =
          s.2.recordReconcile (7 * Checker.second) := by
  intro re mgr dev s
  have hc : ConditionsInvariant s.1 := by
    intro x hx
    obtain rfl := List.mem_singleton.mp hx
    exact .inl rfl
  have hend : passEnding re mgr 5 "dev" s.1 = some true := by decide
  exact ⟨hc, hend, rfl, ready_condition_agrees_with_checker re mgr s _ 5 "dev" hc hend rfl⟩

/-- A failing liveness probe passes again only after an event of the run recorded a reconcile. -/
theorem liveness_needs_recorded_reconcile (s : Cluster × Checker) (events : List (Nat × Event))
    {t : Nat} (h : (runWithHealth re mgr s events).2.livenessCheck t = .ok ()) :
    s.2.livenessCheck t = .ok () ∨
      ∃ pre te post, events = pre ++ te :: post ∧
        recordsReconcile re mgr (runWithHealth re mgr s pre).1 te = true ∧
        t ≤ te.1 / Checker.second * Checker.second + 300 * Checker.second := by
  induction events generalizing s with
  | nil => exact .inl h
  | cons te rest ih =>
    rcases ih (stepWithHealth re mgr s te) h with h' | ⟨pre, te', post, rfl, hrec, ht⟩
    · have hstep := stepWithHealth_checker re mgr s te
      cases hrec : recordsReconcile re mgr s.1 te
      · rcases hstep.2 hrec with heq | heq <;> rw [heq] at h'
        · exact .inl h'
        · simp [Checker.livenessCheck_eq_ok_iff, Checker.isHealthy] at h'
      · rw [hstep.1 hrec, Checker.livenessCheck_eq_ok_iff, Checker.isHealthy_recordReconcile] at h'
        exact .inr ⟨[], te, rest, rfl, hrec, h'⟩
    · exact .inr ⟨te :: pre, te', post, rfl, hrec, ht⟩

/-- A namespace pass on `team-a` at second 2 brings an unhealthy checker's probe back. -/
theorem liveness_needs_recorded_reconcile_teamA :
    let re : Regexp := ⟨fun _ => none, fun _ _ => false⟩
    let mgr : Manager := ⟨⟨fun _ => none, fun _ text _ => .ok text⟩, {}⟩
    let s : Cluster × Checker := (Cluster.empty, { Checker.newChecker 0 with healthy := false })
    let events := [(Checker.second, Event.putNamespace ⟨{ name := "team-a" }⟩),
      (2 * Checker.second, .reconcileNamespace "team-a")]
    (runWithHealth re mgr s events).2.livenessCheck (100 * Checker.second) = .ok () ∧
      (s.2.livenessCheck (100 * Checker.second) = .ok () ∨
        ∃ pre te post, events = pre ++ te :: post ∧
          recordsReconcile re mgr (runWithHealth re mgr s pre).1 te = true ∧
          100 * Checker.second ≤ te.1 / Checker.second * Checker.second + 300 * Checker.second) := by
  intro re mgr s events
  have h : (runWithHealth re mgr s events).2.livenessCheck (100 * Checker.second) = .ok () :=
    (Checker.livenessCheck_eq_ok_iff _ _).mpr (by decide)
  exact ⟨h, liveness_needs_recorded_reconcile re mgr s events h⟩

end Operator

end AclOperator
