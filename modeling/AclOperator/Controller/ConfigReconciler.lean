import AclOperator.Utils.Helpers
import AclOperator.Rbac.ApplyRun
import AclOperator.Rbac.FailFast
import AclOperator.Controller.Conditions

/-! The NamespaceRBACConfig controller (`pkg/controller/namespacerbacconfig`): one `Reconcile`
pass on a fetched config, and the namespace watch. -/
namespace AclOperator

def finalizerName : String := "namespacerbacconfig.rbac.operator.io/finalizer"

/-- `controllerutil.ContainsFinalizer`. -/
def containsFinalizer (config : NamespaceRBACConfig) (finalizer : String) : Bool :=
  config.metadata.finalizers.contains finalizer

/-- `controllerutil.AddFinalizer`: appended unless present. -/
def addFinalizer (config : NamespaceRBACConfig) (finalizer : String) : NamespaceRBACConfig :=
  if containsFinalizer config finalizer then config
  else { config with metadata.finalizers := config.metadata.finalizers ++ [finalizer] }

/-- `controllerutil.RemoveFinalizer`: every copy dropped. -/
def removeFinalizer (config : NamespaceRBACConfig) (finalizer : String) : NamespaceRBACConfig :=
  { config with metadata.finalizers := config.metadata.finalizers.filter (· ≠ finalizer) }

@[simp] theorem addFinalizer_name (config : NamespaceRBACConfig) (finalizer : String) :
    (addFinalizer config finalizer).metadata.name = config.metadata.name := by
  unfold addFinalizer
  split <;> rfl

@[simp] theorem removeFinalizer_name (config : NamespaceRBACConfig) (finalizer : String) :
    (removeFinalizer config finalizer).metadata.name = config.metadata.name := rfl

/-- `ctrl.Result`, `RequeueAfter` in seconds. -/
structure Result where
  requeue : Bool := false
  requeueAfter : Nat := 0
  deriving DecidableEq, Repr

/-- `validateConfig`: the name pattern, if set, compiles, and some template is declared. -/
def validateConfig (re : Regexp) (config : NamespaceRBACConfig) : Except GoError Unit :=
  let templates := config.spec.rbacTemplates
  let checkTemplates : Except GoError Unit :=
    if templates.roles.length = 0 ∧ templates.clusterRoles.length = 0 ∧
        templates.roleBindings.length = 0 ∧ templates.clusterRoleBindings.length = 0 then
      .error (.msg "at least one RBAC template must be specified")
    else .ok ()
  match config.spec.namespaceSelector.nameRegex with
  | some pattern =>
    match re.compileError pattern with
    | some e => .error (.wrap "invalid nameRegex" (.msg e))
    | none => checkTemplates
  | none => checkTemplates

@[simp] theorem validateConfig_markProgressing (re : Regexp) (now : Nat)
    (config : NamespaceRBACConfig) :
    validateConfig re (markProgressing now config) = validateConfig re config := rfl

theorem namespaceMatches_ne_error_of_valid (re : Regexp) {config : NamespaceRBACConfig}
    (hv : validateConfig re config = .ok ()) (ns : Namespace) (e : GoError) :
    namespaceMatches re ns config.spec.namespaceSelector ≠ .error e := by
  intro h
  obtain ⟨-, -, hr⟩ := (namespaceMatches_eq_error_iff re ns _ e).mp h
  obtain ⟨pattern, msg, hp, -, hc, -⟩ := (nameRegexMatches_eq_error_iff re _ _ e).mp hr
  simp [validateConfig, hp, hc] at hv

namespace NamespaceRBACConfigReconciler

section Pass
variable {m : Type → Type} [Monad m] [Client m] (re : Regexp) (mgr : Manager)

/-- The loop of `reconcileRBAC`: apply to each matching namespace, stopping at a failure. -/
def applyMatching (config : NamespaceRBACConfig) :
    List Namespace → List String → m (Except GoError (List String))
  | [], appliedNamespaces => return .ok appliedNamespaces
  | ns :: rest, appliedNamespaces =>
    match namespaceMatches re ns config.spec.namespaceSelector with
    | .error _ => applyMatching config rest appliedNamespaces
    | .ok false => applyMatching config rest appliedNamespaces
    | .ok true => do
      match ← applyRBACForNamespace mgr ns config with
      | .error e =>
        return .error (.wrap ("failed to apply RBAC for namespace " ++ ns.metadata.name) e)
      | .ok () => applyMatching config rest (appliedNamespaces ++ [ns.metadata.name])

/-- `reconcileRBAC`: the names of the namespaces the config was applied to, in list order. -/
def reconcileRBAC (config : NamespaceRBACConfig) : m (Except GoError (List String)) := do
  match ← Client.listNamespaces with
  | .error e => return .error (.wrap "failed to list namespaces" (.status e))
  | .ok namespaces => applyMatching re mgr config namespaces []

/-- `cleanupRBAC`: the cleanup of every applied namespace, each failure ignored. -/
def cleanupRBAC (config : NamespaceRBACConfig) : m (Except GoError Unit) := do
  config.status.appliedNamespaces.forM fun namespaceName => do
    let _ ← cleanupRBACForNamespace namespaceName config
  return .ok ()

/-- `handleDeletion`: with the finalizer present, clean up and remove it. -/
def handleDeletion (config : NamespaceRBACConfig) : m (Result × Except GoError Unit) := do
  if containsFinalizer config finalizerName then
    match ← cleanupRBAC config with
    | .error e => return ({ requeueAfter := 60 }, .error e)
    | .ok () =>
      match ← Client.updateConfig (removeFinalizer config finalizerName) with
      | .error e => return ({}, .error (.status e))
      | .ok () => return ({}, .ok ())
  else return ({}, .ok ())

/-- `updateStatus`: a config gone meanwhile is no error. -/
def updateStatus (config : NamespaceRBACConfig) : m (Result × Except GoError Unit) := do
  match ← Client.updateConfigStatus config with
  | .error .notFound => return ({}, .ok ())
  | .error e => return ({}, .error (.status e))
  | .ok () => return ({}, .ok ())

/-- What `Reconcile` does with the config it fetched, the clock reading `now`. -/
def reconcileFetched (now : Nat) (config : NamespaceRBACConfig) :
    m (Result × Except GoError Unit) := do
  if config.metadata.deletionTimestamp.isSome then handleDeletion config
  else if !containsFinalizer config finalizerName then
    match ← Client.updateConfig (addFinalizer config finalizerName) with
    | .error e => return ({}, .error (.status e))
    | .ok () => return ({ requeue := true }, .ok ())
  else
    let config := markProgressing now config
    match validateConfig re config with
    | .error e => updateStatus (markValidationFailed now e config)
    | .ok () =>
      match ← reconcileRBAC re mgr config with
      | .error e => updateStatus (markReconcileFailed now e config)
      | .ok appliedNamespaces => updateStatus (markReconciled now appliedNamespaces config)

/-- `Reconcile` for the config of a name. The metrics and the health checker are left out. -/
def reconcile (now : Nat) (name : String) : m (Result × Except GoError Unit) := do
  match ← Client.getConfig name with
  | .error .notFound => return ({}, .ok ())
  | .error e => return ({}, .error (.status e))
  | .ok config => reconcileFetched re mgr now config

end Pass

/-! ### The applications of a pass -/

/-- Whether `NamespaceMatches` takes a namespace, without error. -/
def matchesSelector (re : Regexp) (selector : NamespaceSelector) (ns : Namespace) : Bool :=
  match namespaceMatches re ns selector with
  | .ok true => true
  | _ => false

section Applications
variable {m : Type → Type} [Monad m] [Client m] (re : Regexp) (mgr : Manager)

/-- The applications of a pass as the spec states them: one per namespace taken, fail-fast. -/
def applyToMatching (config : NamespaceRBACConfig) (namespaces : List Namespace) :
    m (Except GoError (List String)) := do
  let targets := namespaces.filter (matchesSelector re config.spec.namespaceSelector)
  let r ← runSteps (targets.map fun ns => ("failed to apply RBAC for namespace " ++
    ns.metadata.name, applyRBACForNamespace mgr ns config))
  return r.map fun () => targets.map (·.metadata.name)

theorem applyMatching_eq_runSteps [LawfulMonad m] (config : NamespaceRBACConfig)
    (namespaces : List Namespace) (appliedNamespaces : List String) :
    applyMatching (m := m) re mgr config namespaces appliedNamespaces =
      let targets := namespaces.filter (matchesSelector re config.spec.namespaceSelector)
      (do
        let r ← runSteps (targets.map fun ns : Namespace =>
          ("failed to apply RBAC for namespace " ++ ns.metadata.name,
            applyRBACForNamespace mgr ns config))
        return r.map fun () =>
          appliedNamespaces ++ targets.map fun ns : Namespace => ns.metadata.name) := by
  induction namespaces generalizing appliedNamespaces with
  | nil => simp [applyMatching, runSteps, Except.map]
  | cons ns rest ih =>
    rcases h : namespaceMatches re ns config.spec.namespaceSelector with _ | _ | _
    · simp [applyMatching, h, matchesSelector, ih]
    · simp [applyMatching, h, matchesSelector, ih]
    · simp only [applyMatching, h, matchesSelector, List.filter_cons_of_pos, List.map_cons,
        runSteps, bind_assoc, ih]
      congr 1
      funext r
      cases r <;> simp [Except.map]

theorem applyMatching_eq_applyToMatching [LawfulMonad m] (config : NamespaceRBACConfig)
    (namespaces : List Namespace) :
    applyMatching (m := m) re mgr config namespaces [] =
      applyToMatching re mgr config namespaces := by
  simp [applyMatching_eq_runSteps, applyToMatching]

theorem reconcileRBAC_eq [LawfulMonad m] (config : NamespaceRBACConfig) :
    reconcileRBAC (m := m) re mgr config = (do
      match ← Client.listNamespaces with
      | .error e => return .error (.wrap "failed to list namespaces" (.status e))
      | .ok namespaces => applyToMatching re mgr config namespaces) := by
  simp only [reconcileRBAC, applyMatching_eq_applyToMatching]

theorem reconcileFetched_of_invalid (now : Nat) {config : NamespaceRBACConfig}
    (hdel : config.metadata.deletionTimestamp = none)
    (hfin : containsFinalizer config finalizerName = true) {e : GoError}
    (hv : validateConfig re config = .error e) :
    reconcileFetched (m := m) re mgr now config =
      updateStatus (markValidationFailed now e (markProgressing now config)) := by
  simp only [reconcileFetched, hdel, hfin, Option.isSome_none, Bool.not_true, Bool.false_eq_true,
    if_false, validateConfig_markProgressing, hv]

theorem reconcileFetched_of_valid [LawfulMonad m] (now : Nat) {config : NamespaceRBACConfig}
    (hdel : config.metadata.deletionTimestamp = none)
    (hfin : containsFinalizer config finalizerName = true)
    (hv : validateConfig re config = .ok ()) :
    reconcileFetched (m := m) re mgr now config = (do
      match ← Client.listNamespaces with
      | .error e => updateStatus (markReconcileFailed now
          (.wrap "failed to list namespaces" (.status e)) (markProgressing now config))
      | .ok namespaces =>
        match ← applyToMatching re mgr (markProgressing now config) namespaces with
        | .error e => updateStatus (markReconcileFailed now e (markProgressing now config))
        | .ok appliedNamespaces =>
          updateStatus (markReconciled now appliedNamespaces (markProgressing now config))) := by
  simp only [reconcileFetched, hdel, hfin, Option.isSome_none, Bool.not_true, Bool.false_eq_true,
    if_false, validateConfig_markProgressing, hv, reconcileRBAC_eq, bind_assoc]
  congr 1
  funext r
  cases r with
  | error => simp
  | ok => rfl
end Applications

/-! ### What one pass does to the store -/

section Quiet
variable (re : Regexp) (mgr : Manager)

theorem applyMatching_grows (config : NamespaceRBACConfig) (namespaces : List Namespace)
    (appliedNamespaces : List String) (c : Cluster) :
    c.Grows ((applyMatching (m := StateM Cluster) re mgr config namespaces appliedNamespaces).run
      c).2 := by
  induction namespaces generalizing appliedNamespaces c with
  | nil => exact .refl c
  | cons ns rest ih =>
    unfold applyMatching
    split
    · exact ih _ c
    · exact ih _ c
    · simp only [StateT.run, bind, StateT.bind]
      have hone := applyRBACForNamespace_grows mgr ns config c
      rcases hrun : applyRBACForNamespace (m := StateM Cluster) mgr ns config c with ⟨_ | _, c₁⟩
      all_goals simp only [StateT.run, hrun] at hone ⊢
      · exact hone
      · exact hone.trans (ih _ c₁)

theorem reconcileRBAC_grows (config : NamespaceRBACConfig) (c : Cluster) :
    c.Grows ((reconcileRBAC (m := StateM Cluster) re mgr config).run c).2 := by
  simp only [reconcileRBAC, StateT.run, bind, StateT.bind]
  cases c.listNamespaces with
  | error => exact .refl c
  | ok namespaces => exact applyMatching_grows re mgr config namespaces [] c

theorem reconcileRBAC_run_ok (config : NamespaceRBACConfig) {c c₁ : Cluster}
    {names : List String}
    (h : (reconcileRBAC (m := StateM Cluster) re mgr config).run c = (.ok names, c₁)) :
    names = (c.namespaces.filter (matchesSelector re config.spec.namespaceSelector)).map
      (·.metadata.name) := by
  rw [reconcileRBAC_eq] at h
  simp only [applyToMatching, StateT.run, bind, StateT.bind, pure, StateT.pure] at h
  rcases hl : c.listNamespaces with e | namespaces <;> rw [hl] at h
  · cases (Prod.mk.inj h).1
  · obtain rfl : namespaces = c.namespaces := by
      unfold Cluster.listNamespaces at hl
      split at hl <;> simp_all
    have h1 := (Prod.mk.inj h).1
    unfold Except.map at h1
    split at h1
    · cases h1
    · exact (Except.ok.inj h1).symm

private theorem forM_pure_unit {m : Type → Type} [Monad m] [LawfulMonad m] {α : Type}
    (l : List α) : l.forM (fun _ => pure PUnit.unit : α → m PUnit) = pure PUnit.unit := by
  induction l with
  | nil => rfl
  | cons _ _ ih => simp [ih]

theorem cleanupRBAC_eq {m : Type → Type} [Monad m] [LawfulMonad m] [Client m]
    (config : NamespaceRBACConfig) : cleanupRBAC (m := m) config = pure (.ok ()) := by
  simp [cleanupRBAC, cleanupRBACForNamespace_eq, forM_pure_unit]

theorem updateStatus_state (config : NamespaceRBACConfig) (c : Cluster) :
    ((updateStatus (m := StateM Cluster) config).run c).2 = (c.updateConfigStatus config).2 := by
  simp only [updateStatus, StateT.run, bind, StateT.bind]
  rcases c.updateConfigStatus config with ⟨(_ | _) | _, c'⟩ <;> rfl

theorem reconcileFetched_of_deleting (now : Nat) (config : NamespaceRBACConfig) (c : Cluster)
    (hdel : config.metadata.deletionTimestamp.isSome) :
    ((reconcileFetched (m := StateM Cluster) re mgr now config).run c).2 = c ∨
      ((reconcileFetched (m := StateM Cluster) re mgr now config).run c).2 =
        (c.updateConfig (removeFinalizer config finalizerName)).2 := by
  simp only [reconcileFetched, hdel, if_true, handleDeletion, cleanupRBAC_eq]
  split_ifs
  · right
    simp only [StateT.run, bind, StateT.bind, pure, StateT.pure]
    rcases c.updateConfig (removeFinalizer config finalizerName) with ⟨_ | _, _⟩ <;> rfl
  · exact .inl rfl

theorem reconcileFetched_of_unfinalized (now : Nat) (config : NamespaceRBACConfig) (c : Cluster)
    (hdel : config.metadata.deletionTimestamp = none)
    (hfin : containsFinalizer config finalizerName = false) :
    ((reconcileFetched (m := StateM Cluster) re mgr now config).run c).2 =
      (c.updateConfig (addFinalizer config finalizerName)).2 := by
  simp only [reconcileFetched, hdel, hfin, Option.isSome_none, Bool.not_false, Bool.false_eq_true,
    if_true, if_false, StateT.run, bind, StateT.bind, pure, StateT.pure]
  rcases c.updateConfig (addFinalizer config finalizerName) with ⟨_ | _, _⟩ <;> rfl

/-- Whether a pass on a live, finalized config succeeds: valid and applied everywhere. -/
def passSucceeds (now : Nat) (config : NamespaceRBACConfig) (c : Cluster) : Bool :=
  (validateConfig re (markProgressing now config)).toBool &&
    ((reconcileRBAC (m := StateM Cluster) re mgr (markProgressing now config)).run c).1.toBool

theorem reconcileFetched_live_cases (now : Nat) (config : NamespaceRBACConfig) (c : Cluster)
    (hdel : config.metadata.deletionTimestamp = none)
    (hfin : containsFinalizer config finalizerName = true) :
    ∃ c₁ written, c.Grows c₁ ∧
      ((reconcileFetched (m := StateM Cluster) re mgr now config).run c).2 =
        (c₁.updateConfigStatus written).2 ∧
      if passSucceeds re mgr now config c then
        written = markReconciled now ((c.namespaces.filter
          (matchesSelector re config.spec.namespaceSelector)).map (·.metadata.name))
          (markProgressing now config)
      else ∃ reason readyMessage progressingMessage err,
        written = markFailed reason readyMessage progressingMessage now err
          (markProgressing now config) := by
  simp only [reconcileFetched, hdel, hfin, Option.isSome_none, Bool.not_true, Bool.false_eq_true,
    if_false, validateConfig_markProgressing]
  rcases hv : validateConfig re config with e | ⟨⟨⟩⟩
  · exact ⟨c, _, .refl c, updateStatus_state _ c, by
      simp [passSucceeds, hv]
      exact ⟨_, _, _, e, rfl⟩⟩
  · simp only [StateT.run, bind, StateT.bind]
    have hg := reconcileRBAC_grows re mgr (markProgressing now config) c
    simp only [StateT.run] at hg
    rcases hr : reconcileRBAC (m := StateM Cluster) re mgr (markProgressing now config) c with
      ⟨e | ns, c₁⟩ <;> rw [hr] at hg
    · exact ⟨c₁, _, hg, updateStatus_state _ c₁, by
        simp [passSucceeds, StateT.run, hv, hr]
        exact ⟨_, _, _, e, rfl⟩⟩
    · obtain rfl := reconcileRBAC_run_ok re mgr _ hr
      exact ⟨c₁, _, hg, updateStatus_state _ c₁, by
        simp [passSucceeds, StateT.run, hv, hr, Except.toBool]⟩

theorem reconcileFetched_of_live (now : Nat) (config : NamespaceRBACConfig) (c : Cluster)
    (hdel : config.metadata.deletionTimestamp = none)
    (hfin : containsFinalizer config finalizerName = true) :
    ∃ c₁ written, c.Grows c₁ ∧ written.metadata = config.metadata ∧
      ((reconcileFetched (m := StateM Cluster) re mgr now config).run c).2 =
        (c₁.updateConfigStatus written).2 ∧
      (findCondition written.status.conditions conditionTypeProgressing).map
        (fun x => (x.status, x.lastTransitionTime)) = some (.false, now) ∧
      (config.status.conditions = [] ∨ ConditionsSettled config.status.conditions →
        ConditionsSettled written.status.conditions ∧
        conditionStatus written.status.conditions conditionTypeReady =
          some (if passSucceeds re mgr now config c then .true else .false)) := by
  obtain ⟨c₁, written, hg, h, hw⟩ := reconcileFetched_live_cases re mgr now config c hdel hfin
  split_ifs at hw with hs
  · subst hw
    exact ⟨c₁, _, hg, by rfl, h, by simp [markReconciled_progressing],
      fun hc => by simpa [hs] using markReconciled_settled now config _ hc⟩
  · obtain ⟨reason, readyMessage, progressingMessage, e, rfl⟩ := hw
    exact ⟨c₁, _, hg, by rfl, h, by simp [markFailed_progressing],
      fun hc => by simpa [hs] using markFailed_settled now config _ _ _ e hc⟩

theorem reconcile_state (now : Nat) (name : String) (c : Cluster) :
    ((reconcile (m := StateM Cluster) re mgr now name).run c).2 =
      match c.getConfig name with
      | .ok config => ((reconcileFetched (m := StateM Cluster) re mgr now config).run c).2
      | .error _ => c := by
  simp only [reconcile, StateT.run, bind, StateT.bind]
  cases c.getConfig name with
  | error e => cases e <;> rfl
  | ok config => rfl

end Quiet

/-! ### The namespace watch -/

/-- The loop of `mapNamespaceToConfigs`: request each config whose selector takes `ns`. -/
def collectRequests (re : Regexp) (ns : Namespace) :
    List NamespaceRBACConfig → List NamespacedName → List NamespacedName
  | [], requests => requests
  | config :: rest, requests =>
    match namespaceMatches re ns config.spec.namespaceSelector with
    | .error _ => collectRequests re ns rest requests
    | .ok true => collectRequests re ns rest
        (requests ++ [⟨config.metadata.namespace, config.metadata.name⟩])
    | .ok false => collectRequests re ns rest requests

/-- `mapNamespaceToConfigs` for an event on namespace `ns`. -/
def mapNamespaceToConfigs {m : Type → Type} [Monad m] [Client m] (re : Regexp) (ns : Namespace) :
    m (List NamespacedName) := do
  match ← Client.listConfigs with
  | .error _ => return []
  | .ok configs => return collectRequests re ns configs []

private theorem collectRequests_eq (re : Regexp) (ns : Namespace) (configs : List NamespaceRBACConfig)
    (requests : List NamespacedName) :
    collectRequests re ns configs requests = requests ++
      (configs.filter fun config => matchesSelector re config.spec.namespaceSelector ns).map
        fun config => ⟨config.metadata.namespace, config.metadata.name⟩ := by
  induction configs generalizing requests with
  | nil => simp [collectRequests]
  | cons config rest ih =>
    unfold collectRequests
    rcases h : namespaceMatches re ns config.spec.namespaceSelector with _ | _ | _ <;>
      simp [ih, List.filter_cons, matchesSelector, h]

/-- A namespace event writes nothing and requests exactly the listed configs that take it. -/
theorem mapNamespaceToConfigs_requests (re : Regexp) (ns : Namespace) (c : Cluster) :
    (mapNamespaceToConfigs (m := StateM Cluster) re ns).run c =
      (match c.listConfigs with
       | .error _ => []
       | .ok configs =>
         (configs.filter fun config => matchesSelector re config.spec.namespaceSelector ns).map
           fun config => ⟨config.metadata.namespace, config.metadata.name⟩, c) := by
  simp only [mapNamespaceToConfigs, StateT.run, bind, StateT.bind]
  cases c.listConfigs with
  | error => rfl
  | ok configs => simp [collectRequests_eq, pure, StateT.pure]

end NamespaceRBACConfigReconciler

end AclOperator
