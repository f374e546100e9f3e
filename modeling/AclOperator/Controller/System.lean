import AclOperator.Controller.NamespaceReconciler

/-! The operator as one state machine over the store: users write configs, namespaces and RBAC
objects, and the two controllers run passes, in any order, each served with no other writer. -/
namespace AclOperator

namespace Operator

/-- What can happen to the store: a user's request, or a controller's pass at time `now`. -/
inductive Event where
  | createConfig (config : NamespaceRBACConfig)
  | updateConfig (config : NamespaceRBACConfig)
  | deleteConfig (now : Nat) (name : String)
  | putNamespace (ns : Namespace)
  | deleteNamespace (name : String)
  | createRbac (k : RbacKind) (obj : k.Obj)
  | updateRbac (k : RbacKind) (obj : k.Obj)
  | deleteRbac (k : RbacKind) (key : NamespacedName)
  | reconcileConfig (now : Nat) (name : String)
  | reconcileNamespace (name : String)

variable (re : Regexp) (mgr : Manager)

/-- The store after one event. -/
def step (c : Cluster) : Event → Cluster
  | .createConfig config => (c.createConfig config).2
  | .updateConfig config => (c.updateConfig config).2
  | .deleteConfig now name => (c.deleteConfig now name).2
  | .putNamespace ns => c.putNamespace ns
  | .deleteNamespace name => c.deleteNamespace name
  | .createRbac k obj => (c.create k obj).2
  | .updateRbac k obj => (c.update k obj).2
  | .deleteRbac k key => c.deleteRbac k key
  | .reconcileConfig now name =>
    ((NamespaceRBACConfigReconciler.reconcile (m := StateM Cluster) re mgr now name).run c).2
  | .reconcileNamespace name =>
    ((NamespaceReconciler.reconcile (m := StateM Cluster) re mgr name).run c).2

/-- The store after a run of events, in order. -/
def run (c : Cluster) (events : List Event) : Cluster :=
  events.foldl (step re mgr) c

/-! ### Statuses -/

/-- The stored status of the config of a name. -/
def configStatus (c : Cluster) (name : String) : Option NamespaceRBACConfigStatus :=
  (c.findConfig name).map (·.status)

/-- No condition yet, or settled ones. -/
def StatusSettled (status : NamespaceRBACConfigStatus) : Prop :=
  status.conditions = [] ∨ ConditionsSettled status.conditions

/-- Every stored config has no condition yet, or settled ones. -/
def ConditionsInvariant (c : Cluster) : Prop :=
  ∀ x ∈ c.configs, StatusSettled x.status

/-- How a config pass from `c` ends: `none` when it writes no status, else whether it succeeds. -/
def passEnding (now : Nat) (name : String) (c : Cluster) : Option Bool :=
  match c.getConfig name with
  | .ok config =>
    if config.metadata.deletionTimestamp = none ∧ containsFinalizer config finalizerName then
      some (NamespaceRBACConfigReconciler.passSucceeds re mgr now config c)
    else none
  | .error _ => none

/-- What a config pass from `c` to `c'` leaves of the statuses. -/
structure PassRecorded (now : Nat) (name : String) (c c' : Cluster) : Prop where
  others : ∀ name', name' ≠ name → configStatus c' name' = configStatus c name'
  kept : passEnding re mgr now name c = none ∨ c.faults.updateStatus ⟨"", name⟩ ≠ none →
    configStatus c' name = configStatus c name ∨ configStatus c' name = none
  recorded : ∀ succeeded, passEnding re mgr now name c = some succeeded →
    c.faults.updateStatus ⟨"", name⟩ = none →
    ∃ status, configStatus c' name = some status ∧ ConditionsSettled status.conditions ∧
      conditionStatus status.conditions conditionTypeReady =
        some (if succeeded then .true else .false)

section Frame
variable (c : Cluster)

private theorem configStatus_of_configs {c' : Cluster} (h : c'.configs = c.configs)
    (name : String) : configStatus c' name = configStatus c name := by
  simp [configStatus, Cluster.findConfig, h]

private theorem configStatus_putConfig_of_ne {config : NamespaceRBACConfig} {name : String}
    (h : name ≠ config.metadata.name) :
    configStatus (c.putConfig config) name = configStatus c name := by
  simp [configStatus, c.findConfig_putConfig_of_ne h]

private theorem configStatus_updateConfig (config : NamespaceRBACConfig) (name : String) :
    configStatus (c.updateConfig config).2 name = configStatus c name ∨
      name = config.metadata.name ∧ configStatus (c.updateConfig config).2 name = none := by
  rcases c.updateConfig_cases config with h | ⟨cur, hcur, h⟩ <;> rw [h]
  · exact .inl rfl
  · by_cases hn : name = config.metadata.name
    · subst hn
      have hput := c.findConfig_putConfig_self { config with
        metadata.deletionTimestamp := cur.metadata.deletionTimestamp
        metadata.generation := Cluster.nextGeneration cur config
        status := cur.status }
      simp only [configStatus, hput, hcur]
      split_ifs <;> simp
    · exact .inl (configStatus_putConfig_of_ne c hn)

private theorem configStatus_updateConfigStatus_of_ne (config : NamespaceRBACConfig)
    {name : String} (h : name ≠ config.metadata.name) :
    configStatus (c.updateConfigStatus config).2 name = configStatus c name := by
  rcases c.updateConfigStatus_cases config with he | ⟨cur, hcur, he⟩
  · rw [he]
  · rw [he]
    exact configStatus_putConfig_of_ne c (by rwa [c.findConfig_name hcur])

private theorem configStatus_updateConfigStatus {c₁ : Cluster} (hg : c.Grows c₁)
    {name : String} {config written : NamespaceRBACConfig} (hfind : c.findConfig name = some config)
    (hdel : config.metadata.deletionTimestamp = none) (hmeta : written.metadata = config.metadata)
    (hf : c.faults.updateStatus ⟨"", name⟩ = none) :
    configStatus (c₁.updateConfigStatus written).2 name = some written.status := by
  have hname : config.metadata.name = name := c.findConfig_name hfind
  have hfind₁ : c₁.findConfig name = some config := by
    simpa [Cluster.findConfig, hg.configs] using hfind
  rw [c₁.updateConfigStatus_of_current (by rw [hg.faults, hmeta, hname, hf])
    (by rw [hmeta, hname, hfind₁]) (by rw [hmeta])]
  have hput := c₁.findConfig_putConfig_self { config with status := written.status }
  dsimp only at hput
  rw [hname, hdel, hfind₁] at hput
  simp [configStatus, hput]

end Frame

/-! ### One config pass -/

private theorem reconcileConfig_cases (now : Nat) (name : String) (c : Cluster) :
    (passEnding re mgr now name c = none ∧
      (step re mgr c (.reconcileConfig now name) = c ∨
        ∃ config : NamespaceRBACConfig, config.metadata.name = name ∧
          step re mgr c (.reconcileConfig now name) = (c.updateConfig config).2)) ∨
    ∃ config c₁ written, c.getConfig name = .ok config ∧
      config.metadata.deletionTimestamp = none ∧ containsFinalizer config finalizerName = true ∧
      passEnding re mgr now name c =
        some (NamespaceRBACConfigReconciler.passSucceeds re mgr now config c) ∧
      c.Grows c₁ ∧ written.metadata = config.metadata ∧
      step re mgr c (.reconcileConfig now name) = (c₁.updateConfigStatus written).2 ∧
      (findCondition written.status.conditions conditionTypeProgressing).map
        (fun x => (x.status, x.lastTransitionTime)) = some (.false, now) ∧
      (StatusSettled config.status →
        ConditionsSettled written.status.conditions ∧
        conditionStatus written.status.conditions conditionTypeReady =
          some (if NamespaceRBACConfigReconciler.passSucceeds re mgr now config c then .true
            else .false)) := by
  simp only [step, NamespaceRBACConfigReconciler.reconcile_state]
  rcases hget : c.getConfig name with e | config
  case error => exact .inl ⟨by simp [passEnding, hget], .inl rfl⟩
  case ok =>
  have hname := c.findConfig_name (c.findConfig_of_getConfig hget)
  rcases hdel : config.metadata.deletionTimestamp with _ | t
  case some =>
    refine .inl ⟨by simp [passEnding, hget, hdel], ?_⟩
    exact (NamespaceRBACConfigReconciler.reconcileFetched_of_deleting re mgr now config c
      (by simp [hdel])).imp id fun h => ⟨_, by simpa using hname, h⟩
  case none =>
  cases hfin : containsFinalizer config finalizerName
  case false =>
    exact .inl ⟨by simp [passEnding, hget, hdel, hfin], .inr ⟨_, by simpa using hname,
      NamespaceRBACConfigReconciler.reconcileFetched_of_unfinalized re mgr now config c hdel hfin⟩⟩
  case true =>
    obtain ⟨c₁, written, h⟩ :=
      NamespaceRBACConfigReconciler.reconcileFetched_of_live re mgr now config c hdel hfin
    exact .inr ⟨config, c₁, written, rfl, hdel, hfin, by simp [passEnding, hget, hdel, hfin], h⟩

theorem reconcileConfig_recorded (now : Nat) (name : String) {c : Cluster}
    (hc : ConditionsInvariant c) :
    PassRecorded re mgr now name c (step re mgr c (.reconcileConfig now name)) := by
  rcases reconcileConfig_cases re mgr now name c with ⟨hend, h | ⟨config, hname, h⟩⟩ |
    ⟨config, c₁, written, hget, hdel, -, hend, hg, hmeta, h, -, hsettled⟩
  · rw [h]
    exact ⟨fun _ _ => rfl, fun _ => .inl rfl, fun _ h => by simp [hend] at h⟩
  · rw [h]
    exact ⟨fun _ h' => (configStatus_updateConfig c config _).resolve_right
        fun h'' => h' (h''.1.trans hname),
      fun _ => (configStatus_updateConfig c config name).imp_right And.right,
      fun _ h => by simp [hend] at h⟩
  · have hfind := c.findConfig_of_getConfig hget
    have hwname : written.metadata.name = name := hmeta ▸ c.findConfig_name hfind
    rw [h]
    refine ⟨fun name' h => ?_, fun h => ?_, fun succeeded h hf => ?_⟩
    · rw [configStatus_updateConfigStatus_of_ne c₁ written (hwname ▸ h)]
      exact configStatus_of_configs c hg.configs name'
    · obtain ⟨msg, hmsg⟩ := Option.ne_none_iff_exists'.mp (h.resolve_left (by simp [hend]))
      rw [c₁.updateConfigStatus_of_fault (by rw [hg.faults, hwname, hmsg])]
      exact .inl (configStatus_of_configs c hg.configs name)
    · obtain rfl : NamespaceRBACConfigReconciler.passSucceeds re mgr now config c = succeeded := by
        simpa [hend] using h
      exact ⟨written.status, configStatus_updateConfigStatus c hg hfind hdel hmeta hf,
        hsettled (hc config (c.mem_of_findConfig hfind))⟩

/-! ### Runs -/

private theorem reconcileConfig_invariant (now : Nat) (name : String) {c : Cluster}
    (hc : ConditionsInvariant c) :
    ConditionsInvariant (step re mgr c (.reconcileConfig now name)) := by
  rcases reconcileConfig_cases re mgr now name c with
    ⟨-, h | ⟨config, -, h⟩⟩ | ⟨config, c₁, written, hget, -, -, -, hg, -, h, -, hsettled⟩ <;>
    rw [h]
  · exact hc
  · exact c.forall_updateConfig hc config
  · exact c₁.forall_updateConfigStatus (fun x hx => hc x (hg.configs ▸ hx))
      (.inr (hsettled (hc config (c.mem_of_findConfig (c.findConfig_of_getConfig hget)))).1)

/-- Every event keeps the conditions settled or absent. -/
theorem step_conditionsInvariant {c : Cluster} (hc : ConditionsInvariant c) :
    ∀ e, ConditionsInvariant (step re mgr c e)
  | .createConfig config => c.forall_createConfig hc (.inl rfl) config
  | .updateConfig config => c.forall_updateConfig hc config
  | .deleteConfig now name => c.forall_deleteConfig hc now name
  | .putNamespace _ | .deleteNamespace _ | .deleteRbac _ _ => hc
  | .createRbac k obj => fun x hx => hc x ((c.grows_answer _ k obj).configs ▸ hx)
  | .updateRbac k obj => fun x hx => hc x ((c.grows_answer _ k obj).configs ▸ hx)
  | .reconcileConfig now name => reconcileConfig_invariant re mgr now name hc
  | .reconcileNamespace name => fun x hx =>
    hc x ((NamespaceReconciler.reconcile_grows re mgr name c).configs ▸ hx)

theorem run_conditionsInvariant {c : Cluster} (hc : ConditionsInvariant c) (events : List Event) :
    ConditionsInvariant (run re mgr c events) := by
  induction events generalizing c with
  | nil => exact hc
  | cons e rest ih => exact ih (step_conditionsInvariant re mgr hc e)

/-- Along every run, conditions stay settled, and each pass's `Ready` tells how it ended. -/
theorem conditions_settled_along_runs {c : Cluster} (hc : ConditionsInvariant c)
    (events : List Event) :
    ConditionsInvariant (run re mgr c events) ∧
      ∀ now name, PassRecorded re mgr now name (run re mgr c events)
        (step re mgr (run re mgr c events) (.reconcileConfig now name)) :=
  ⟨run_conditionsInvariant re mgr hc events, fun now name =>
    reconcileConfig_recorded re mgr now name (run_conditionsInvariant re mgr hc events)⟩

/-- From the empty store, through the creation of `dev` and two passes on it. -/
theorem conditions_settled_along_runs_dev :
    let re : Regexp := ⟨fun _ => none, fun _ _ => false⟩
    let mgr : Manager := ⟨⟨fun _ => none, fun _ text _ => .ok text⟩, {}⟩
    let events := [Event.createConfig { metadata := { name := "dev" } },
      .reconcileConfig 1 "dev", .reconcileConfig 2 "dev"]
    ConditionsInvariant Cluster.empty ∧ ConditionsInvariant (run re mgr Cluster.empty events) ∧
      ∀ now name, PassRecorded re mgr now name (run re mgr Cluster.empty events)
        (step re mgr (run re mgr Cluster.empty events) (.reconcileConfig now name)) := by
  intro re mgr events
  have hempty : ConditionsInvariant Cluster.empty := fun _ h => nomatch h
  exact ⟨hempty, conditions_settled_along_runs re mgr hempty events⟩

/-! ### Transition times -/

/-- Every pass that writes a status leaves `Progressing` false, stamped with its own clock. -/
theorem reconcileConfig_restamps_progressing (now : Nat) (name : String) {c : Cluster}
    (hend : (passEnding re mgr now name c).isSome) (hf : c.faults.updateStatus ⟨"", name⟩ = none) :
    ∃ status, configStatus (step re mgr c (.reconcileConfig now name)) name = some status ∧
      (findCondition status.conditions conditionTypeProgressing).map
        (fun x => (x.status, x.lastTransitionTime)) = some (.false, now) := by
  rcases reconcileConfig_cases re mgr now name c with
    ⟨hnone, -⟩ | ⟨config, c₁, written, hget, hdel, -, -, hg, hmeta, h, hprog, -⟩
  · simp [hnone] at hend
  · rw [h]
    exact ⟨written.status,
      configStatus_updateConfigStatus c hg (c.findConfig_of_getConfig hget) hdel hmeta hf, hprog⟩

/-- A successful pass at time 10 leaves the settled `Progressing` of `dev` false, stamped 10. -/
theorem reconcileConfig_restamps_progressing_dev :
    let re : Regexp := ⟨fun _ => none, fun _ _ => false⟩
    let mgr : Manager := ⟨⟨fun _ => none, fun _ text _ => .ok text⟩, {}⟩
    let dev : NamespaceRBACConfig :=
      { metadata := { name := "dev", finalizers := [finalizerName], generation := 1,
                      resourceVersion := 1 }
        spec := { rbacTemplates := { roles := [{ name := "viewer", rules := [] }] } }
        status :=
          { conditions :=
              [⟨conditionTypeProgressing, .false, 5, reasonReconcileSuccess,
                  "Reconciliation completed"⟩,
                ⟨conditionTypeReady, .true, 5, reasonReconcileSuccess,
                  "Successfully reconciled RBAC"⟩,
                ⟨conditionTypeDegraded, .false, 5, reasonReconcileSuccess, "No issues detected"⟩]
            observedGeneration := 1 } }
    let c : Cluster := { Cluster.empty with configs := [dev], revision := 1 }
    configStatus c "dev" = some dev.status ∧ passEnding re mgr 10 "dev" c = some true ∧
      c.faults.updateStatus ⟨"", "dev"⟩ = none ∧
      ∃ status, configStatus (step re mgr c (.reconcileConfig 10 "dev")) "dev" = some status ∧
        (findCondition status.conditions conditionTypeProgressing).map
          (fun x => (x.status, x.lastTransitionTime)) = some (.false, 10) := by
  intro re mgr dev c
  have hend : passEnding re mgr 10 "dev" c = some true := by decide
  exact ⟨rfl, hend, rfl,
    reconcileConfig_restamps_progressing re mgr 10 "dev" (by rw [hend]; rfl) rfl⟩

/-! ### Where a config pass applies the config -/

section Applications
open NamespaceRBACConfigReconciler

/-- A pass on a live finalized config applies it exactly to the namespaces its selector takes. -/
theorem reconcileConfig_applies_matching (now : Nat) (name : String) {c : Cluster}
    {config : NamespaceRBACConfig} (hget : c.getConfig name = .ok config)
    (hdel : config.metadata.deletionTimestamp = none)
    (hfin : containsFinalizer config finalizerName = true)
    (hf : c.faults.updateStatus ⟨"", name⟩ = none) :
    (∀ e, validateConfig re config = .error e →
      ∀ (m : Type → Type) [Monad m] [Client m],
        reconcileFetched (m := m) re mgr now config =
          updateStatus (markValidationFailed now e (markProgressing now config))) ∧
    (validateConfig re config = .ok () →
      (∀ ns e, namespaceMatches re ns config.spec.namespaceSelector ≠ .error e) ∧
      ∀ (m : Type → Type) [Monad m] [LawfulMonad m] [Client m],
        reconcileFetched (m := m) re mgr now config = (do
          match ← Client.listNamespaces with
          | .error e => updateStatus (markReconcileFailed now
              (.wrap "failed to list namespaces" (.status e)) (markProgressing now config))
          | .ok namespaces =>
            match ← applyToMatching re mgr (markProgressing now config) namespaces with
            | .error e => updateStatus (markReconcileFailed now e (markProgressing now config))
            | .ok appliedNamespaces =>
              updateStatus (markReconciled now appliedNamespaces (markProgressing now config)))) ∧
    ∃ status, configStatus (step re mgr c (.reconcileConfig now name)) name = some status ∧
      if passSucceeds re mgr now config c then
        status.appliedNamespaces = (c.namespaces.filter
          (matchesSelector re config.spec.namespaceSelector)).map (·.metadata.name) ∧
        status.observedGeneration = config.metadata.generation
      else status.appliedNamespaces = config.status.appliedNamespaces ∧
        status.observedGeneration = config.status.observedGeneration := by
  refine ⟨fun e hv m _ _ => reconcileFetched_of_invalid re mgr now hdel hfin hv,
    fun hv => ⟨namespaceMatches_ne_error_of_valid re hv,
      fun m _ _ _ => reconcileFetched_of_valid re mgr now hdel hfin hv⟩, ?_⟩
  obtain ⟨c₁, written, hg, h, hw⟩ := reconcileFetched_live_cases re mgr now config c hdel hfin
  have hstored : written.metadata = config.metadata →
      configStatus (step re mgr c (.reconcileConfig now name)) name = some written.status :=
    fun hmeta => by
      simp only [step, reconcile_state, hget, h]
      exact configStatus_updateConfigStatus c hg (c.findConfig_of_getConfig hget) hdel hmeta hf
  split_ifs at hw ⊢
  · subst hw
    exact ⟨_, hstored rfl, by simp [markReconciled, markProgressing]⟩
  · obtain ⟨_, _, _, _, rfl⟩ := hw
    exact ⟨_, hstored rfl, by simp [markFailed, markProgressing]⟩

/-- Config `dev` takes `team-a` and `team-c`; a pass at time 10 records them with generation 2. -/
theorem reconcileConfig_applies_matching_dev :
    let re : Regexp := ⟨fun _ => none, fun _ _ => false⟩
    let mgr : Manager := ⟨⟨fun _ => none, fun _ text _ => .ok text⟩, {}⟩
    let dev : NamespaceRBACConfig :=
      { metadata := { name := "dev", finalizers := [finalizerName], generation := 2,
                      resourceVersion := 1 }
        spec :=
          { namespaceSelector := { includeNamespaces := ["team-a", "team-c"] }
            rbacTemplates := { roles := [{ name := "viewer", rules := [] }] } } }
    let c : Cluster := { Cluster.empty with
      namespaces :=
        [⟨{ name := "team-a" }⟩, ⟨{ name := "team-b" }⟩, ⟨{ name := "team-c" }⟩]
      configs := [dev], revision := 1 }
    c.getConfig "dev" = .ok dev ∧ dev.metadata.deletionTimestamp = none ∧
      containsFinalizer dev finalizerName = true ∧
      c.faults.updateStatus ⟨"", "dev"⟩ = none ∧
      passSucceeds re mgr 10 dev c = true ∧
      ∃ status, configStatus (step re mgr c (.reconcileConfig 10 "dev")) "dev" = some status ∧
        status.appliedNamespaces = ["team-a", "team-c"] ∧ status.observedGeneration = 2 := by
  intro re mgr dev c
  have hs : passSucceeds re mgr 10 dev c = true := by decide
  obtain ⟨-, -, status, hst, happ⟩ :=
    reconcileConfig_applies_matching re mgr 10 "dev" (c := c) rfl rfl rfl rfl
  rw [if_pos hs] at happ
  exact ⟨rfl, rfl, rfl, rfl, hs, status, hst, happ.1.trans (by decide), happ.2⟩

end Applications

/-! ### Namespace passes and the finalizer -/

/-- A namespace pass applies an unfinalized config, whose deletion then leaves its role behind. -/
theorem reconcileNamespace_applies_unfinalized_config :
    let re : Regexp := ⟨fun _ => none, fun _ _ => false⟩
    let mgr : Manager := ⟨⟨fun _ => none, fun _ text _ => .ok text⟩, {}⟩
    let dev : NamespaceRBACConfig :=
      { metadata := { name := "dev" }
        spec := { rbacTemplates := { roles := [{ name := "viewer", rules := [] }] } } }
    let start : Cluster := { Cluster.empty with namespaces := [⟨{ name := "team-a" }⟩] }
    let applied := run re mgr start [.createConfig dev, .reconcileNamespace "team-a"]
    let deleted := step re mgr applied (.deleteConfig 7 "dev")
    (applied.findConfig "dev").map (containsFinalizer · finalizerName) = some false ∧
      (applied.rbac .role ⟨"team-a", "viewer"⟩).bind
        (fun role : Role => role.metadata.labels.get? configLabel) = some "dev" ∧
      (deleted.findConfig "dev").isNone = true ∧
      (deleted.rbac .role ⟨"team-a", "viewer"⟩).isSome = true := by
  decide

end Operator

end AclOperator
