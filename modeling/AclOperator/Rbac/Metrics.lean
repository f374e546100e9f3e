import AclOperator.Rbac.ApplyRun

/-! The metrics the RBAC manager records (`pkg/metrics`, called from the apply, upsert and cleanup
functions), kept beside the store: they change nothing the manager does to the store. -/
namespace AclOperator

/-- One update of a metric vector, by its label values. -/
inductive MetricUpdate where
  | resourceOperation (config resourceType operation result : String)
  | managedResources (config resourceType «namespace» : String) (count : Nat)
  | templateProcessing (config templateType : String) (failed : Bool)
  | conflictResolution (config strategy resourceType : String)
  | cleanup (resourceType result : String)
  | reconciliation (config controller result : String)
  | managedNamespaces (config : String) (count : Nat)
  | operatorHealth (component : String) (healthy : Bool)
  | activeConfigs (count : Nat)
  deriving DecidableEq, Repr

/-- The metrics as the log of their updates, oldest first. -/
abbrev Metrics := List MetricUpdate

/-- The manager with its metrics: the store requests, lifted, and the updates of the metrics. -/
abbrev WithMetrics := StateT Metrics (StateM Cluster)

instance : Client WithMetrics where
  get k key := monadLift (Client.get k key : StateM Cluster _)
  create k obj := monadLift (Client.create k obj : StateM Cluster _)
  update k obj := monadLift (Client.update k obj : StateM Cluster _)
  getNamespace name := monadLift (Client.getNamespace name : StateM Cluster _)
  listNamespaces := monadLift (Client.listNamespaces : StateM Cluster _)
  getConfig name := monadLift (Client.getConfig name : StateM Cluster _)
  listConfigs := monadLift (Client.listConfigs : StateM Cluster _)
  updateConfig config := monadLift (Client.updateConfig config : StateM Cluster _)
  updateConfigStatus config := monadLift (Client.updateConfigStatus config : StateM Cluster _)

theorem WithMetrics.get_eq (k : RbacKind) (key : NamespacedName) :
    (Client.get k key : WithMetrics _) = monadLift (Client.get k key : StateM Cluster _) := rfl

/-- The `result` label the record functions give an error: `success` for nil. -/
def resultLabel (err : Except GoError Unit) : String :=
  match err with
  | .ok () => "success"
  | .error _ => "error"

def recordResourceOperation (config resourceType operation : String) (err : Except GoError Unit) :
    WithMetrics Unit :=
  modify (· ++ [.resourceOperation config resourceType operation (resultLabel err)])

def updateManagedResources (config resourceType «namespace» : String) (count : Nat) :
    WithMetrics Unit :=
  modify (· ++ [.managedResources config resourceType «namespace» count])

/-- `RecordTemplateProcessing`: the error counter and the duration, its value left out. -/
def recordTemplateProcessing (config templateType : String) (failed : Bool) : WithMetrics Unit :=
  modify (· ++ [.templateProcessing config templateType failed])

def recordConflictResolution (config strategy resourceType : String) : WithMetrics Unit :=
  modify (· ++ [.conflictResolution config strategy resourceType])

def recordCleanup (resourceType : String) (err : Except GoError Unit) : WithMetrics Unit :=
  modify (· ++ [.cleanup resourceType (resultLabel err)])

/-- The `RecordTemplateProcessing` calls of an apply function, up to the first failure. -/
def recordTemplates (config : String) : List (String × Bool) → WithMetrics Unit
  | [] => pure ()
  | (templateType, failed) :: rest => do
    recordTemplateProcessing config templateType failed
    if failed then pure () else recordTemplates config rest

/-! ### The upserts and the apply functions -/

section Upserts
variable (config : NamespaceRBACConfig)

/-- `createOrUpdateRole` with its metrics. -/
def createOrUpdateRoleWithMetrics (role : Role) : WithMetrics (Except GoError Unit) :=
  upsertWithRetry .role mergeRoleRules (mergeStrategyOf config)
    (recordConflictResolution config.metadata.name · "role") "role" 3 3 role

/-- `createOrUpdateClusterRole` with its metrics. -/
def createOrUpdateClusterRoleWithMetrics (clusterRole : ClusterRole) :
    WithMetrics (Except GoError Unit) :=
  upsertOnce .clusterRole mergeClusterRoleRules (mergeStrategyOf config)
    (recordConflictResolution config.metadata.name · "clusterrole") clusterRole

/-- `createOrUpdateRoleBinding` with its metrics. -/
def createOrUpdateRoleBindingWithMetrics (roleBinding : RoleBinding) :
    WithMetrics (Except GoError Unit) :=
  upsertWithRetry .roleBinding mergeRoleBindingSubjects (mergeStrategyOf config)
    (recordConflictResolution config.metadata.name · "rolebinding") "rolebinding" 3 3 roleBinding

/-- `createOrUpdateClusterRoleBinding` with its metrics. -/
def createOrUpdateClusterRoleBindingWithMetrics (clusterRoleBinding : ClusterRoleBinding) :
    WithMetrics (Except GoError Unit) :=
  upsertOnce .clusterRoleBinding mergeClusterRoleBindingSubjects (mergeStrategyOf config)
    (recordConflictResolution config.metadata.name · "clusterrolebinding") clusterRoleBinding

end Upserts

namespace Manager

section Apply
variable (mgr : Manager) (ns : Namespace) (config : NamespaceRBACConfig)
  (templateCtx : TemplateContext)

/-- What every apply function records after its upsert. -/
def recordUpsert (resourceType operation gaugeNamespace : String) (err : Except GoError Unit) :
    WithMetrics Unit := do
  recordResourceOperation config.metadata.name resourceType operation err
  match err with
  | .ok () => updateManagedResources config.metadata.name resourceType gaugeNamespace 1
  | .error _ => pure ()

/-- The three other apply functions with their metrics, counting every upsert a `create`. -/
def applyBuiltWithMetrics {α : Type} (resourceType gaugeNamespace : String)
    (processed : List (String × Bool)) (built : Except GoError α)
    (upsert : α → WithMetrics (Except GoError Unit)) : WithMetrics (Except GoError Unit) := do
  recordTemplates config.metadata.name processed
  match built with
  | .error e => return .error e
  | .ok obj => do
    let err ← upsert obj
    recordUpsert config resourceType "create" gaugeNamespace err
    return err

/-- The operation `applyRole` records: `update` when the role can be fetched after a success. -/
def roleOperation (role : Role) (err : Except GoError Unit) : StateM Cluster String :=
  match err with
  | .ok () => do
    match ← Client.get .role ⟨role.metadata.namespace, role.metadata.name⟩ with
    | .ok _ => pure "update"
    | .error _ => pure "create"
  | .error _ => pure "create"

/-- `applyRole` with its metrics. -/
def applyRoleWithMetrics (template : RoleTemplate) : WithMetrics (Except GoError Unit) := do
  recordTemplates config.metadata.name
    [("role_name", !(processTemplate mgr.engine template.name templateCtx).toBool),
     ("role_labels", !(processMap mgr.engine template.labels templateCtx).toBool),
     ("role_annotations", !(processMap mgr.engine template.annotations templateCtx).toBool)]
  match mgr.buildRole ns config templateCtx template with
  | .error e => return .error e
  | .ok role => do
    let err ← createOrUpdateRoleWithMetrics config role
    let operation ← roleOperation role err
    recordUpsert config "role" operation ns.metadata.name err
    return err

/-- `applyClusterRole` with its metrics. -/
def applyClusterRoleWithMetrics (template : ClusterRoleTemplate) :
    WithMetrics (Except GoError Unit) :=
  applyBuiltWithMetrics config "clusterrole" ""
    [("clusterrole_name", !(processTemplate mgr.engine template.name templateCtx).toBool)]
    (mgr.buildClusterRole ns config templateCtx template) (createOrUpdateClusterRoleWithMetrics config)

/-- `applyRoleBinding` with its metrics. -/
def applyRoleBindingWithMetrics (template : RoleBindingTemplate) :
    WithMetrics (Except GoError Unit) :=
  applyBuiltWithMetrics config "rolebinding" ns.metadata.name
    [("rolebinding_name", !(processTemplate mgr.engine template.name templateCtx).toBool)]
    (mgr.buildRoleBinding ns config templateCtx template) (createOrUpdateRoleBindingWithMetrics config)

/-- `applyClusterRoleBinding` with its metrics. -/
def applyClusterRoleBindingWithMetrics (template : ClusterRoleBindingTemplate) :
    WithMetrics (Except GoError Unit) :=
  applyBuiltWithMetrics config "clusterrolebinding" ""
    [("clusterrolebinding_name", !(processTemplate mgr.engine template.name templateCtx).toBool)]
    (mgr.buildClusterRoleBinding ns config templateCtx template)
    (createOrUpdateClusterRoleBindingWithMetrics config)

end Apply

/-- `ApplyRBACForNamespace` with the metrics its apply functions record. -/
def applyRBACForNamespaceWithMetrics (mgr : Manager) (ns : Namespace)
    (config : NamespaceRBACConfig) : WithMetrics (Except GoError Unit) :=
  let templateCtx := buildContext ns config
  let templates := config.spec.rbacTemplates
  ExceptT.run do
    ExceptT.mk <| forEachTemplate (fun t => "failed to apply role " ++ t.name)
      (mgr.applyRoleWithMetrics ns config templateCtx) templates.roles
    ExceptT.mk <| forEachTemplate (fun t => "failed to apply cluster role " ++ t.name)
      (mgr.applyClusterRoleWithMetrics ns config templateCtx) templates.clusterRoles
    ExceptT.mk <| forEachTemplate (fun t => "failed to apply role binding " ++ t.name)
      (mgr.applyRoleBindingWithMetrics ns config templateCtx) templates.roleBindings
    ExceptT.mk <| forEachTemplate (fun t => "failed to apply cluster role binding " ++ t.name)
      (mgr.applyClusterRoleBindingWithMetrics ns config templateCtx) templates.clusterRoleBindings

end Manager

/-- `CleanupRBACForNamespace` with `RecordCleanup` after each orphan check. -/
def cleanupRBACForNamespaceWithMetrics (namespaceName : String) (config : NamespaceRBACConfig) :
    WithMetrics (Except GoError Unit) :=
  let templates := config.spec.rbacTemplates
  ExceptT.run do
    ExceptT.mk <| forEachTemplate (fun _ => "failed to cleanup cluster role")
      (fun t => do
        let err ← cleanupClusterRoleIfOrphaned t.name namespaceName config
        recordCleanup "clusterrole" err
        return err) templates.clusterRoles
    ExceptT.mk <| forEachTemplate (fun _ => "failed to cleanup cluster role binding")
      (fun t => do
        let err ← cleanupClusterRoleBindingIfOrphaned t.name namespaceName config
        recordCleanup "clusterrolebinding" err
        return err) templates.clusterRoleBindings

/-! ### Erasing the metrics -/

namespace Erases
variable {σ α β ε : Type}

theorem bind_quiet {p : StateT σ (StateM Cluster) α} {f : α → StateT σ (StateM Cluster) β}
    {q : StateM Cluster β} (hp : ∀ s c, ((p.run s).run c).2 = c) (hf : ∀ a, Erases (f a) q) :
    Erases (p >>= f) q := by
  intro s c
  have h := hp s c
  simp only [StateT.run, Bind.bind, StateT.bind] at h ⊢
  rcases hrun : p s c with ⟨⟨a, s'⟩, c'⟩
  rw [hrun] at h
  subst h
  exact hf a s' c'

theorem record_bind {r : StateT σ (StateM Cluster) Unit} {p : StateT σ (StateM Cluster) β}
    {q : StateM Cluster β} (hr : ∀ s c, ((r.run s).run c).2 = c) (hp : Erases p q) :
    Erases (r >>= fun _ => p) (Pure.pure () >>= fun _ => q) :=
  bind_quiet hr fun _ => hp

theorem exceptT_bind {p : StateT σ (StateM Cluster) (Except ε α)} {q : StateM Cluster (Except ε α)}
    {f : α → ExceptT ε (StateT σ (StateM Cluster)) β} {g : α → ExceptT ε (StateM Cluster) β}
    (hp : Erases p q) (hf : ∀ a, Erases (f a).run (g a).run) :
    Erases (ExceptT.mk p >>= f).run (ExceptT.mk q >>= g).run := by
  simp only [ExceptT.run_bind, ExceptT.run_mk]
  exact hp.bind fun r => by
    cases r with
    | error e => exact .pure _
    | ok a => exact hf a

end Erases

theorem forEachTemplate_erases {γ : Type} (context : γ → String)
    {stepM : γ → WithMetrics (Except GoError Unit)} {step : γ → StateM Cluster (Except GoError Unit)}
    (h : ∀ t, Erases (stepM t) (step t)) (templates : List γ) :
    Erases (forEachTemplate context stepM templates) (forEachTemplate context step templates) := by
  induction templates with
  | nil => exact .pure _
  | cons t rest ih =>
    simp only [forEachTemplate]
    exact (h t).bind fun r => by
      rcases r with e | ⟨⟩
      · exact .pure _
      · exact ih

theorem recordTemplates_quiet (config : String) (processed : List (String × Bool)) (log : Metrics)
    (c : Cluster) : (((recordTemplates config processed).run log).run c).2 = c := by
  induction processed generalizing log with
  | nil => rfl
  | cons p rest ih =>
    obtain ⟨templateType, failed⟩ := p
    cases failed
    · exact ih _
    · rfl

theorem recordConflictResolution_quiet (config resourceType : String) :
    ∀ s log c, (((recordConflictResolution config s resourceType).run log).run c).2 = c :=
  fun _ _ _ => rfl

section Upserts
variable {k : RbacKind} {merge : k.Obj → k.Obj → k.Obj} {strategy : MergeStrategy}
  {record : MergeStrategy → WithMetrics Unit} (hrecord : ∀ s log c, (((record s).run log).run c).2 = c)
include hrecord

theorem upsertAttempt_erases (obj : k.Obj) :
    Erases (upsertAttempt k merge strategy record obj)
      (upsertAttempt (m := StateM Cluster) k merge strategy (fun _ => pure ()) obj) := by
  unfold upsertAttempt
  refine .bind (.lift _) fun r => ?_
  rcases r with e | existing
  · cases e
    case notFound => exact .bind (.lift _) fun _ => .pure _
    all_goals exact .pure _
  · dsimp only
    split_ifs
    · exact .record_bind (hrecord _) (.pure _)
    · exact .record_bind (hrecord _) (.bind (.lift _) fun _ => .pure _)
    · exact .record_bind (hrecord _) (.bind (.lift _) fun _ => .pure _)
    · exact .pure _

theorem upsertOnce_erases (obj : k.Obj) :
    Erases (upsertOnce k merge strategy record obj)
      (upsertOnce (m := StateM Cluster) k merge strategy (fun _ => pure ()) obj) :=
  (upsertAttempt_erases hrecord obj).bind fun r => by cases r <;> exact .pure _

theorem upsertWithRetry_erases (kindName : String) (retry n : Nat) (obj : k.Obj) :
    Erases (upsertWithRetry k merge strategy record kindName retry n obj)
      (upsertWithRetry (m := StateM Cluster) k merge strategy (fun _ => pure ()) kindName retry n
        obj) := by
  induction n generalizing obj with
  | zero => exact .pure _
  | succ n ih =>
    exact (upsertAttempt_erases hrecord obj).bind fun r => by
      cases r with
      | done => exact .pure _
      | conflict obj' => exact ih obj'

end Upserts

section Kinds
variable (config : NamespaceRBACConfig)

theorem createOrUpdateRoleWithMetrics_erases (role : Role) :
    Erases (createOrUpdateRoleWithMetrics config role) (createOrUpdateRole role config) :=
  upsertWithRetry_erases (recordConflictResolution_quiet _ _) _ _ _ _

theorem createOrUpdateClusterRoleWithMetrics_erases (clusterRole : ClusterRole) :
    Erases (createOrUpdateClusterRoleWithMetrics config clusterRole)
      (createOrUpdateClusterRole clusterRole config) :=
  upsertOnce_erases (recordConflictResolution_quiet _ _) _

theorem createOrUpdateRoleBindingWithMetrics_erases (roleBinding : RoleBinding) :
    Erases (createOrUpdateRoleBindingWithMetrics config roleBinding)
      (createOrUpdateRoleBinding roleBinding config) :=
  upsertWithRetry_erases (recordConflictResolution_quiet _ _) _ _ _ _

theorem createOrUpdateClusterRoleBindingWithMetrics_erases (clusterRoleBinding : ClusterRoleBinding) :
    Erases (createOrUpdateClusterRoleBindingWithMetrics config clusterRoleBinding)
      (createOrUpdateClusterRoleBinding clusterRoleBinding config) :=
  upsertOnce_erases (recordConflictResolution_quiet _ _) _

end Kinds

namespace Manager

section Apply
variable (mgr : Manager) (ns : Namespace) (config : NamespaceRBACConfig)
  (templateCtx : TemplateContext)

private theorem recordUpsert_quiet (resourceType operation gaugeNamespace : String)
    (err : Except GoError Unit) (s : Metrics) (c : Cluster) :
    (((recordUpsert config resourceType operation gaugeNamespace err).run s).run c).2 = c := by
  cases err <;> rfl

private theorem roleOperation_run (role : Role) (err : Except GoError Unit) (c : Cluster) :
    (roleOperation role err).run c =
      (if err.toBool && (c.read .role (RbacKind.key .role role)).toBool then "update" else "create",
        c) := by
  unfold roleOperation
  rcases err with e | ⟨⟨⟩⟩
  · rfl
  · rw [StateT.run_bind, show (Client.get .role ⟨role.metadata.namespace, role.metadata.name⟩ :
      StateM Cluster _).run c = (c.read .role (RbacKind.key .role role), c) from rfl]
    cases c.read .role (RbacKind.key .role role) <;> rfl

theorem applyBuiltWithMetrics_erases {α : Type} (resourceType gaugeNamespace : String)
    (processed : List (String × Bool)) (built : Except GoError α)
    {upsertM : α → WithMetrics (Except GoError Unit)} {upsert : α → StateM Cluster (Except GoError Unit)}
    (hupsert : ∀ obj, Erases (upsertM obj) (upsert obj)) :
    Erases (applyBuiltWithMetrics config resourceType gaugeNamespace processed built upsertM)
      (applyBuilt built upsert) := by
  refine Erases.bind_quiet (recordTemplates_quiet _ processed) fun _ => ?_
  cases built with
  | error e => exact .pure _
  | ok obj =>
    have h := (hupsert obj).bind fun err =>
      Erases.bind_quiet (recordUpsert_quiet config resourceType "create" gaugeNamespace err)
        fun _ => .pure err
    rwa [bind_pure] at h

theorem applyRoleWithMetrics_erases (template : RoleTemplate) :
    Erases (mgr.applyRoleWithMetrics ns config templateCtx template)
      (mgr.applyRole ns config templateCtx template) := by
  unfold applyRoleWithMetrics applyRole applyBuilt
  refine Erases.bind_quiet (recordTemplates_quiet _ _) fun _ => ?_
  cases mgr.buildRole ns config templateCtx template with
  | error e => exact .pure _
  | ok role =>
    have h := (createOrUpdateRoleWithMetrics_erases config role).bind fun err =>
      Erases.bind_quiet (p := (monadLift (roleOperation role err) : WithMetrics String))
        (fun _ c => congrArg Prod.snd (roleOperation_run role err c)) fun operation =>
        Erases.bind_quiet (recordUpsert_quiet config "role" operation ns.metadata.name err)
          fun _ => .pure err
    rwa [bind_pure] at h

end Apply

theorem applyRBACForNamespaceWithMetrics_erases (mgr : Manager) (ns : Namespace)
    (config : NamespaceRBACConfig) :
    Erases (mgr.applyRBACForNamespaceWithMetrics ns config)
      (applyRBACForNamespace (m := StateM Cluster) mgr ns config) :=
  Erases.exceptT_bind (forEachTemplate_erases _ (applyRoleWithMetrics_erases mgr ns config _) _)
    fun _ => Erases.exceptT_bind (forEachTemplate_erases _ (fun _ =>
      applyBuiltWithMetrics_erases config _ _ _ _ (createOrUpdateClusterRoleWithMetrics_erases config))
      _)
    fun _ => Erases.exceptT_bind (forEachTemplate_erases _ (fun _ =>
      applyBuiltWithMetrics_erases config _ _ _ _ (createOrUpdateRoleBindingWithMetrics_erases config))
      _)
    fun _ => forEachTemplate_erases _ (fun _ => applyBuiltWithMetrics_erases config _ _ _ _
      (createOrUpdateClusterRoleBindingWithMetrics_erases config)) _

end Manager

/-! ### What the metrics record -/

/-- From every log and store, `p` only appends updates satisfying `P`. -/
def Appends {α : Type} (P : MetricUpdate → Prop) (p : WithMetrics α) : Prop :=
  ∀ log c, ∃ new, ((p.run log).run c).1.2 = log ++ new ∧ ∀ u ∈ new, P u

namespace Appends
variable {α β ε : Type} {P : MetricUpdate → Prop}

theorem pure (a : α) : Appends P (Pure.pure a) :=
  fun log _ => ⟨[], (List.append_nil log).symm, by simp⟩

theorem lift (q : StateM Cluster α) : Appends P (monadLift q) :=
  fun log _ => ⟨[], (List.append_nil log).symm, by simp⟩

theorem modify_append {u : MetricUpdate} (hu : P u) : Appends P (modify (· ++ [u])) :=
  fun _ _ => ⟨[u], rfl, by simpa using hu⟩

theorem bind {p : WithMetrics α} {f : α → WithMetrics β} (hp : Appends P p)
    (hf : ∀ a, Appends P (f a)) : Appends P (p >>= f) := by
  intro log c
  obtain ⟨new₁, h₁, hP₁⟩ := hp log c
  rcases hrun : (p.run log).run c with ⟨⟨a, log'⟩, c'⟩
  rw [hrun] at h₁
  obtain ⟨new₂, h₂, hP₂⟩ := hf a log' c'
  refine ⟨new₁ ++ new₂, ?_, fun u hu => (List.mem_append.mp hu).elim (hP₁ u) (hP₂ u)⟩
  simp only [StateT.run, Bind.bind, StateT.bind] at hrun h₂ ⊢
  rw [hrun, h₂, ← List.append_assoc, ← h₁]

theorem exceptT_bind {p : WithMetrics (Except ε α)} {f : α → ExceptT ε WithMetrics β}
    (hp : Appends P p) (hf : ∀ a, Appends P (f a).run) : Appends P (ExceptT.mk p >>= f).run := by
  simp only [ExceptT.run_bind, ExceptT.run_mk]
  exact hp.bind fun r => by
    cases r with
    | error e => exact .pure _
    | ok a => exact hf a

end Appends

theorem forEachTemplate_appends {γ : Type} {P : MetricUpdate → Prop} (context : γ → String)
    {step : γ → WithMetrics (Except GoError Unit)} (h : ∀ t, Appends P (step t))
    (templates : List γ) : Appends P (forEachTemplate context step templates) := by
  induction templates with
  | nil => exact .pure _
  | cons t rest ih =>
    simp only [forEachTemplate]
    exact (h t).bind fun r => by
      rcases r with e | ⟨⟨⟩⟩
      · exact .pure _
      · exact ih

theorem recordTemplates_appends {P : MetricUpdate → Prop} {config : String}
    {processed : List (String × Bool)}
    (h : ∀ p ∈ processed, P (.templateProcessing config p.1 p.2)) :
    Appends P (recordTemplates config processed) := by
  induction processed with
  | nil => exact .pure _
  | cons p rest ih =>
    obtain ⟨templateType, failed⟩ := p
    refine (Appends.modify_append (h _ (List.mem_cons_self _ _))).bind fun _ => ?_
    cases failed
    · exact ih fun p hp => h p (List.mem_cons_of_mem _ hp)
    · exact .pure _

theorem run_bind_of_run {α β : Type} {p : WithMetrics α} {f : α → WithMetrics β}
    {log log' : Metrics} {c c' : Cluster} {a : α} (h : (p.run log).run c = ((a, log'), c')) :
    ((p >>= f).run log).run c = ((f a).run log').run c' := by
  simp only [StateT.run, Bind.bind, StateT.bind] at h ⊢
  rw [h]

theorem Appends.run_of_erases {α : Type} {P : MetricUpdate → Prop} {p : WithMetrics α}
    {q : StateM Cluster α} (hp : Appends P p) (he : Erases p q) (log : Metrics) (c : Cluster) :
    ∃ new, (p.run log).run c = (((q.run c).1, log ++ new), (q.run c).2) ∧ ∀ u ∈ new, P u := by
  obtain ⟨new, h, hP⟩ := hp log c
  refine ⟨new, ?_, hP⟩
  rw [← he log c, ← h]
  rfl

theorem Appends.bind_run {α β : Type} {P : MetricUpdate → Prop} {p : WithMetrics α}
    {f : α → WithMetrics β} {log new₁ : Metrics} {c c' : Cluster} {a : α}
    (hp : (p.run log).run c = ((a, log ++ new₁), c')) (hP : ∀ u ∈ new₁, P u)
    (hf : ∃ new, (((f a).run (log ++ new₁)).run c').1.2 = log ++ new₁ ++ new ∧ ∀ u ∈ new, P u) :
    ∃ new, (((p >>= f).run log).run c).1.2 = log ++ new ∧ ∀ u ∈ new, P u := by
  obtain ⟨new₂, h₂, hP₂⟩ := hf
  refine ⟨new₁ ++ new₂, ?_, fun u hu => (List.mem_append.mp hu).elim (hP u) (hP₂ u)⟩
  rw [run_bind_of_run hp, h₂, List.append_assoc]

theorem recordTemplates_run_ok (config : String) (processed : List (String × Bool)) (log : Metrics)
    (c : Cluster) (h : ∀ p ∈ processed, p.2 = false) :
    ((recordTemplates config processed).run log).run c =
      (((), log ++ processed.map fun p => .templateProcessing config p.1 p.2), c) := by
  induction processed generalizing log with
  | nil => simp [recordTemplates]
  | cons p rest ih =>
    obtain ⟨templateType, failed⟩ := p
    obtain rfl : failed = false := h _ (List.mem_cons_self _ _)
    simp only [recordTemplates, recordTemplateProcessing, run_modify_bind, Bool.false_eq_true,
      if_false]
    rw [ih _ fun p hp => h p (List.mem_cons_of_mem _ hp)]
    simp

theorem upsertAttempt_run_of_notFound {k : RbacKind} {merge : k.Obj → k.Obj → k.Obj}
    {strategy : MergeStrategy} {record : MergeStrategy → WithMetrics Unit} {obj : k.Obj}
    {c : Cluster} (h : c.read k (k.key obj) = .error .notFound) (log : Metrics) :
    ((upsertAttempt k merge strategy record obj).run log).run c =
      ((.done ((c.create k obj).1.mapError .status), log), (c.create k obj).2) := by
  unfold upsertAttempt
  rw [WithMetrics.get_eq, run_lift_bind, show (Client.get k (k.key obj) : StateM Cluster _).run c =
    (c.read k (k.key obj), c) from rfl, h]
  rfl

section Upserts
variable {P : MetricUpdate → Prop} {k : RbacKind} {merge : k.Obj → k.Obj → k.Obj}
  {strategy : MergeStrategy} {record : MergeStrategy → WithMetrics Unit}
  (hrecord : ∀ s, s = strategy →
    s = MergeStrategy.ignore ∨ s = MergeStrategy.replace ∨ s = MergeStrategy.merge →
      Appends P (record s))
include hrecord

theorem upsertAttempt_appends (obj : k.Obj) : Appends P (upsertAttempt k merge strategy record obj) := by
  unfold upsertAttempt
  refine (Appends.lift _).bind fun r => ?_
  rcases r with e | existing
  · cases e
    case notFound => exact (Appends.lift _).bind fun _ => .pure _
    all_goals exact .pure _
  · dsimp only
    split_ifs with h₁ h₂ h₃
    · exact (hrecord _ h₁.symm (.inl rfl)).bind fun _ => .pure _
    · exact (hrecord _ h₂.symm (.inr (.inl rfl))).bind fun _ => (Appends.lift _).bind fun _ => .pure _
    · exact (hrecord _ h₃.symm (.inr (.inr rfl))).bind fun _ =>
        (Appends.lift _).bind fun _ => .pure _
    · exact .pure _

theorem upsertOnce_appends (obj : k.Obj) : Appends P (upsertOnce k merge strategy record obj) :=
  (upsertAttempt_appends hrecord obj).bind fun r => by cases r <;> exact .pure _

theorem upsertWithRetry_appends (kindName : String) (retry n : Nat) (obj : k.Obj) :
    Appends P (upsertWithRetry k merge strategy record kindName retry n obj) := by
  induction n generalizing obj with
  | zero => exact .pure _
  | succ n ih =>
    exact (upsertAttempt_appends hrecord obj).bind fun r => by
      cases r with
      | done => exact .pure _
      | conflict obj' => exact ih obj'

end Upserts

private theorem UpsertPost.read_ok {k : RbacKind} {merge : k.Obj → k.Obj → k.Obj}
    {strategy : MergeStrategy} {c c' : Cluster} {obj : k.Obj}
    (h : UpsertPost k merge strategy c obj (.ok (), c')) : ∃ o, c'.read k (k.key obj) = .ok o := by
  have hg : c.Grows c' := h.grows
  rcases hread : c.read k (k.key obj) with e | existing
  · unfold UpsertPost at h
    rw [hread] at h
    cases e
    case notFound =>
      have hf := (c.read_eq_notFound_iff.mp hread).1
      cases hr : c.createRefusal k obj
      · simp only [Answered, hr, Prod.mk.injEq] at h
        obtain ⟨-, rfl⟩ := h
        exact ⟨k.withResourceVersion obj (c.revision + 1),
          (c.put k obj).read_eq_ok_iff.mpr ⟨by simpa using hf, by simp⟩⟩
      · simp [Answered, hr] at h
    all_goals simp at h
  · obtain ⟨hf, hs⟩ := c.read_eq_ok_iff.mp hread
    obtain ⟨o, ho⟩ := Option.isSome_iff_exists.mp (hg.present k (k.key obj) (by simp [hs]))
    exact ⟨o, c'.read_eq_ok_iff.mpr ⟨hg.faults ▸ hf, ho⟩⟩

/-- The metric updates an application of `config` to namespace `namespaceName` may make. -/
def ApplicationUpdate (config : NamespaceRBACConfig) (namespaceName : String) :
    MetricUpdate → Prop
  | .resourceOperation c t operation result =>
    c = config.metadata.name ∧ operation = if t = "role" ∧ result = "success" then "update" else "create"
  | .managedResources c t n count =>
    c = config.metadata.name ∧ count = 1 ∧
      n = if t = "role" ∨ t = "rolebinding" then namespaceName else ""
  | .templateProcessing c t _ =>
    c = config.metadata.name ∧ t ∈ ["role_name", "role_labels", "role_annotations",
      "clusterrole_name", "rolebinding_name", "clusterrolebinding_name"]
  | .conflictResolution c s t =>
    c = config.metadata.name ∧
      s = (config.spec.config.bind (·.mergeStrategy)).getD MergeStrategy.merge ∧
      s ∈ [MergeStrategy.ignore, MergeStrategy.replace, MergeStrategy.merge] ∧
      t ∈ ["role", "clusterrole", "rolebinding", "clusterrolebinding"]
  | _ => False

namespace Manager

section Apply
variable (mgr : Manager) (ns : Namespace) (config : NamespaceRBACConfig)
  (templateCtx : TemplateContext)

private theorem recordConflictResolution_appends (resourceType : String)
    (ht : resourceType ∈ ["role", "clusterrole", "rolebinding", "clusterrolebinding"]) :
    ∀ s, s = mergeStrategyOf config →
      s = MergeStrategy.ignore ∨ s = MergeStrategy.replace ∨ s = MergeStrategy.merge →
        Appends (ApplicationUpdate config ns.metadata.name)
          (recordConflictResolution config.metadata.name s resourceType) := by
  rintro s rfl hs
  refine Appends.modify_append ⟨rfl, mergeStrategyOf_eq config, ?_, ht⟩
  simpa using hs

private theorem createOrUpdateRoleWithMetrics_appends (role : Role) :
    Appends (ApplicationUpdate config ns.metadata.name) (createOrUpdateRoleWithMetrics config role) :=
  upsertWithRetry_appends (recordConflictResolution_appends ns config "role" (by simp)) _ _ _ _

private theorem createOrUpdateClusterRoleWithMetrics_appends (clusterRole : ClusterRole) :
    Appends (ApplicationUpdate config ns.metadata.name)
      (createOrUpdateClusterRoleWithMetrics config clusterRole) :=
  upsertOnce_appends (recordConflictResolution_appends ns config "clusterrole" (by simp)) _

private theorem createOrUpdateRoleBindingWithMetrics_appends (roleBinding : RoleBinding) :
    Appends (ApplicationUpdate config ns.metadata.name)
      (createOrUpdateRoleBindingWithMetrics config roleBinding) :=
  upsertWithRetry_appends (recordConflictResolution_appends ns config "rolebinding" (by simp)) _ _ _ _

private theorem createOrUpdateClusterRoleBindingWithMetrics_appends
    (clusterRoleBinding : ClusterRoleBinding) :
    Appends (ApplicationUpdate config ns.metadata.name)
      (createOrUpdateClusterRoleBindingWithMetrics config clusterRoleBinding) :=
  upsertOnce_appends (recordConflictResolution_appends ns config "clusterrolebinding" (by simp)) _

private theorem recordUpsert_appends {resourceType operation gaugeNamespace : String}
    {err : Except GoError Unit}
    (hop : operation = if resourceType = "role" ∧ resultLabel err = "success" then "update"
      else "create")
    (hg : gaugeNamespace =
      if resourceType = "role" ∨ resourceType = "rolebinding" then ns.metadata.name else "") :
    Appends (ApplicationUpdate config ns.metadata.name)
      (recordUpsert config resourceType operation gaugeNamespace err) := by
  refine (Appends.modify_append ⟨rfl, hop⟩).bind fun _ => ?_
  cases err with
  | ok => exact Appends.modify_append ⟨rfl, rfl, hg⟩
  | error => exact .pure _

private theorem applyBuiltWithMetrics_appends {α : Type} {resourceType gaugeNamespace : String}
    (hr : resourceType ≠ "role")
    (hg : gaugeNamespace =
      if resourceType = "role" ∨ resourceType = "rolebinding" then ns.metadata.name else "")
    {processed : List (String × Bool)}
    (hp : ∀ p ∈ processed, ApplicationUpdate config ns.metadata.name
      (.templateProcessing config.metadata.name p.1 p.2))
    (built : Except GoError α) {upsert : α → WithMetrics (Except GoError Unit)}
    (hupsert : ∀ obj, Appends (ApplicationUpdate config ns.metadata.name) (upsert obj)) :
    Appends (ApplicationUpdate config ns.metadata.name)
      (applyBuiltWithMetrics config resourceType gaugeNamespace processed built upsert) := by
  refine (recordTemplates_appends hp).bind fun _ => ?_
  cases built with
  | error e => exact .pure _
  | ok obj =>
    exact (hupsert obj).bind fun err =>
      (recordUpsert_appends ns config (by simp [hr]) hg).bind fun _ => .pure err

private theorem buildRole_processed {template : RoleTemplate} {role : Role}
    (h : mgr.buildRole ns config templateCtx template = .ok role) :
    (processTemplate mgr.engine template.name templateCtx).toBool = true ∧
      (processMap mgr.engine template.labels templateCtx).toBool = true ∧
      (processMap mgr.engine template.annotations templateCtx).toBool = true := by
  unfold buildRole processMetadata at h
  cases h₁ : processTemplate mgr.engine template.name templateCtx <;>
    cases h₂ : processMap mgr.engine template.labels templateCtx <;>
    cases h₃ : processMap mgr.engine template.annotations templateCtx <;>
    simp [h₁, h₂, h₃, Except.mapError, bind, Except.bind, Except.toBool] at h ⊢

private theorem applyRoleWithMetrics_appends (template : RoleTemplate) :
    Appends (ApplicationUpdate config ns.metadata.name)
      (mgr.applyRoleWithMetrics ns config templateCtx template) := by
  unfold applyRoleWithMetrics
  refine (recordTemplates_appends (by simp [ApplicationUpdate])).bind fun _ => ?_
  cases mgr.buildRole ns config templateCtx template with
  | error e => exact .pure _
  | ok role =>
    intro log c
    obtain ⟨new₁, h₁, hP₁⟩ := (createOrUpdateRoleWithMetrics_appends ns config role).run_of_erases
      (createOrUpdateRoleWithMetrics_erases config role) log c
    have hpost := createOrUpdateRole_quiet config c role
    rcases hq : (createOrUpdateRole (m := StateM Cluster) role config).run c with ⟨err, c'⟩
    rw [hq] at h₁ hpost
    refine Appends.bind_run h₁ hP₁ ?_
    dsimp only
    rw [run_lift_bind, roleOperation_run]
    refine ((recordUpsert_appends ns config ?_ (by simp)).bind fun _ => .pure err) _ c'
    rcases err with e | ⟨⟨⟩⟩
    · simp [resultLabel, Except.toBool]
    · obtain ⟨o, ho⟩ := UpsertPost.read_ok hpost
      simp [ho, resultLabel, Except.toBool]

/-- A role that did not exist is created and counted as an update. -/
theorem applyRole_counts_creation_as_update (template : RoleTemplate) (role : Role)
    (log : Metrics) (c : Cluster) (hbuild : mgr.buildRole ns config templateCtx template = .ok role)
    (habsent : c.read .role (RbacKind.key .role role) = .error .notFound)
    (hcreate : c.createRefusal .role role = none) :
    ((mgr.applyRoleWithMetrics ns config templateCtx template).run log).run c =
      ((.ok (), log ++ [.templateProcessing config.metadata.name "role_name" false,
        .templateProcessing config.metadata.name "role_labels" false,
        .templateProcessing config.metadata.name "role_annotations" false,
        .resourceOperation config.metadata.name "role" "update" "success",
        .managedResources config.metadata.name "role" ns.metadata.name 1]), c.put .role role) := by
  obtain ⟨hname, hlabels, hannotations⟩ := mgr.buildRole_processed ns config templateCtx hbuild
  have hupsert : ((createOrUpdateRoleWithMetrics config role).run (log ++
      [.templateProcessing config.metadata.name "role_name" false,
        .templateProcessing config.metadata.name "role_labels" false,
        .templateProcessing config.metadata.name "role_annotations" false])).run c =
      ((.ok (), log ++ [.templateProcessing config.metadata.name "role_name" false,
        .templateProcessing config.metadata.name "role_labels" false,
        .templateProcessing config.metadata.name "role_annotations" false]), c.put .role role) := by
    rw [createOrUpdateRoleWithMetrics, upsertWithRetry, run_bind_of_run
      (upsertAttempt_run_of_notFound habsent _)]
    simp [Cluster.create, Cluster.answer, hcreate, Except.mapError]
  have hread : (c.put .role role).read .role (RbacKind.key .role role) =
      .ok (RbacKind.withResourceVersion .role role (c.revision + 1)) :=
    (c.put .role role).read_eq_ok_iff.mpr ⟨by simpa using (c.read_eq_notFound_iff.mp habsent).1,
      by simp⟩
  unfold applyRoleWithMetrics
  simp only [hname, hlabels, hannotations, Bool.not_true, hbuild]
  rw [run_bind_of_run (recordTemplates_run_ok _ _ log c (by simp))]
  simp only [List.map_cons, List.map_nil]
  rw [run_bind_of_run hupsert, run_lift_bind, roleOperation_run, hread]
  show ((_, _ ++ [_] ++ [_]), _) = _
  simp [Except.toBool, resultLabel]

end Apply

private theorem applyRBACForNamespaceWithMetrics_appends (mgr : Manager) (ns : Namespace)
    (config : NamespaceRBACConfig) :
    Appends (ApplicationUpdate config ns.metadata.name)
      (mgr.applyRBACForNamespaceWithMetrics ns config) :=
  Appends.exceptT_bind (forEachTemplate_appends _ (applyRoleWithMetrics_appends mgr ns config _) _)
    fun _ => Appends.exceptT_bind (forEachTemplate_appends _ (fun _ =>
      applyBuiltWithMetrics_appends ns config (by decide) (by simp) (by simp [ApplicationUpdate]) _
        (createOrUpdateClusterRoleWithMetrics_appends ns config)) _)
    fun _ => Appends.exceptT_bind (forEachTemplate_appends _ (fun _ =>
      applyBuiltWithMetrics_appends ns config (by decide) (by simp) (by simp [ApplicationUpdate]) _
        (createOrUpdateRoleBindingWithMetrics_appends ns config)) _)
    fun _ => forEachTemplate_appends _ (fun _ =>
      applyBuiltWithMetrics_appends ns config (by decide) (by simp) (by simp [ApplicationUpdate]) _
        (createOrUpdateClusterRoleBindingWithMetrics_appends ns config)) _

/-- An application with metrics writes as without them and appends only what is allowed. -/
theorem applyRBACForNamespace_metric_labels (mgr : Manager) (ns : Namespace)
    (config : NamespaceRBACConfig) :
    Erases (mgr.applyRBACForNamespaceWithMetrics ns config)
        (applyRBACForNamespace (m := StateM Cluster) mgr ns config) ∧
      Appends (ApplicationUpdate config ns.metadata.name)
        (mgr.applyRBACForNamespaceWithMetrics ns config) :=
  ⟨applyRBACForNamespaceWithMetrics_erases mgr ns config,
    applyRBACForNamespaceWithMetrics_appends mgr ns config⟩

/-- The role template `viewer` applied to namespace `team-a` of the empty store. -/
theorem applyRole_counts_creation_as_update_viewer :
    let mgr : Manager := ⟨⟨fun _ => none, fun _ text _ => .ok text⟩, {}⟩
    let ns : Namespace := ⟨{ name := "team-a" }⟩
    let config : NamespaceRBACConfig := { metadata := { name := "dev" } }
    let viewer : RoleTemplate := { name := "viewer", rules := [{ verbs := ["get"] }] }
    let role : Role :=
      { metadata := { name := "viewer", «namespace» := "team-a",
                      labels := mergeLabels none config "team-a",
                      ownerReferences := [namespaceOwnerReference ns] }
        rules := viewer.rules }
    mgr.buildRole ns config (buildContext ns config) viewer = .ok role ∧
      Cluster.empty.read .role (RbacKind.key .role role) = .error .notFound ∧
      Cluster.empty.createRefusal .role role = none ∧
      ((mgr.applyRoleWithMetrics ns config (buildContext ns config) viewer).run []).run
          Cluster.empty =
        ((.ok (), [.templateProcessing "dev" "role_name" false,
          .templateProcessing "dev" "role_labels" false,
          .templateProcessing "dev" "role_annotations" false,
          .resourceOperation "dev" "role" "update" "success",
          .managedResources "dev" "role" "team-a" 1]), Cluster.empty.put .role role) :=
  ⟨rfl, rfl, rfl, applyRole_counts_creation_as_update _ _ _ _ _ _ [] _ rfl rfl rfl⟩

end Manager

/-! ### The cleanup -/

private theorem cleanupLoop_run {γ : Type} (context resourceType : String)
    (check : γ → WithMetrics (Except GoError Unit)) (hcheck : ∀ t, check t = pure (.ok ()))
    (templates : List γ) (log : Metrics) (c : Cluster) :
    ((forEachTemplate (fun _ => context) (fun t => do
        let err ← check t
        recordCleanup resourceType err
        return err) templates).run log).run c =
      ((.ok (), log ++ templates.map fun _ => .cleanup resourceType "success"), c) := by
  induction templates generalizing log with
  | nil => simp [forEachTemplate]
  | cons t rest ih =>
    rw [forEachTemplate, run_bind_of_run (by rw [hcheck]; rfl)]
    dsimp only
    rw [ih]
    simp [resultLabel]

/-- The cleanup with metrics deletes nothing and counts a success per cluster-kind template. -/
theorem cleanupRBACForNamespace_counts_success (namespaceName : String)
    (config : NamespaceRBACConfig) (log : Metrics) (c : Cluster) :
    ((cleanupRBACForNamespaceWithMetrics namespaceName config).run log).run c =
      ((.ok (), log ++
        config.spec.rbacTemplates.clusterRoles.map (fun _ => .cleanup "clusterrole" "success") ++
        config.spec.rbacTemplates.clusterRoleBindings.map
          (fun _ => .cleanup "clusterrolebinding" "success")), c) := by
  unfold cleanupRBACForNamespaceWithMetrics
  simp only [ExceptT.run_bind, ExceptT.run_mk]
  rw [run_bind_of_run (cleanupLoop_run _ _
    (fun t : ClusterRoleTemplate => cleanupClusterRoleIfOrphaned t.name namespaceName config)
    (fun _ => rfl) _ _ _)]
  exact cleanupLoop_run _ _
    (fun t : ClusterRoleBindingTemplate =>
      cleanupClusterRoleBindingIfOrphaned t.name namespaceName config) (fun _ => rfl) _ _ _

end AclOperator
