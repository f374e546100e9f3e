import AclOperator.Store.Cluster
import AclOperator.Rbac.Merge

/-! Create-or-update under a merge strategy (`createOrUpdate*` of `pkg/rbac`), the namespaced
kinds retrying on a version conflict. -/
namespace AclOperator

/-- The strategy a config selects, `merge` when it names none. -/
def mergeStrategyOf (config : NamespaceRBACConfig) : MergeStrategy :=
  match config.spec.config with
  | some cfg => cfg.mergeStrategy.getD MergeStrategy.merge
  | none => MergeStrategy.merge

/-- How one pass of the loop body ends: a result, or a conflict on the modified object. -/
inductive Attempt (α : Type) where
  | done (result : Except GoError Unit)
  | conflict (obj : α)

/-- The answer to an update, as the loop body reads it. -/
def Attempt.ofUpdate {α : Type} (obj : α) : Except StatusError Unit → Attempt α
  | .error .conflict => .conflict obj
  | .error e => .done (.error (.status e))
  | .ok () => .done (.ok ())

section Upsert
variable {m : Type → Type} [Monad m] [Client m]

/-- One pass of the body the four `createOrUpdate*` functions share. -/
def upsertAttempt (k : RbacKind) (merge : k.Obj → k.Obj → k.Obj) (strategy : MergeStrategy)
    (recordConflictResolution : MergeStrategy → m Unit) (obj : k.Obj) : m (Attempt k.Obj) := do
  match ← Client.get k (k.key obj) with
  | .error .notFound => return .done ((← Client.create k obj).mapError .status)
  | .error e => return .done (.error (.status e))
  | .ok existing =>
    if strategy = MergeStrategy.ignore then
      recordConflictResolution MergeStrategy.ignore
      return .done (.ok ())
    else if strategy = MergeStrategy.replace then
      recordConflictResolution MergeStrategy.replace
      let obj := k.withResourceVersion obj (k.metadata existing).resourceVersion
      return .ofUpdate obj (← Client.update k obj)
    else if strategy = MergeStrategy.merge then
      recordConflictResolution MergeStrategy.merge
      let obj := k.withResourceVersion (merge existing obj) (k.metadata existing).resourceVersion
      return .ofUpdate obj (← Client.update k obj)
    else return .done (.error (.msg ("unknown merge strategy: " ++ strategy)))

/-- The cluster-scoped variant: a single attempt. -/
def upsertOnce (k : RbacKind) (merge : k.Obj → k.Obj → k.Obj) (strategy : MergeStrategy)
    (recordConflictResolution : MergeStrategy → m Unit) (obj : k.Obj) :
    m (Except GoError Unit) := do
  match ← upsertAttempt k merge strategy recordConflictResolution obj with
  | .done result => return result
  | .conflict _ => return .error (.status .conflict)

/-- The namespaced variant: `retry` attempts, each from the object the previous one modified. -/
def upsertWithRetry (k : RbacKind) (merge : k.Obj → k.Obj → k.Obj) (strategy : MergeStrategy)
    (recordConflictResolution : MergeStrategy → m Unit) (kindName : String) (retry : Nat) :
    Nat → k.Obj → m (Except GoError Unit)
  | 0, _ => return .error (.msg ("failed to update " ++ kindName ++ " after " ++ toString retry ++
      " retries due to conflicts"))
  | n + 1, obj => do
    match ← upsertAttempt k merge strategy recordConflictResolution obj with
    | .done result => return result
    | .conflict obj => upsertWithRetry k merge strategy recordConflictResolution kindName retry n obj

/-- `role.Rules = mergeRules(existing.Rules, role.Rules)`. -/
def mergeRoleRules (existing role : Role) : Role :=
  { role with rules := mergeRules existing.rules role.rules }

/-- `clusterRole.Rules = mergeRules(existing.Rules, clusterRole.Rules)`. -/
def mergeClusterRoleRules (existing clusterRole : ClusterRole) : ClusterRole :=
  { clusterRole with rules := mergeRules existing.rules clusterRole.rules }

/-- `roleBinding.Subjects = mergeSubjects(existing.Subjects, roleBinding.Subjects)`. -/
def mergeRoleBindingSubjects (existing roleBinding : RoleBinding) : RoleBinding :=
  { roleBinding with subjects := mergeSubjects existing.subjects roleBinding.subjects }

/-- `clusterRoleBinding.Subjects = mergeSubjects(existing.Subjects, ...)`. -/
def mergeClusterRoleBindingSubjects (existing clusterRoleBinding : ClusterRoleBinding) :
    ClusterRoleBinding :=
  { clusterRoleBinding with
    subjects := mergeSubjects existing.subjects clusterRoleBinding.subjects }

/-- `createOrUpdateRole`; its metrics are recorded by the variant of `Rbac/Metrics`. -/
def createOrUpdateRole (role : Role) (config : NamespaceRBACConfig) : m (Except GoError Unit) :=
  upsertWithRetry .role mergeRoleRules (mergeStrategyOf config) (fun _ => pure ()) "role" 3 3 role

def createOrUpdateClusterRole (clusterRole : ClusterRole) (config : NamespaceRBACConfig) :
    m (Except GoError Unit) :=
  upsertOnce .clusterRole mergeClusterRoleRules (mergeStrategyOf config) (fun _ => pure ())
    clusterRole

def createOrUpdateRoleBinding (roleBinding : RoleBinding) (config : NamespaceRBACConfig) :
    m (Except GoError Unit) :=
  upsertWithRetry .roleBinding mergeRoleBindingSubjects (mergeStrategyOf config) (fun _ => pure ())
    "rolebinding" 3 3 roleBinding

def createOrUpdateClusterRoleBinding (clusterRoleBinding : ClusterRoleBinding)
    (config : NamespaceRBACConfig) : m (Except GoError Unit) :=
  upsertOnce .clusterRoleBinding mergeClusterRoleBindingSubjects (mergeStrategyOf config)
    (fun _ => pure ()) clusterRoleBinding

end Upsert

/-! ### With no other writer -/

/-- The server answered a write of `obj` with no other writer: refused, or stored. -/
def Answered (refusal : Option StatusError) (k : RbacKind) (c : Cluster) (obj : k.Obj)
    (r : Except GoError Unit × Cluster) : Prop :=
  match refusal with
  | some e => r = (.error (.status e), c)
  | none => r = (.ok (), c.put k obj)

/-- What an upsert of `obj` under `strategy` does from `c` with no other writer. -/
def UpsertPost (k : RbacKind) (merge : k.Obj → k.Obj → k.Obj) (strategy : MergeStrategy)
    (c : Cluster) (obj : k.Obj) (r : Except GoError Unit × Cluster) : Prop :=
  match c.read k (k.key obj) with
  | .error .notFound => Answered (c.createRefusal k obj) k c obj r
  | .error e => r = (.error (.status e), c)
  | .ok existing =>
    let version := (k.metadata existing).resourceVersion
    let fault := (c.faults.update (.rbac k) (k.key obj)).map StatusError.other
    if strategy = MergeStrategy.ignore then r = (.ok (), c)
    else if strategy = MergeStrategy.replace then
      Answered fault k c (k.withResourceVersion obj version) r
    else if strategy = MergeStrategy.merge then
      Answered fault k c (k.withResourceVersion (merge existing obj) version) r
    else r = (.error (.msg ("unknown merge strategy: " ++ strategy)), c)

section Quiet
variable (k : RbacKind) (merge : k.Obj → k.Obj → k.Obj)
  (hmerge : ∀ existing obj, k.key (merge existing obj) = k.key obj)
  (strategy : MergeStrategy) (c : Cluster)

private theorem update_quiet {obj obj' existing : k.Obj} (h : c.read k (k.key obj) = .ok existing)
    (hk : k.key obj' = k.key obj)
    (hv : (k.metadata obj').resourceVersion = (k.metadata existing).resourceVersion) :
    ∃ r, (Attempt.ofUpdate obj' (c.update k obj').1, (c.update k obj').2) = (.done r.1, r.2) ∧
      Answered ((c.faults.update (.rbac k) (k.key obj)).map StatusError.other) k c obj' r := by
  rw [Cluster.update, c.updateRefusal_of_read (hk ▸ h) hv, hk]
  cases c.faults.update (.rbac k) (k.key obj)
  · exact ⟨(.ok (), c.put k obj'), rfl, rfl⟩
  · exact ⟨(.error (.status (.other _)), c), rfl, rfl⟩

include hmerge in
theorem upsertAttempt_quiet (obj : k.Obj) :
    ∃ r, (upsertAttempt (m := StateM Cluster) k merge strategy (fun _ => pure ()) obj).run c =
        (.done r.1, r.2) ∧
      UpsertPost k merge strategy c obj r := by
  simp only [upsertAttempt, StateT.run, bind, StateT.bind, Client.get, Client.create,
    Client.update, pure, StateT.pure, UpsertPost]
  rcases hread : c.read k (k.key obj) with e | existing
  · cases e
    case notFound =>
      refine ⟨((c.create k obj).1.mapError .status, (c.create k obj).2), rfl, ?_⟩
      unfold Cluster.create Cluster.answer
      cases c.createRefusal k obj <;> rfl
    all_goals exact ⟨(.error (.status _), c), rfl, rfl⟩
  · simp only
    split_ifs
    · exact ⟨(.ok (), c), rfl, rfl⟩
    · exact update_quiet k c hread (by simp) (by simp)
    · exact update_quiet k c hread (by simp [hmerge]) (by simp)
    · exact ⟨(.error _, c), rfl, rfl⟩

include hmerge in
theorem upsertOnce_quiet (obj : k.Obj) :
    UpsertPost k merge strategy c obj
      ((upsertOnce (m := StateM Cluster) k merge strategy (fun _ => pure ()) obj).run c) := by
  obtain ⟨r, hrun, hpost⟩ := upsertAttempt_quiet k merge hmerge strategy c obj
  simp only [upsertOnce, StateT.run, bind, StateT.bind] at hrun ⊢
  rw [hrun]
  exact hpost

include hmerge in
theorem upsertWithRetry_quiet (kindName : String) (retry n : Nat) (obj : k.Obj) :
    UpsertPost k merge strategy c obj
      ((upsertWithRetry (m := StateM Cluster) k merge strategy (fun _ => pure ()) kindName retry
        (n + 1) obj).run c) := by
  obtain ⟨r, hrun, hpost⟩ := upsertAttempt_quiet k merge hmerge strategy c obj
  simp only [upsertWithRetry, StateT.run, bind, StateT.bind] at hrun ⊢
  rw [hrun]
  exact hpost

end Quiet

section Kinds
variable (config : NamespaceRBACConfig) (c : Cluster)

theorem createOrUpdateRole_quiet (role : Role) :
    UpsertPost .role mergeRoleRules (mergeStrategyOf config) c role
      ((createOrUpdateRole (m := StateM Cluster) role config).run c) :=
  upsertWithRetry_quiet .role mergeRoleRules (fun _ _ => rfl) _ c "role" 3 2 role

theorem createOrUpdateClusterRole_quiet (clusterRole : ClusterRole) :
    UpsertPost .clusterRole mergeClusterRoleRules (mergeStrategyOf config) c clusterRole
      ((createOrUpdateClusterRole (m := StateM Cluster) clusterRole config).run c) :=
  upsertOnce_quiet .clusterRole mergeClusterRoleRules (fun _ _ => rfl) _ c clusterRole

theorem createOrUpdateRoleBinding_quiet (roleBinding : RoleBinding) :
    UpsertPost .roleBinding mergeRoleBindingSubjects (mergeStrategyOf config) c roleBinding
      ((createOrUpdateRoleBinding (m := StateM Cluster) roleBinding config).run c) :=
  upsertWithRetry_quiet .roleBinding mergeRoleBindingSubjects (fun _ _ => rfl) _ c "rolebinding" 3
    2 roleBinding

theorem createOrUpdateClusterRoleBinding_quiet (clusterRoleBinding : ClusterRoleBinding) :
    UpsertPost .clusterRoleBinding mergeClusterRoleBindingSubjects (mergeStrategyOf config) c
      clusterRoleBinding
      ((createOrUpdateClusterRoleBinding (m := StateM Cluster) clusterRoleBinding config).run c) :=
  upsertOnce_quiet .clusterRoleBinding mergeClusterRoleBindingSubjects (fun _ _ => rfl) _ c
    clusterRoleBinding

theorem mergeStrategyOf_eq :
    mergeStrategyOf config = (config.spec.config.bind (·.mergeStrategy)).getD MergeStrategy.merge := by
  rw [mergeStrategyOf]
  cases config.spec.config <;> rfl

end Kinds

/-! ### With other writers -/

/-- A retry of a merge writes back a rule another client removed in between. -/
theorem createOrUpdateRole_retry_writes_stale_rule :
    let getPods : PolicyRule := { verbs := ["get"], resources := ["pods"] }
    let watchServices : PolicyRule := { verbs := ["watch"], resources := ["services"] }
    let listDeployments : PolicyRule :=
      { verbs := ["list"], apiGroups := ["apps"], resources := ["deployments"] }
    let viewer : ObjectMeta := { name := "viewer", «namespace» := "team-a" }
    let stored := Cluster.empty.put .role (⟨viewer, [getPods]⟩ : Role)
    let otherWriter := fun c : Cluster =>
      (c.update .role (⟨{ viewer with resourceVersion := 1 }, [watchServices]⟩ : Role)).2
    let r := (createOrUpdateRole (m := StateM Interleaving) ⟨viewer, [listDeployments]⟩ {}).run
      ⟨stored, [id, otherWriter]⟩
    r.1.toBool = true ∧
      (r.2.cluster.rbac .role ⟨"team-a", "viewer"⟩).map (fun role : Role => role.rules) =
        some [watchServices, getPods, listDeployments] := by
  decide

end AclOperator
