import AclOperator.Controller.ConfigReconciler

/-! The namespace controller (`NamespaceReconciler`): an event on a namespace applies the configs
that match it and cleans up the others; the cleanup writes nothing. -/
namespace AclOperator

namespace NamespaceReconciler

section Pass
variable {m : Type → Type} [Monad m] [Client m] (re : Regexp) (mgr : Manager)

/-- `handleNamespaceCreateOrUpdate`: every failure inside the loop is ignored. -/
def handleNamespaceCreateOrUpdate (ns : Namespace) : m (Result × Except GoError Unit) := do
  match ← Client.listConfigs with
  | .error e => return ({}, .error (.status e))
  | .ok configs =>
    configs.forM fun config => do
      match namespaceMatches re ns config.spec.namespaceSelector with
      | .error _ => pure ()
      | .ok true => let _ ← applyRBACForNamespace mgr ns config
      | .ok false => let _ ← cleanupRBACForNamespace ns.metadata.name config
    return ({}, .ok ())

/-- `handleNamespaceDeletion`: the cleanup of every config, each failure ignored. -/
def handleNamespaceDeletion (namespaceName : String) : m (Result × Except GoError Unit) := do
  match ← Client.listConfigs with
  | .error e => return ({}, .error (.status e))
  | .ok configs =>
    configs.forM fun config => do
      let _ ← cleanupRBACForNamespace namespaceName config
    return ({}, .ok ())

/-- `Reconcile` for the namespace of a name: a namespace not found has been deleted. -/
def reconcile (name : String) : m (Result × Except GoError Unit) := do
  match ← Client.getNamespace name with
  | .error .notFound => handleNamespaceDeletion name
  | .error e => return ({}, .error (.status e))
  | .ok ns => handleNamespaceCreateOrUpdate re mgr ns

end Pass

/-! ### A namespace pass removes nothing -/

section Quiet
variable (re : Regexp) (mgr : Manager)

private theorem forM_grows {α : Type} (body : α → StateM Cluster PUnit)
    (hbody : ∀ a (c : Cluster), c.Grows ((body a).run c).2) (l : List α) (c : Cluster) :
    c.Grows ((l.forM body).run c).2 := by
  induction l generalizing c with
  | nil => exact .refl c
  | cons a rest ih =>
    simp only [List.forM_cons, StateT.run, bind, StateT.bind]
    exact (hbody a c).trans (ih _)

private theorem matchOrCleanup_grows (ns : Namespace) (config : NamespaceRBACConfig)
    (c : Cluster) :
    c.Grows ((match namespaceMatches re ns config.spec.namespaceSelector with
      | .error _ => pure ()
      | .ok true => do let _ ← applyRBACForNamespace (m := StateM Cluster) mgr ns config
      | .ok false => do
        let _ ← cleanupRBACForNamespace (m := StateM Cluster) ns.metadata.name config :
        StateM Cluster PUnit).run c).2 := by
  rcases namespaceMatches re ns config.spec.namespaceSelector with _ | _ | _
  · exact .refl c
  · simp only [cleanupRBACForNamespace_eq]
    exact .refl c
  · exact applyRBACForNamespace_grows mgr ns config c

theorem handleNamespaceCreateOrUpdate_grows (ns : Namespace) (c : Cluster) :
    c.Grows ((handleNamespaceCreateOrUpdate (m := StateM Cluster) re mgr ns).run c).2 := by
  simp only [handleNamespaceCreateOrUpdate, StateT.run, bind, StateT.bind]
  cases c.listConfigs with
  | error => exact .refl c
  | ok configs => exact forM_grows _ (matchOrCleanup_grows re mgr ns) configs c

/-- An event on a live namespace keeps every stored RBAC object, orphaned ones included. -/
theorem handleNamespaceCreateOrUpdate_keeps_objects (ns : Namespace) (c : Cluster)
    (k : RbacKind) (key : NamespacedName) :
    (c.rbac k key).isSome →
      (((handleNamespaceCreateOrUpdate (m := StateM Cluster) re mgr ns).run c).2.rbac k
        key).isSome :=
  (handleNamespaceCreateOrUpdate_grows re mgr ns c).present k key

/-- Config `dev` no longer takes `team-a`; its role there survives the event on `team-a`. -/
theorem handleNamespaceCreateOrUpdate_keeps_unmatched_role :
    let re : Regexp := ⟨fun _ => none, fun _ _ => false⟩
    let mgr : Manager := ⟨⟨fun _ => none, fun _ text _ => .ok text⟩, {}⟩
    let ns : Namespace := ⟨{ name := "team-a" }⟩
    let config : NamespaceRBACConfig :=
      { metadata := { name := "dev" }
        spec := { namespaceSelector := { includeNamespaces := ["team-b"] } } }
    let role : Role :=
      ⟨{ name := "viewer", «namespace» := "team-a", labels := mergeLabels none config "team-a" },
        []⟩
    let c : Cluster := { Cluster.empty.put .role role with namespaces := [ns], configs := [config] }
    namespaceMatches re ns config.spec.namespaceSelector = .ok false ∧
      role.metadata.labels.get? configLabel = some "dev" ∧
      role.metadata.labels.get? namespaceLabel = some "team-a" ∧
      (c.rbac .role ⟨"team-a", "viewer"⟩).isSome = true ∧
      (((handleNamespaceCreateOrUpdate (m := StateM Cluster) re mgr ns).run c).2.rbac .role
        ⟨"team-a", "viewer"⟩).isSome = true := by
  intro re mgr ns config role c
  have h : (c.rbac .role ⟨"team-a", "viewer"⟩).isSome = true := by decide
  exact ⟨rfl, by decide, by decide, h,
    handleNamespaceCreateOrUpdate_keeps_objects re mgr ns c .role _ h⟩

theorem handleNamespaceDeletion_state (namespaceName : String) (c : Cluster) :
    ((handleNamespaceDeletion (m := StateM Cluster) namespaceName).run c).2 = c := by
  simp only [handleNamespaceDeletion, cleanupRBACForNamespace_eq, StateT.run, bind, StateT.bind]
  cases c.listConfigs with
  | error => rfl
  | ok configs =>
    induction configs with
    | nil => rfl
    | cons _ _ ih => exact ih

theorem reconcile_grows (name : String) (c : Cluster) :
    c.Grows ((reconcile (m := StateM Cluster) re mgr name).run c).2 := by
  simp only [reconcile, StateT.run, bind, StateT.bind]
  cases c.getNamespace name with
  | error e =>
    cases e
    case notFound =>
      show c.Grows ((handleNamespaceDeletion (m := StateM Cluster) name).run c).2
      rw [handleNamespaceDeletion_state]
      exact .refl c
    all_goals exact .refl c
  | ok ns => exact handleNamespaceCreateOrUpdate_grows re mgr ns c

end Quiet

end NamespaceReconciler

end AclOperator
