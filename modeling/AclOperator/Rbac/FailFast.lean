import AclOperator.Rbac.Manager

/-! The order of an application: `ApplyRBACForNamespace` is the fail-fast run of one step per
template, and a failing step writes nothing. -/
namespace AclOperator

section Steps
variable {m : Type → Type} [Monad m]

/-- Steps with their failure contexts, run left to right up to the first failure. -/
def runSteps : List (String × m (Except GoError Unit)) → m (Except GoError Unit)
  | [] => return .ok ()
  | (context, step) :: rest => do
    match ← step with
    | .error e => return .error (.wrap context e)
    | .ok () => runSteps rest

theorem forEachTemplate_eq_runSteps {α : Type} (context : α → String)
    (step : α → m (Except GoError Unit)) (templates : List α) :
    forEachTemplate context step templates =
      runSteps (templates.map fun t => (context t, step t)) := by
  induction templates with
  | nil => rfl
  | cons t rest ih =>
    simp only [forEachTemplate, List.map_cons, runSteps]
    congr 1
    funext r
    cases r <;> simp [ih]

theorem runSteps_append [LawfulMonad m] (xs ys : List (String × m (Except GoError Unit))) :
    runSteps (xs ++ ys) =
      ExceptT.run (ExceptT.mk (runSteps xs) >>= fun _ => ExceptT.mk (runSteps ys)) := by
  simp only [ExceptT.run_bind, ExceptT.run_mk]
  induction xs with
  | nil => simp [runSteps]
  | cons s rest ih =>
    simp only [List.cons_append, runSteps, bind_assoc]
    congr 1
    funext r
    cases r <;> simp [ih]

end Steps

section Templates
variable {m : Type → Type} [Monad m] [Client m]

/-- One step per template, in the order and the contexts of `ApplyRBACForNamespace`. -/
def templateSteps (mgr : Manager) (ns : Namespace) (config : NamespaceRBACConfig) :
    List (String × m (Except GoError Unit)) :=
  let templateCtx := buildContext ns config
  let templates := config.spec.rbacTemplates
  templates.roles.map (fun t => ("failed to apply role " ++ t.name,
      mgr.applyRole ns config templateCtx t)) ++
    templates.clusterRoles.map (fun t => ("failed to apply cluster role " ++ t.name,
      mgr.applyClusterRole ns config templateCtx t)) ++
    templates.roleBindings.map (fun t => ("failed to apply role binding " ++ t.name,
      mgr.applyRoleBinding ns config templateCtx t)) ++
    templates.clusterRoleBindings.map (fun t => ("failed to apply cluster role binding " ++ t.name,
      mgr.applyClusterRoleBinding ns config templateCtx t))

theorem applyRBACForNamespace_eq_runSteps [LawfulMonad m] (mgr : Manager) (ns : Namespace)
    (config : NamespaceRBACConfig) :
    applyRBACForNamespace (m := m) mgr ns config = runSteps (templateSteps mgr ns config) := by
  simp only [applyRBACForNamespace, templateSteps, List.append_assoc, runSteps_append,
    forEachTemplate_eq_runSteps]
  rfl

end Templates

/-! ### On the store with no other writer -/

/-- The fail-fast run as the spec describes it over the store. -/
def failFast : List (String × StateM Cluster (Except GoError Unit)) → Cluster →
    Except GoError Unit × Cluster
  | [], c => (.ok (), c)
  | (context, step) :: rest, c =>
    match step.run c with
    | (.ok (), c₁) => failFast rest c₁
    | (.error e, _) => (.error (.wrap context e), c)

/-- A step that writes nothing when it fails. -/
def FailsClean (step : StateM Cluster (Except GoError Unit)) : Prop :=
  ∀ c e c', step.run c = (.error e, c') → c' = c

theorem runSteps_run (steps : List (String × StateM Cluster (Except GoError Unit)))
    (hclean : ∀ s ∈ steps, FailsClean s.2) (c : Cluster) :
    (runSteps steps).run c = failFast steps c := by
  induction steps generalizing c with
  | nil => rfl
  | cons s rest ih =>
    obtain ⟨context, step⟩ := s
    simp only [runSteps, failFast, StateT.run, bind, StateT.bind]
    rcases hrun : step c with ⟨_ | _, c₁⟩
    · rw [hclean _ (List.mem_cons_self _ _) c _ c₁ hrun]
      rfl
    · exact ih (fun s hs => hclean s (List.mem_cons_of_mem _ hs)) c₁

section Clean
variable {k : RbacKind} {merge : k.Obj → k.Obj → k.Obj} {strategy : MergeStrategy}

private theorem answered_state_of_error {c c' : Cluster} {e : GoError}
    {refusal : Option StatusError} {obj : k.Obj}
    (h : Answered refusal k c obj (.error e, c')) : c' = c := by
  cases refusal <;> simp_all [Answered]

theorem UpsertPost.state_of_error {c : Cluster} {obj : k.Obj} {e : GoError} {c' : Cluster}
    (h : UpsertPost k merge strategy c obj (.error e, c')) : c' = c := by
  unfold UpsertPost at h
  split at h
  · exact answered_state_of_error h
  · exact (Prod.mk.inj h).2
  · split_ifs at h
    · cases (Prod.mk.inj h).1
    · exact answered_state_of_error h
    · exact answered_state_of_error h
    · exact (Prod.mk.inj h).2

theorem applyBuilt_failsClean (upsert : k.Obj → StateM Cluster (Except GoError Unit))
    (hu : ∀ c obj, UpsertPost k merge strategy c obj ((upsert obj).run c))
    (built : Except GoError k.Obj) : FailsClean (Manager.applyBuilt built upsert) := by
  intro c e c' h
  cases built with
  | error => exact (Prod.mk.inj h).2.symm
  | ok obj =>
    have hone := hu c obj
    rw [show (upsert obj).run c = (.error e, c') from h] at hone
    exact hone.state_of_error

end Clean

theorem templateSteps_failsClean (mgr : Manager) (ns : Namespace) (config : NamespaceRBACConfig) :
    ∀ s ∈ templateSteps (m := StateM Cluster) mgr ns config, FailsClean s.2 := by
  simp only [templateSteps, List.mem_append, List.mem_map]
  rintro _ (((⟨t, -, rfl⟩ | ⟨t, -, rfl⟩) | ⟨t, -, rfl⟩) | ⟨t, -, rfl⟩)
  · exact applyBuilt_failsClean (k := .role) (createOrUpdateRole · config)
      (createOrUpdateRole_quiet config) _
  · exact applyBuilt_failsClean (k := .clusterRole) (createOrUpdateClusterRole · config)
      (createOrUpdateClusterRole_quiet config) _
  · exact applyBuilt_failsClean (k := .roleBinding) (createOrUpdateRoleBinding · config)
      (createOrUpdateRoleBinding_quiet config) _
  · exact applyBuilt_failsClean (k := .clusterRoleBinding)
      (createOrUpdateClusterRoleBinding · config) (createOrUpdateClusterRoleBinding_quiet config) _

/-- With no other writer, `ApplyRBACForNamespace` is the fail-fast run of its template steps. -/
theorem applyRBACForNamespace_fail_fast (mgr : Manager) (ns : Namespace)
    (config : NamespaceRBACConfig) (c : Cluster) :
    (applyRBACForNamespace (m := StateM Cluster) mgr ns config).run c =
      failFast (templateSteps mgr ns config) c := by
  rw [applyRBACForNamespace_eq_runSteps]
  exact runSteps_run _ (templateSteps_failsClean mgr ns config) c

end AclOperator
