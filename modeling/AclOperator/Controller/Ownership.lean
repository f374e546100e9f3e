import AclOperator.Controller.Lifecycle

/-! Who owns the RBAC objects of the store: what each pass writes, and where every object of a
run comes from. -/
namespace AclOperator

/-- The metadata the apply functions give an object of kind `k` for `ns` from `configName`. -/
structure OperatorMeta (k : RbacKind) (ns : Namespace) (configName : String) (md : ObjectMeta) :
    Prop where
  owned : md.labels.get? ownerLabel = some "namespace-rbac-operator"
  labelledConfig : md.labels.get? configLabel = some configName
  labelledNamespace : ns.metadata.name ≠ "" → md.labels.get? namespaceLabel = some ns.metadata.name
  inNamespace : k.namespaced = true →
    md.namespace = ns.metadata.name ∧
      md.ownerReferences =
        [{ apiVersion := "v1", kind := "Namespace", name := ns.metadata.name,
           uid := ns.metadata.uid, controller := true, blockOwnerDeletion := true }]
  unowned : k.namespaced = false → md.namespace = "" ∧ md.ownerReferences = []

theorem OperatorMeta.withResourceVersion {k : RbacKind} {ns : Namespace} {configName : String}
    {md : ObjectMeta} (h : OperatorMeta k ns configName md) (v : Nat) :
    OperatorMeta k ns configName { md with resourceVersion := v } :=
  ⟨h.owned, h.labelledConfig, h.labelledNamespace, h.inNamespace, h.unowned⟩

theorem mergeLabels_operator (templateLabels : GoMap) (config : NamespaceRBACConfig)
    (targetNamespace : String) :
    (mergeLabels templateLabels config targetNamespace).get? ownerLabel =
        some "namespace-rbac-operator" ∧
      (mergeLabels templateLabels config targetNamespace).get? configLabel =
        some config.metadata.name ∧
      (targetNamespace ≠ "" →
        (mergeLabels templateLabels config targetNamespace).get? namespaceLabel =
          some targetNamespace) :=
  ⟨by simp [mergeLabels_get?, ownerLabel, configLabel, namespaceLabel],
    by simp [mergeLabels_get?, configLabel, namespaceLabel], fun h => by simp [mergeLabels_get?, h]⟩

/-! ### What the apply functions build -/

namespace Manager
variable (mgr : Manager) (ns : Namespace) (config : NamespaceRBACConfig)
  (templateCtx : TemplateContext)

theorem processMetadata_ok {kindText name : String} {labels annotations : GoMap}
    {objNamespace : String} {md : ObjectMeta}
    (h : mgr.processMetadata ns config templateCtx kindText name labels annotations objNamespace =
      .ok md) :
    (∃ labels', md.labels = mergeLabels labels' config ns.metadata.name) ∧
      md.namespace = objNamespace ∧ md.ownerReferences = [] := by
  simp only [processMetadata, bind, Except.bind, pure, Except.pure] at h
  split at h
  · cases h
  split at h
  · cases h
  split at h
  · cases h
  cases h
  exact ⟨⟨_, rfl⟩, rfl, rfl⟩

theorem setOwner_ok {md md' : ObjectMeta} (h : mgr.setOwner ns md = .ok md') :
    md' = { md with ownerReferences := [namespaceOwnerReference ns] } := by
  unfold setOwner setControllerReference at h
  dsimp only at h
  split_ifs at h <;> simp only [Except.mapError, reduceCtorEq] at h
  cases hs : mgr.scheme.namespaceKindError <;> simp only [hs, reduceCtorEq, Except.ok.injEq] at h
  exact h.symm

private theorem operatorMeta_of_processed {k : RbacKind} {md : ObjectMeta}
    (hl : ∃ labels, md.labels = mergeLabels labels config ns.metadata.name)
    (hin : k.namespaced = true →
      md.namespace = ns.metadata.name ∧ md.ownerReferences = [namespaceOwnerReference ns])
    (hout : k.namespaced = false → md.namespace = "" ∧ md.ownerReferences = []) :
    OperatorMeta k ns config.metadata.name md := by
  obtain ⟨labels, hl⟩ := hl
  obtain ⟨ho, hc, hn⟩ := mergeLabels_operator labels config ns.metadata.name
  exact ⟨hl ▸ ho, hl ▸ hc, fun h => hl ▸ hn h, hin, hout⟩

theorem buildRole_operatorMeta {t : RoleTemplate} {role : Role}
    (h : mgr.buildRole ns config templateCtx t = .ok role) :
    OperatorMeta .role ns config.metadata.name role.metadata := by
  simp only [buildRole, bind, Except.bind, pure, Except.pure] at h
  split at h
  · cases h
  rename_i md hmd
  split at h
  · cases h
  rename_i md' hmd'
  cases h
  obtain ⟨hl, hns, -⟩ := mgr.processMetadata_ok ns config templateCtx hmd
  obtain rfl := mgr.setOwner_ok ns hmd'
  exact operatorMeta_of_processed ns config hl (fun _ => ⟨hns, rfl⟩) nofun

theorem buildClusterRole_operatorMeta {t : ClusterRoleTemplate} {clusterRole : ClusterRole}
    (h : mgr.buildClusterRole ns config templateCtx t = .ok clusterRole) :
    OperatorMeta .clusterRole ns config.metadata.name clusterRole.metadata := by
  simp only [buildClusterRole, bind, Except.bind, pure, Except.pure] at h
  split at h
  · cases h
  rename_i md hmd
  cases h
  obtain ⟨hl, hns, hrefs⟩ := mgr.processMetadata_ok ns config templateCtx hmd
  exact operatorMeta_of_processed ns config hl nofun fun _ => ⟨hns, hrefs⟩

theorem buildRoleBinding_operatorMeta {t : RoleBindingTemplate} {roleBinding : RoleBinding}
    (h : mgr.buildRoleBinding ns config templateCtx t = .ok roleBinding) :
    OperatorMeta .roleBinding ns config.metadata.name roleBinding.metadata := by
  simp only [buildRoleBinding, bind, Except.bind, pure, Except.pure] at h
  split at h
  · cases h
  rename_i md hmd
  split at h
  · cases h
  split at h
  · cases h
  rename_i md' hmd'
  cases h
  obtain ⟨hl, hns, -⟩ := mgr.processMetadata_ok ns config templateCtx hmd
  obtain rfl := mgr.setOwner_ok ns hmd'
  exact operatorMeta_of_processed ns config hl (fun _ => ⟨hns, rfl⟩) nofun

theorem buildClusterRoleBinding_operatorMeta {t : ClusterRoleBindingTemplate}
    {clusterRoleBinding : ClusterRoleBinding}
    (h : mgr.buildClusterRoleBinding ns config templateCtx t = .ok clusterRoleBinding) :
    OperatorMeta .clusterRoleBinding ns config.metadata.name clusterRoleBinding.metadata := by
  simp only [buildClusterRoleBinding, bind, Except.bind, pure, Except.pure] at h
  split at h
  · cases h
  rename_i md hmd
  split at h
  · cases h
  cases h
  obtain ⟨hl, hns, hrefs⟩ := mgr.processMetadata_ok ns config templateCtx hmd
  exact operatorMeta_of_processed ns config hl nofun fun _ => ⟨hns, hrefs⟩

end Manager

/-! ### Writes of owned objects -/

/-- `obj` under `key` was built by the operator for a namespace in `N` from a config in `C`. -/
def OwnedIn (N C : String → Prop) (k : RbacKind) (key : NamespacedName) (obj : k.Obj) : Prop :=
  k.key obj = key ∧ ∃ ns configName, N ns.metadata.name ∧ C configName ∧
    OperatorMeta k ns configName (k.metadata obj)

/-- `c'` follows `c` by writes of operator-built objects for namespaces `N` and configs `C`. -/
structure WritesOwned (N C : String → Prop) (c c' : Cluster) : Prop where
  namespaces : c'.namespaces = c.namespaces
  present : ∀ k key, (c.rbac k key).isSome → (c'.rbac k key).isSome
  origin : ∀ k key (obj : k.Obj), c'.rbac k key = some obj →
    c.rbac k key = some obj ∨ OwnedIn N C k key obj

namespace WritesOwned
variable {N C : String → Prop} {c c₁ c₂ : Cluster}

theorem of_rbac (hn : c₁.namespaces = c.namespaces) (h : c₁.rbac = c.rbac) : WritesOwned N C c c₁ :=
  ⟨hn, fun _ _ => by rw [h]; exact id, fun _ _ _ => by rw [h]; exact .inl⟩

theorem refl (c : Cluster) : WritesOwned N C c c := of_rbac rfl rfl

theorem trans (h₁ : WritesOwned N C c c₁) (h₂ : WritesOwned N C c₁ c₂) : WritesOwned N C c c₂ :=
  ⟨h₂.namespaces.trans h₁.namespaces, fun k key h => h₂.present k key (h₁.present k key h),
    fun k key obj h => (h₂.origin k key obj h).elim (h₁.origin k key obj) .inr⟩

theorem mono {N' C' : String → Prop} (hN : ∀ n, N n → N' n) (hC : ∀ n, C n → C' n)
    (h : WritesOwned N C c c₁) : WritesOwned N' C' c c₁ :=
  ⟨h.namespaces, h.present, fun k key obj hobj => (h.origin k key obj hobj).imp_right
    fun ⟨hkey, ns, configName, hn, hc, hmeta⟩ => ⟨hkey, ns, configName, hN _ hn, hC _ hc, hmeta⟩⟩

theorem put {k : RbacKind} {obj : k.Obj} {ns : Namespace} {configName : String}
    (hn : N ns.metadata.name) (hc : C configName) (hmeta : OperatorMeta k ns configName (k.metadata obj))
    (c : Cluster) : WritesOwned N C c (c.put k obj) := by
  refine ⟨rfl, (c.grows_put k obj).present, fun k' key o h => ?_⟩
  by_cases hk : k' = k
  · subst hk
    by_cases hkey : key = k'.key obj
    · subst hkey
      simp only [Cluster.put_rbac_self, Function.update_same, Option.some.injEq] at h
      subst h
      exact .inr ⟨by simp, ns, configName, hn, hc, by simpa using hmeta.withResourceVersion _⟩
    · simp only [Cluster.put_rbac_self, Function.update_noteq hkey] at h
      exact .inl h
  · rw [c.put_rbac_of_ne obj hk] at h
    exact .inl h

end WritesOwned

section Upsert
variable {N C : String → Prop} {k : RbacKind} {merge : k.Obj → k.Obj → k.Obj}
  {strategy : MergeStrategy} {c : Cluster} {obj : k.Obj}

private theorem answered_writesOwned {refusal : Option StatusError} {obj' : k.Obj} {r}
    (h : Answered refusal k c obj' r) (hput : WritesOwned N C c (c.put k obj')) :
    WritesOwned N C c r.2 := by
  unfold Answered at h
  cases refusal <;> subst h
  exacts [hput, .refl c]

theorem UpsertPost.writesOwned
    (hmerge : ∀ existing obj, k.metadata (merge existing obj) = k.metadata obj)
    {ns : Namespace} {configName : String} (hn : N ns.metadata.name) (hc : C configName)
    (hmeta : OperatorMeta k ns configName (k.metadata obj)) {r}
    (h : UpsertPost k merge strategy c obj r) : WritesOwned N C c r.2 := by
  unfold UpsertPost at h
  split at h
  · exact answered_writesOwned h (.put hn hc hmeta c)
  · subst h; exact .refl c
  · split_ifs at h
    · subst h; exact .refl c
    · exact answered_writesOwned h (.put hn hc (by simpa using hmeta.withResourceVersion _) c)
    · exact answered_writesOwned h
        (.put hn hc (by simpa [hmerge] using hmeta.withResourceVersion _) c)
    · subst h; exact .refl c

theorem applyBuilt_writesOwned (upsert : k.Obj → StateM Cluster (Except GoError Unit))
    (hu : ∀ c obj, UpsertPost k merge strategy c obj ((upsert obj).run c))
    (hmerge : ∀ existing obj, k.metadata (merge existing obj) = k.metadata obj)
    {ns : Namespace} {configName : String} (hn : N ns.metadata.name) (hc : C configName)
    {built : Except GoError k.Obj}
    (hbuilt : ∀ obj, built = .ok obj → OperatorMeta k ns configName (k.metadata obj))
    (c : Cluster) : WritesOwned N C c ((Manager.applyBuilt built upsert).run c).2 := by
  cases built with
  | error => exact .refl c
  | ok obj => exact (hu c obj).writesOwned hmerge hn hc (hbuilt obj rfl)

end Upsert

section Apply
variable {N C : String → Prop} (mgr : Manager) (ns : Namespace) (config : NamespaceRBACConfig)

theorem templateSteps_writesOwned (hn : N ns.metadata.name) (hc : C config.metadata.name) :
    ∀ s ∈ templateSteps (m := StateM Cluster) mgr ns config, ∀ c,
      WritesOwned N C c (s.2.run c).2 := by
  simp only [templateSteps, List.mem_append, List.mem_map]
  rintro _ (((⟨t, -, rfl⟩ | ⟨t, -, rfl⟩) | ⟨t, -, rfl⟩) | ⟨t, -, rfl⟩)
  · exact applyBuilt_writesOwned (k := .role) _ (createOrUpdateRole_quiet config) (fun _ _ => rfl)
      hn hc fun _ => mgr.buildRole_operatorMeta ns config _
  · exact applyBuilt_writesOwned (k := .clusterRole) _ (createOrUpdateClusterRole_quiet config)
      (fun _ _ => rfl) hn hc
      fun _ => mgr.buildClusterRole_operatorMeta ns config _
  · exact applyBuilt_writesOwned (k := .roleBinding) _ (createOrUpdateRoleBinding_quiet config)
      (fun _ _ => rfl) hn hc
      fun _ => mgr.buildRoleBinding_operatorMeta ns config _
  · exact applyBuilt_writesOwned (k := .clusterRoleBinding) _ (createOrUpdateClusterRoleBinding_quiet config)
      (fun _ _ => rfl) hn hc
      fun _ => mgr.buildClusterRoleBinding_operatorMeta ns config _

private theorem runSteps_writesOwned (steps : List (String × StateM Cluster (Except GoError Unit)))
    (h : ∀ s ∈ steps, ∀ c, WritesOwned N C c (s.2.run c).2) (c : Cluster) :
    WritesOwned N C c ((runSteps steps).run c).2 := by
  induction steps generalizing c with
  | nil => exact .refl c
  | cons s rest ih =>
    obtain ⟨context, step⟩ := s
    have hone := h _ (List.mem_cons_self _ _) c
    simp only [runSteps, StateT.run, bind, StateT.bind] at hone ⊢
    rcases hrun : step c with ⟨_ | _, c₁⟩ <;> rw [hrun] at hone
    · exact hone
    · exact hone.trans (ih (fun s hs => h s (List.mem_cons_of_mem _ hs)) c₁)

theorem applyRBACForNamespace_writesOwned (hn : N ns.metadata.name) (hc : C config.metadata.name)
    (c : Cluster) :
    WritesOwned N C c ((applyRBACForNamespace (m := StateM Cluster) mgr ns config).run c).2 := by
  rw [applyRBACForNamespace_eq_runSteps]
  exact runSteps_writesOwned _ (templateSteps_writesOwned mgr ns config hn hc) c

end Apply

/-! ### The passes of the two controllers -/

namespace Cluster
variable (c : Cluster)

theorem updateConfigStatus_rbac (config : NamespaceRBACConfig) :
    (c.updateConfigStatus config).2.rbac = c.rbac ∧
      (c.updateConfigStatus config).2.namespaces = c.namespaces := by
  rcases c.updateConfigStatus_cases config with h | ⟨_, _, h⟩ <;> simp [h]

theorem updateConfig_namespaces (config : NamespaceRBACConfig) :
    (c.updateConfig config).2.namespaces = c.namespaces := by
  rcases c.updateConfig_cases config with h | ⟨_, _, h⟩ <;> simp [h]

theorem listNamespaces_ok {namespaces : List Namespace} (h : c.listNamespaces = .ok namespaces) :
    namespaces = c.namespaces := by
  unfold listNamespaces at h
  split at h <;> simp_all

theorem listConfigs_ok {configs : List NamespaceRBACConfig} (h : c.listConfigs = .ok configs) :
    configs = c.configs := by
  unfold listConfigs at h
  split at h <;> simp_all

theorem getNamespace_ok {name : String} {ns : Namespace} (h : c.getNamespace name = .ok ns) :
    ns ∈ c.namespaces ∧ ns.metadata.name = name := by
  unfold getNamespace at h
  split at h <;> simp only [reduceCtorEq, Except.ok.injEq] at h
  subst h
  rename_i hfind
  exact ⟨List.mem_of_find?_eq_some hfind, by simpa using List.find?_some hfind⟩

end Cluster

namespace NamespaceRBACConfigReconciler
variable {N C : String → Prop} (re : Regexp) (mgr : Manager)

theorem applyMatching_writesOwned (config : NamespaceRBACConfig) (namespaces : List Namespace)
    (hn : ∀ ns ∈ namespaces, N ns.metadata.name) (hc : C config.metadata.name)
    (appliedNamespaces : List String) (c : Cluster) :
    WritesOwned N C c
      ((applyMatching (m := StateM Cluster) re mgr config namespaces appliedNamespaces).run c).2 := by
  induction namespaces generalizing appliedNamespaces c with
  | nil => exact .refl c
  | cons ns rest ih =>
    have hrest := ih fun ns' h => hn ns' (List.mem_cons_of_mem _ h)
    unfold applyMatching
    split
    · exact hrest _ c
    · exact hrest _ c
    · simp only [StateT.run, bind, StateT.bind]
      have hone := applyRBACForNamespace_writesOwned mgr ns config
        (hn ns (List.mem_cons_self _ _)) hc c
      rcases hrun : applyRBACForNamespace (m := StateM Cluster) mgr ns config c with ⟨_ | _, c₁⟩
      all_goals simp only [StateT.run, hrun] at hone ⊢
      · exact hone
      · exact hone.trans (hrest _ c₁)

theorem reconcileRBAC_writesOwned (config : NamespaceRBACConfig) (c : Cluster)
    (hn : ∀ ns ∈ c.namespaces, N ns.metadata.name) (hc : C config.metadata.name) :
    WritesOwned N C c ((reconcileRBAC (m := StateM Cluster) re mgr config).run c).2 := by
  simp only [reconcileRBAC, StateT.run, bind, StateT.bind]
  rcases hl : c.listNamespaces with e | namespaces
  · exact .refl c
  · exact applyMatching_writesOwned re mgr config namespaces
      (c.listNamespaces_ok hl ▸ hn) hc [] c

theorem reconcileFetched_writesOwned (now : Nat) (config : NamespaceRBACConfig) (c : Cluster) :
    WritesOwned (· ∈ c.namespaces.map (·.metadata.name)) (· = config.metadata.name) c
      ((reconcileFetched (m := StateM Cluster) re mgr now config).run c).2 := by
  have hupdate : ∀ config', WritesOwned (· ∈ c.namespaces.map (·.metadata.name))
      (· = config.metadata.name) c (c.updateConfig config').2 :=
    fun config' => .of_rbac (c.updateConfig_namespaces config') (c.updateConfig_rbac config')
  cases hdel : config.metadata.deletionTimestamp with
  | some t =>
    rcases reconcileFetched_of_deleting re mgr now config c (by simp [hdel]) with h | h <;> rw [h]
    exacts [.refl c, hupdate _]
  | none =>
  cases hfin : containsFinalizer config finalizerName with
  | false =>
    rw [reconcileFetched_of_unfinalized re mgr now config c hdel hfin]
    exact hupdate _
  | true =>
  simp only [reconcileFetched, hdel, hfin, Option.isSome_none, Bool.not_true, Bool.false_eq_true,
    if_false, validateConfig_markProgressing]
  have hstatus : ∀ c₁ : Cluster, ∀ config', WritesOwned (· ∈ c.namespaces.map (·.metadata.name))
      (· = config.metadata.name) c₁ ((updateStatus (m := StateM Cluster) config').run c₁).2 :=
    fun c₁ config' => by
      rw [updateStatus_state]
      exact .of_rbac (c₁.updateConfigStatus_rbac config').2 (c₁.updateConfigStatus_rbac config').1
  rcases validateConfig re config with e | ⟨⟨⟩⟩
  · exact hstatus c _
  · simp only [StateT.run, bind, StateT.bind]
    have hw : WritesOwned (· ∈ c.namespaces.map (·.metadata.name)) (· = config.metadata.name) c
        (reconcileRBAC (m := StateM Cluster) re mgr (markProgressing now config) c).2 :=
      reconcileRBAC_writesOwned re mgr _ c
        (fun _ h => List.mem_map_of_mem (fun ns : Namespace => ns.metadata.name) h) rfl
    rcases hr : reconcileRBAC (m := StateM Cluster) re mgr (markProgressing now config) c with
      ⟨e | ns, c₁⟩ <;> rw [hr] at hw <;> exact hw.trans (hstatus c₁ _)

end NamespaceRBACConfigReconciler

namespace NamespaceReconciler
variable {N C : String → Prop} (re : Regexp) (mgr : Manager)

private theorem forM_writesOwned {α : Type} (body : α → StateM Cluster PUnit) (l : List α)
    (hbody : ∀ a ∈ l, ∀ c : Cluster, WritesOwned N C c ((body a).run c).2) (c : Cluster) :
    WritesOwned N C c ((l.forM body).run c).2 := by
  induction l generalizing c with
  | nil => exact .refl c
  | cons a rest ih =>
    simp only [List.forM_cons, StateT.run, bind, StateT.bind]
    exact (hbody a (List.mem_cons_self _ _) c).trans
      (ih (fun a h => hbody a (List.mem_cons_of_mem _ h)) _)

theorem handleNamespaceCreateOrUpdate_writesOwned (ns : Namespace) (c : Cluster)
    (hn : N ns.metadata.name) (hc : ∀ config ∈ c.configs, C config.metadata.name) :
    WritesOwned N C c ((handleNamespaceCreateOrUpdate (m := StateM Cluster) re mgr ns).run c).2 := by
  simp only [handleNamespaceCreateOrUpdate, StateT.run, bind, StateT.bind]
  rcases hl : c.listConfigs with e | configs
  · exact .refl c
  · refine forM_writesOwned _ configs (fun config hconfig c' => ?_) c
    rcases namespaceMatches re ns config.spec.namespaceSelector with _ | _ | _
    · exact .refl c'
    · simp only [cleanupRBACForNamespace_eq]
      exact .refl c'
    · exact applyRBACForNamespace_writesOwned mgr ns config hn
        (hc config (c.listConfigs_ok hl ▸ hconfig)) c'

end NamespaceReconciler

/-! ### Runs -/

namespace Operator
variable (re : Regexp) (mgr : Manager)

private theorem reconcileConfig_writesOwned (now : Nat) (name : String) (c : Cluster) :
    WritesOwned (· ∈ c.namespaces.map (·.metadata.name))
      (fun n => n = name ∧ n ∈ c.configs.map (·.metadata.name)) c
      (step re mgr c (.reconcileConfig now name)) := by
  simp only [step, NamespaceRBACConfigReconciler.reconcile_state]
  rcases hget : c.getConfig name with e | config
  · exact .refl c
  · have hfind := c.findConfig_of_getConfig hget
    obtain rfl := c.findConfig_name hfind
    exact (NamespaceRBACConfigReconciler.reconcileFetched_writesOwned re mgr now config c).mono
      (fun _ h => h) fun _ h => ⟨h, h ▸ List.mem_map_of_mem _ (c.mem_of_findConfig hfind)⟩

private theorem reconcileNamespace_writesOwned (name : String) (c : Cluster) :
    WritesOwned (fun n => n = name ∧ n ∈ c.namespaces.map (·.metadata.name))
      (· ∈ c.configs.map (·.metadata.name)) c (step re mgr c (.reconcileNamespace name)) := by
  simp only [step, NamespaceReconciler.reconcile, StateT.run, bind, StateT.bind]
  rcases hg : c.getNamespace name with e | ns
  · cases e
    case notFound =>
      show WritesOwned _ _ c ((NamespaceReconciler.handleNamespaceDeletion
        (m := StateM Cluster) name).run c).2
      rw [NamespaceReconciler.handleNamespaceDeletion_state]
      exact .refl c
    all_goals exact .refl c
  · obtain ⟨hmem, hname⟩ := c.getNamespace_ok hg
    exact NamespaceReconciler.handleNamespaceCreateOrUpdate_writesOwned re mgr ns c
      ⟨hname, List.mem_map_of_mem (fun ns : Namespace => ns.metadata.name) hmem⟩
      fun _ h => List.mem_map_of_mem (fun config : NamespaceRBACConfig => config.metadata.name) h

/-- A config pass keeps namespaces and objects, and writes only objects labelled with it. -/
theorem reconcileConfig_writes_owned (now : Nat) (name : String) (c : Cluster) :
    WritesOwned (· ∈ c.namespaces.map (·.metadata.name)) (· = name) c
      (step re mgr c (.reconcileConfig now name)) :=
  (reconcileConfig_writesOwned re mgr now name c).mono (fun _ h => h) fun _ h => h.1

/-- A namespace pass keeps namespaces and objects, and writes only objects built for it. -/
theorem reconcileNamespace_writes_owned (name : String) (c : Cluster) :
    WritesOwned (fun n => n = name ∧ n ∈ c.namespaces.map (·.metadata.name))
      (· ∈ c.configs.map (·.metadata.name)) c (step re mgr c (.reconcileNamespace name)) :=
  reconcileNamespace_writesOwned re mgr name c

/-- The names of the configs stored in `c₀` or created by one of `events`. -/
def declaredConfigs (c₀ : Cluster) (events : List Event) : List String :=
  c₀.configs.map (·.metadata.name) ++
    events.filterMap fun | .createConfig config => some config.metadata.name | _ => none

/-- The names of the namespaces stored in `c₀` or written by one of `events`. -/
def declaredNamespaces (c₀ : Cluster) (events : List Event) : List String :=
  c₀.namespaces.map (·.metadata.name) ++
    events.filterMap fun | .putNamespace ns => some ns.metadata.name | _ => none

/-- Where an RBAC object under `key` in `c`, reached from `c₀` by `events`, comes from. -/
inductive RbacOrigin (c₀ : Cluster) (events : List Event) (c : Cluster) (k : RbacKind)
    (key : NamespacedName) (obj : k.Obj) : Prop where
  /-- Held there at the start. -/
  | initial : c₀.rbac k key = some obj → RbacOrigin c₀ events c k key obj
  /-- Sent by a user's create or update, stamped with a revision. -/
  | user (sent : k.Obj) (v : Nat) :
    Event.createRbac k sent ∈ events ∨ Event.updateRbac k sent ∈ events → k.key sent = key →
      obj = k.withResourceVersion sent v → RbacOrigin c₀ events c k key obj
  /-- Built by the operator for a namespace and a config declared in the run; a namespaced
  object's namespace is in the store. -/
  | operator (ns : Namespace) (configName : String) : k.key obj = key →
    OperatorMeta k ns configName (k.metadata obj) → configName ∈ declaredConfigs c₀ events →
    ns.metadata.name ∈ declaredNamespaces c₀ events →
    (k.namespaced = true → ns.metadata.name ∈ c.namespaces.map (·.metadata.name)) →
    RbacOrigin c₀ events c k key obj

/-- What a store reached from `c₀` by `events` holds, name by name and object by object. -/
structure Provenance (c₀ : Cluster) (events : List Event) (c : Cluster) : Prop where
  configs : ∀ n ∈ c.configs.map (·.metadata.name), n ∈ declaredConfigs c₀ events
  namespaces : ∀ n ∈ c.namespaces.map (·.metadata.name), n ∈ declaredNamespaces c₀ events
  rbac : ∀ k key (obj : k.Obj), c.rbac k key = some obj → RbacOrigin c₀ events c k key obj

section Provenance
variable {c₀ : Cluster} {events : List Event}

theorem mem_declaredConfigs_append {n : String} (h : n ∈ declaredConfigs c₀ events)
    (more : List Event) : n ∈ declaredConfigs c₀ (events ++ more) := by
  simp only [declaredConfigs, List.filterMap_append, List.mem_append] at h ⊢
  exact h.imp_right .inl

theorem mem_declaredNamespaces_append {n : String} (h : n ∈ declaredNamespaces c₀ events)
    (more : List Event) : n ∈ declaredNamespaces c₀ (events ++ more) := by
  simp only [declaredNamespaces, List.filterMap_append, List.mem_append] at h ⊢
  exact h.imp_right .inl

theorem RbacOrigin.append {c c' : Cluster} {k : RbacKind} {key : NamespacedName} {obj : k.Obj}
    (more : List Event)
    (hn : ∀ n ∈ c.namespaces.map (·.metadata.name), n ∈ c'.namespaces.map (·.metadata.name))
    (h : RbacOrigin c₀ events c k key obj) : RbacOrigin c₀ (events ++ more) c' k key obj := by
  cases h with
  | initial h => exact .initial h
  | user sent v hmem hkey hobj =>
    exact .user sent v (hmem.imp (List.mem_append_left _) (List.mem_append_left _)) hkey hobj
  | operator ns configName hkey hmeta hc hns hin =>
    exact .operator ns configName hkey hmeta (mem_declaredConfigs_append hc more)
      (mem_declaredNamespaces_append hns more) fun h => hn _ (hin h)

theorem Provenance.start (c₀ : Cluster) : Provenance c₀ [] c₀ :=
  ⟨fun _ h => List.mem_append_left _ h, fun _ h => List.mem_append_left _ h,
    fun _ _ _ h => .initial h⟩

end Provenance

end Operator

end AclOperator
