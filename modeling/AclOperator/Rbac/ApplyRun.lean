import AclOperator.Rbac.Manager

/-! `ApplyRBACForNamespace` run with no other writer, and what applying a config a second time
does under each merge strategy. -/
namespace AclOperator

/-! ### Payloads -/

/-- The RBAC objects of a store with their resource versions cleared. -/
abbrev Payload := (k : RbacKind) → NamespacedName → Option k.Obj

namespace Payload

/-- Write an object under its key, its resource version cleared. -/
def write (p : Payload) (w : Σ k : RbacKind, k.Obj) : Payload :=
  Function.update p w.1
    (Function.update (p w.1) (w.1.key w.2) (some (w.1.withResourceVersion w.2 0)))

/-- Write objects in order. -/
def writeAll (p : Payload) (ws : List (Σ k : RbacKind, k.Obj)) : Payload :=
  ws.foldl write p

/-- Some object of `ws` has kind `k` and key `key`. -/
def Written (ws : List (Σ k : RbacKind, k.Obj)) (k : RbacKind) (key : NamespacedName) : Prop :=
  ∃ obj, ⟨k, obj⟩ ∈ ws ∧ k.key obj = key

variable (p q : Payload) {k : RbacKind} {key : NamespacedName}

theorem write_self (obj : k.Obj) :
    p.write ⟨k, obj⟩ k (k.key obj) = some (k.withResourceVersion obj 0) := by
  simp [write]

theorem write_of_not_written (w : Σ k : RbacKind, k.Obj) (h : ¬ Written [w] k key) :
    p.write w k key = p k key := by
  obtain ⟨k', obj⟩ := w
  by_cases hk : k = k'
  · subst hk
    have hkey : key ≠ k.key obj := fun he => h ⟨obj, List.mem_singleton_self _, he.symm⟩
    simp [write, hkey]
  · simp [write, Function.update_noteq hk]

@[simp] theorem writeAll_cons (w : Σ k : RbacKind, k.Obj) (ws) :
    p.writeAll (w :: ws) = (p.write w).writeAll ws := rfl

theorem writeAll_append (ws ws') : p.writeAll (ws ++ ws') = (p.writeAll ws).writeAll ws' :=
  List.foldl_append _ _ _ _

theorem writeAll_of_not_written (ws) (h : ¬ Written ws k key) : p.writeAll ws k key = p k key := by
  induction ws generalizing p with
  | nil => rfl
  | cons w rest ih =>
    have hw : ¬ Written [w] k key := fun ⟨o, ho, he⟩ =>
      h ⟨o, List.mem_cons.mpr (.inl (List.mem_singleton.mp ho)), he⟩
    have hrest : ¬ Written rest k key := fun ⟨o, ho, he⟩ => h ⟨o, List.mem_cons_of_mem _ ho, he⟩
    rw [writeAll_cons, ih _ hrest, write_of_not_written _ _ hw]

theorem writeAll_of_written (ws) (h : Written ws k key) :
    p.writeAll ws k key = q.writeAll ws k key := by
  induction ws generalizing p q with
  | nil => obtain ⟨_, h, _⟩ := h; cases h
  | cons w rest ih =>
    rw [writeAll_cons, writeAll_cons]
    by_cases hrest : Written rest k key
    · exact ih _ _ hrest
    · rw [writeAll_of_not_written _ _ hrest, writeAll_of_not_written _ _ hrest]
      obtain ⟨obj, hmem, rfl⟩ := h
      rcases List.mem_cons.mp hmem with rfl | hmem
      · rw [write_self, write_self]
      · exact absurd ⟨obj, hmem, rfl⟩ hrest

theorem writeAll_writeAll (ws) : (p.writeAll ws).writeAll ws = p.writeAll ws := by
  funext k key
  by_cases h : Written ws k key
  · exact writeAll_of_written _ _ ws h
  · rw [writeAll_of_not_written _ _ h, writeAll_of_not_written _ _ h]

end Payload

namespace Cluster
variable (c : Cluster)

/-- The store's RBAC objects with their resource versions cleared. -/
def payload : Payload := fun k key => (c.rbac k key).map (k.withResourceVersion · 0)

theorem payload_put (k : RbacKind) (obj : k.Obj) :
    (c.put k obj).payload = c.payload.write ⟨k, obj⟩ := by
  funext k' key'
  by_cases hk : k' = k
  · subst hk
    by_cases hkey : key' = k'.key obj
    · subst hkey
      simp [payload, Payload.write]
    · simp [payload, Payload.write, hkey]
  · simp [payload, Payload.write, Function.update_noteq hk, put_rbac_of_ne _ _ hk]

/-- The keys of `ws` are held by the store and read without a fault. -/
def Readable (ws : List (Σ k : RbacKind, k.Obj)) : Prop :=
  ∀ w ∈ ws, (c.rbac w.1 (w.1.key w.2)).isSome ∧ c.faults.get (.rbac w.1) (w.1.key w.2) = none

variable {c}

theorem Readable.mono {c' : Cluster} {ws} (h : c.Readable ws) (hg : c.Grows c') : c'.Readable ws :=
  fun w hw => ⟨hg.present _ _ (h w hw).1, hg.faults ▸ (h w hw).2⟩

theorem readable_append {ws ws'} : c.Readable (ws ++ ws') ↔ c.Readable ws ∧ c.Readable ws' :=
  List.forall_mem_append

end Cluster

/-! ### One upsert -/

/-- A successful run of the upserts of `ws` under `strategy` from `c` to `c'`. -/
structure Applied (strategy : MergeStrategy) (c : Cluster) (ws : List (Σ k : RbacKind, k.Obj))
    (c' : Cluster) : Prop where
  grows : c.Grows c'
  readable : c'.Readable ws
  payload : strategy = MergeStrategy.replace → c'.payload = c.payload.writeAll ws

namespace Applied
variable {strategy : MergeStrategy}

theorem nil (c : Cluster) : Applied strategy c [] c :=
  ⟨.refl c, fun _ h => absurd h (List.not_mem_nil _), fun _ => rfl⟩

theorem append {c₁ c₂ c₃ : Cluster} {ws ws'} (h₁ : Applied strategy c₁ ws c₂)
    (h₂ : Applied strategy c₂ ws' c₃) : Applied strategy c₁ (ws ++ ws') c₃ :=
  ⟨h₁.grows.trans h₂.grows, Cluster.readable_append.mpr ⟨h₁.readable.mono h₂.grows, h₂.readable⟩,
    fun hs => by rw [h₂.payload hs, h₁.payload hs, Payload.writeAll_append]⟩

end Applied

theorem MergeStrategy.replace_ne_ignore : MergeStrategy.replace ≠ MergeStrategy.ignore := by decide

section Step
variable {k : RbacKind} {merge : k.Obj → k.Obj → k.Obj} {strategy : MergeStrategy}
  {c c' : Cluster} {obj : k.Obj}

private theorem answered_grows {refusal : Option StatusError} {obj' : k.Obj} {r}
    (h : Answered refusal k c obj' r) : c.Grows r.2 := by
  unfold Answered at h
  cases refusal <;> subst h
  · exact c.grows_put k obj'
  · exact .refl c

theorem UpsertPost.grows {r} (h : UpsertPost k merge strategy c obj r) : c.Grows r.2 := by
  unfold UpsertPost at h
  split at h
  · exact answered_grows h
  · subst h; exact .refl c
  · split_ifs at h
    · subst h; exact .refl c
    · exact answered_grows h
    · exact answered_grows h
    · subst h; exact .refl c

private theorem answered_ok {refusal : Option StatusError} {obj' : k.Obj}
    (h : Answered refusal k c obj' (.ok (), c')) : refusal = none ∧ c' = c.put k obj' := by
  unfold Answered at h
  cases refusal <;> simp_all [eq_comm]

private theorem applied_put (obj' : k.Obj) (hkey : k.key obj' = k.key obj)
    (hpay : k.withResourceVersion obj' 0 = k.withResourceVersion obj 0)
    (hget : c.faults.get (.rbac k) (k.key obj) = none) :
    Applied strategy c [⟨k, obj⟩] (c.put k obj') := by
  refine ⟨c.grows_put k _, ?_, fun _ => ?_⟩
  · intro w hw
    rw [List.mem_singleton.mp hw]
    simp [hget, hkey, Function.update_apply]
  · rw [Cluster.payload_put]
    simp [Payload.writeAll, Payload.write, hkey, hpay]

theorem UpsertPost.applied
    (hs : strategy = MergeStrategy.ignore ∨ strategy = MergeStrategy.replace)
    (h : UpsertPost k merge strategy c obj (.ok (), c')) : Applied strategy c [⟨k, obj⟩] c' := by
  unfold UpsertPost at h
  rcases hread : c.read k (k.key obj) with e | existing <;> rw [hread] at h
  · cases e
    case notFound =>
      obtain ⟨-, rfl⟩ := answered_ok h
      exact applied_put obj rfl rfl (c.read_eq_notFound_iff.mp hread).1
    all_goals simp at h
  · obtain ⟨hget, hheld⟩ := c.read_eq_ok_iff.mp hread
    rcases hs with rfl | rfl
    · simp only [if_true] at h
      obtain ⟨-, rfl⟩ := Prod.mk.inj h
      refine ⟨.refl _, fun w hw => ?_, fun h => absurd h MergeStrategy.replace_ne_ignore.symm⟩
      rw [List.mem_singleton.mp hw]
      simp [hget, hheld]
    · simp only [MergeStrategy.replace_ne_ignore, if_false, if_true] at h
      obtain ⟨-, rfl⟩ := answered_ok h
      exact applied_put _ (by simp) (by simp) hget

private theorem read_of_readable (hr : c.Readable [⟨k, obj⟩]) :
    ∃ existing, c.read k (k.key obj) = .ok existing := by
  obtain ⟨hheld, hget⟩ := hr _ (List.mem_singleton_self _)
  obtain ⟨existing, hex⟩ := Option.isSome_iff_exists.mp hheld
  exact ⟨existing, c.read_eq_ok_iff.mpr ⟨hget, hex⟩⟩

theorem UpsertPost.ignore_of_readable {r} (hr : c.Readable [⟨k, obj⟩])
    (h : UpsertPost k merge MergeStrategy.ignore c obj r) : r = (.ok (), c) := by
  obtain ⟨existing, hread⟩ := read_of_readable hr
  simpa [UpsertPost, hread] using h

theorem UpsertPost.replace_of_readable {r} (hr : c.Readable [⟨k, obj⟩])
    (hu : c.faults.update (.rbac k) (k.key obj) = none)
    (h : UpsertPost k merge MergeStrategy.replace c obj r) :
    ∃ c', r = (.ok (), c') ∧ Applied MergeStrategy.replace c [⟨k, obj⟩] c' := by
  obtain ⟨existing, hread⟩ := read_of_readable hr
  simp only [UpsertPost, hread, MergeStrategy.replace_ne_ignore, if_false, if_true, hu,
    Option.map_none', Answered] at h
  exact ⟨_, h, applied_put _ (by simp) (by simp) (hr _ (List.mem_singleton_self _)).2⟩

end Step

/-! ### The loop over one kind's templates -/

section Loop
variable {α : Type} (context : α → String)

private theorem forEachTemplate_cons_run (step : α → StateM Cluster (Except GoError Unit))
    (t : α) (rest : List α) (c : Cluster) :
    (forEachTemplate context step (t :: rest)).run c =
      match (step t).run c with
      | (.error e, c₁) => (.error (.wrap (context t) e), c₁)
      | (.ok (), c₁) => (forEachTemplate context step rest).run c₁ := by
  show (step t >>= _).run c = _
  simp only [StateT.run, bind, StateT.bind]
  rcases step t c with ⟨_ | _, c₁⟩ <;> rfl

theorem forEachTemplate_grows (step : α → StateM Cluster (Except GoError Unit))
    (hstep : ∀ (t : α) (c : Cluster), c.Grows ((step t).run c).2) (ts : List α) (c : Cluster) :
    c.Grows ((forEachTemplate context step ts).run c).2 := by
  induction ts generalizing c with
  | nil => exact .refl c
  | cons t rest ih =>
    rw [forEachTemplate_cons_run]
    have hone := hstep t c
    rcases hrun : (step t).run c with ⟨_ | _, c₁⟩ <;> rw [hrun] at hone
    · exact hone
    · exact hone.trans (ih c₁)

variable {k : RbacKind} {merge : k.Obj → k.Obj → k.Obj} {strategy : MergeStrategy}
  (build : α → Except GoError k.Obj) (upsert : k.Obj → StateM Cluster (Except GoError Unit))
  (hu : ∀ c obj, UpsertPost k merge strategy c obj ((upsert obj).run c))
  (step : α → StateM Cluster (Except GoError Unit))
  (hstep : ∀ t, step t = Manager.applyBuilt (build t) upsert)
include hu hstep

theorem applyBuilt_grows (t : α) (c : Cluster) : c.Grows ((step t).run c).2 := by
  rw [hstep]
  cases build t with
  | error e => exact .refl c
  | ok obj => exact (hu c obj).grows

theorem forEachTemplate_applied
    (hs : strategy = MergeStrategy.ignore ∨ strategy = MergeStrategy.replace) (ts : List α)
    (c c' : Cluster) (h : (forEachTemplate context step ts).run c = (.ok (), c')) :
    ∃ objs, List.Forall₂ (fun t obj => build t = .ok obj) ts objs ∧
      Applied strategy c (objs.map (⟨k, ·⟩)) c' := by
  induction ts generalizing c with
  | nil =>
    obtain ⟨-, rfl⟩ := Prod.mk.inj h
    exact ⟨[], .nil, .nil c⟩
  | cons t rest ih =>
    rw [forEachTemplate_cons_run] at h
    cases hb : build t with
    | error e =>
      simp only [hstep, hb, Manager.applyBuilt, StateT.run, pure, StateT.pure] at h
      cases h
    | ok obj =>
      simp only [hstep, hb, Manager.applyBuilt] at h
      rcases hrun : (upsert obj).run c with ⟨_ | _, c₁⟩ <;> rw [hrun] at h
      · cases h
      · obtain ⟨objs, hobjs, happ⟩ := ih c₁ h
        have hone := hu c obj
        rw [hrun] at hone
        exact ⟨obj :: objs, .cons hb hobjs, (hone.applied hs).append happ⟩

theorem forEachTemplate_ignore_rerun (hstrat : strategy = MergeStrategy.ignore) {ts : List α}
    {objs : List k.Obj} (hobjs : List.Forall₂ (fun t obj => build t = .ok obj) ts objs)
    (c : Cluster) (hr : c.Readable (objs.map (⟨k, ·⟩))) :
    (forEachTemplate context step ts).run c = (.ok (), c) := by
  subst hstrat
  induction hobjs with
  | nil => rfl
  | @cons t obj ts objs hb _ ih =>
    have hr' := List.forall_mem_cons.mp hr
    have hone := (hu c obj).ignore_of_readable (fun w hw => List.mem_singleton.mp hw ▸ hr'.1)
    rw [forEachTemplate_cons_run]
    simp only [hstep, hb, Manager.applyBuilt, hone]
    exact ih hr'.2

theorem forEachTemplate_replace_rerun (hstrat : strategy = MergeStrategy.replace) {ts : List α}
    {objs : List k.Obj} (hobjs : List.Forall₂ (fun t obj => build t = .ok obj) ts objs)
    (c : Cluster) (hr : c.Readable (objs.map (⟨k, ·⟩)))
    (hnofault : ∀ key, c.faults.update (.rbac k) key = none) :
    ∃ c', (forEachTemplate context step ts).run c = (.ok (), c') ∧
      Applied strategy c (objs.map (⟨k, ·⟩)) c' := by
  subst hstrat
  induction hobjs generalizing c with
  | nil => exact ⟨c, rfl, .nil c⟩
  | @cons t obj ts objs hb _ ih =>
    have hr' := List.forall_mem_cons.mp hr
    obtain ⟨c₁, hrun, happ⟩ := (hu c obj).replace_of_readable
      (fun w hw => List.mem_singleton.mp hw ▸ hr'.1) (hnofault _)
    obtain ⟨c₂, hrest, happ'⟩ := ih c₁ (Cluster.Readable.mono hr'.2 happ.grows)
      (fun key => happ.grows.faults ▸ hnofault key)
    refine ⟨c₂, ?_, happ.append happ'⟩
    rw [forEachTemplate_cons_run]
    simp only [hstep, hb, Manager.applyBuilt, hrun]
    exact hrest

end Loop

/-! ### Whole applications -/

section Chain
variable {x : StateM Cluster (Except GoError Unit)}
  {f : PUnit → ExceptT GoError (StateM Cluster) Unit}
  {c c' : Cluster}

private theorem chain_run (c : Cluster) :
    (ExceptT.run (ExceptT.mk x >>= f)).run c =
      match x.run c with
      | (.error e, c₁) => (.error e, c₁)
      | (.ok (), c₁) => (ExceptT.run (f ())).run c₁ := by
  simp only [ExceptT.run, ExceptT.mk, bind, ExceptT.bind, ExceptT.bindCont, StateT.run,
    StateT.bind]
  rcases x c with ⟨_ | _, c₁⟩ <;> rfl

private theorem chain_grows (hx : ∀ c : Cluster, c.Grows (x.run c).2)
    (hf : ∀ c : Cluster, c.Grows ((ExceptT.run (f ())).run c).2) (c : Cluster) :
    c.Grows ((ExceptT.run (ExceptT.mk x >>= f)).run c).2 := by
  rw [chain_run]
  have hone := hx c
  rcases hrun : x.run c with ⟨_ | _, c₁⟩ <;> rw [hrun] at hone
  · exact hone
  · exact hone.trans (hf c₁)

private theorem chain_ok (h : (ExceptT.run (ExceptT.mk x >>= f)).run c = (.ok (), c')) :
    ∃ c₁, x.run c = (.ok (), c₁) ∧ (ExceptT.run (f ())).run c₁ = (.ok (), c') := by
  rw [chain_run] at h
  rcases hx : x.run c with ⟨_ | _, c₁⟩ <;> rw [hx] at h
  · cases h
  · exact ⟨c₁, rfl, h⟩

private theorem chain_of_ok {c₁ : Cluster} (h : x.run c = (.ok (), c₁)) :
    (ExceptT.run (ExceptT.mk x >>= f)).run c = (ExceptT.run (f ())).run c₁ := by
  rw [chain_run, h]

end Chain

/-- `ws` lists in order the objects the apply functions build for the namespace. -/
def Builds (mgr : Manager) (ns : Namespace) (config : NamespaceRBACConfig)
    (ws : List (Σ k : RbacKind, k.Obj)) : Prop :=
  let templateCtx := buildContext ns config
  let templates := config.spec.rbacTemplates
  ∃ roles clusterRoles roleBindings clusterRoleBindings,
    List.Forall₂ (fun t obj => mgr.buildRole ns config templateCtx t = .ok obj)
      templates.roles roles ∧
    List.Forall₂ (fun t obj => mgr.buildClusterRole ns config templateCtx t = .ok obj)
      templates.clusterRoles clusterRoles ∧
    List.Forall₂ (fun t obj => mgr.buildRoleBinding ns config templateCtx t = .ok obj)
      templates.roleBindings roleBindings ∧
    List.Forall₂ (fun t obj => mgr.buildClusterRoleBinding ns config templateCtx t = .ok obj)
      templates.clusterRoleBindings clusterRoleBindings ∧
    ws = roles.map (⟨.role, ·⟩) ++ clusterRoles.map (⟨.clusterRole, ·⟩) ++
      roleBindings.map (⟨.roleBinding, ·⟩) ++ clusterRoleBindings.map (⟨.clusterRoleBinding, ·⟩)

section Apply
variable (mgr : Manager) (ns : Namespace) (config : NamespaceRBACConfig)

theorem applyRBACForNamespace_grows (c : Cluster) :
    c.Grows ((applyRBACForNamespace (m := StateM Cluster) mgr ns config).run c).2 := by
  refine chain_grows (forEachTemplate_grows _ _ (applyBuilt_grows (k := .role) _ _
    (createOrUpdateRole_quiet config) (mgr.applyRole ns config _) (fun _ => rfl)) _) ?_ c
  refine chain_grows (forEachTemplate_grows _ _ (applyBuilt_grows (k := .clusterRole) _ _
    (createOrUpdateClusterRole_quiet config) (mgr.applyClusterRole ns config _) (fun _ => rfl)) _)
    ?_
  refine chain_grows (forEachTemplate_grows _ _ (applyBuilt_grows (k := .roleBinding) _ _
    (createOrUpdateRoleBinding_quiet config) (mgr.applyRoleBinding ns config _) (fun _ => rfl)) _)
    ?_
  exact forEachTemplate_grows _ _ (applyBuilt_grows (k := .clusterRoleBinding) _ _
    (createOrUpdateClusterRoleBinding_quiet config) (mgr.applyClusterRoleBinding ns config _)
    fun _ => rfl) _

theorem applyRBACForNamespace_applied
    (hs : mergeStrategyOf config = MergeStrategy.ignore ∨
      mergeStrategyOf config = MergeStrategy.replace) {c c' : Cluster}
    (h : (applyRBACForNamespace (m := StateM Cluster) mgr ns config).run c = (.ok (), c')) :
    ∃ ws, Builds mgr ns config ws ∧ Applied (mergeStrategyOf config) c ws c' := by
  obtain ⟨c₁, h₁, h⟩ := chain_ok h
  obtain ⟨c₂, h₂, h⟩ := chain_ok h
  obtain ⟨c₃, h₃, h₄⟩ := chain_ok h
  obtain ⟨roles, hroles, a₁⟩ := forEachTemplate_applied (k := .role) _ (mgr.buildRole ns config _)
    (createOrUpdateRole · config) (createOrUpdateRole_quiet config) (mgr.applyRole ns config _)
    (fun _ => rfl) hs _ _ _ h₁
  obtain ⟨clusterRoles, hclusterRoles, a₂⟩ := forEachTemplate_applied (k := .clusterRole) _
    (mgr.buildClusterRole ns config _) (createOrUpdateClusterRole · config)
    (createOrUpdateClusterRole_quiet config) (mgr.applyClusterRole ns config _) (fun _ => rfl) hs
    _ _ _ h₂
  obtain ⟨roleBindings, hroleBindings, a₃⟩ := forEachTemplate_applied (k := .roleBinding) _
    (mgr.buildRoleBinding ns config _) (createOrUpdateRoleBinding · config)
    (createOrUpdateRoleBinding_quiet config) (mgr.applyRoleBinding ns config _) (fun _ => rfl) hs
    _ _ _ h₃
  obtain ⟨clusterRoleBindings, hclusterRoleBindings, a₄⟩ :=
    forEachTemplate_applied (k := .clusterRoleBinding) _
    (mgr.buildClusterRoleBinding ns config _) (createOrUpdateClusterRoleBinding · config)
    (createOrUpdateClusterRoleBinding_quiet config) (mgr.applyClusterRoleBinding ns config _)
    (fun _ => rfl) hs _ _ _ h₄
  exact ⟨_, ⟨roles, clusterRoles, roleBindings, clusterRoleBindings, hroles, hclusterRoles,
    hroleBindings, hclusterRoleBindings, rfl⟩, ((a₁.append a₂).append a₃).append a₄⟩

theorem applyRBACForNamespace_ignore_rerun
    (hstrat : mergeStrategyOf config = MergeStrategy.ignore) {ws} (hb : Builds mgr ns config ws)
    (c : Cluster) (hr : c.Readable ws) :
    (applyRBACForNamespace (m := StateM Cluster) mgr ns config).run c = (.ok (), c) := by
  obtain ⟨roles, clusterRoles, roleBindings, clusterRoleBindings, h₁, h₂, h₃, h₄, rfl⟩ := hb
  obtain ⟨⟨⟨r₁, r₂⟩, r₃⟩, r₄⟩ := by simpa only [Cluster.readable_append] using hr
  refine (chain_of_ok (forEachTemplate_ignore_rerun (k := .role) _ _ _
    (createOrUpdateRole_quiet config) (mgr.applyRole ns config _) (fun _ => rfl) hstrat h₁ c
    r₁)).trans ?_
  refine (chain_of_ok (forEachTemplate_ignore_rerun (k := .clusterRole) _ _ _
    (createOrUpdateClusterRole_quiet config) (mgr.applyClusterRole ns config _) (fun _ => rfl)
    hstrat h₂ c r₂)).trans ?_
  refine (chain_of_ok (forEachTemplate_ignore_rerun (k := .roleBinding) _ _ _
    (createOrUpdateRoleBinding_quiet config) (mgr.applyRoleBinding ns config _) (fun _ => rfl)
    hstrat h₃ c r₃)).trans ?_
  exact forEachTemplate_ignore_rerun (k := .clusterRoleBinding) _ _ _
    (createOrUpdateClusterRoleBinding_quiet config) (mgr.applyClusterRoleBinding ns config _)
    (fun _ => rfl) hstrat h₄ c r₄

theorem applyRBACForNamespace_replace_rerun
    (hstrat : mergeStrategyOf config = MergeStrategy.replace) {ws} (hb : Builds mgr ns config ws)
    (c : Cluster) (hr : c.Readable ws) (hnofault : ∀ k key, c.faults.update (.rbac k) key = none) :
    ∃ c', (applyRBACForNamespace (m := StateM Cluster) mgr ns config).run c = (.ok (), c') ∧
      Applied (mergeStrategyOf config) c ws c' := by
  obtain ⟨roles, clusterRoles, roleBindings, clusterRoleBindings, h₁, h₂, h₃, h₄, rfl⟩ := hb
  obtain ⟨⟨⟨r₁, r₂⟩, r₃⟩, r₄⟩ := by simpa only [Cluster.readable_append] using hr
  obtain ⟨c₁, hrun₁, a₁⟩ := forEachTemplate_replace_rerun (k := .role)
    (fun t => "failed to apply role " ++ t.name) _ _ (createOrUpdateRole_quiet config)
    (mgr.applyRole ns config _) (fun _ => rfl) hstrat h₁ c r₁ (hnofault _)
  obtain ⟨c₂, hrun₂, a₂⟩ := forEachTemplate_replace_rerun (k := .clusterRole)
    (fun t => "failed to apply cluster role " ++ t.name) _ _
    (createOrUpdateClusterRole_quiet config) (mgr.applyClusterRole ns config _) (fun _ => rfl)
    hstrat h₂ c₁ (r₂.mono a₁.grows) (a₁.grows.faults ▸ hnofault _)
  obtain ⟨c₃, hrun₃, a₃⟩ := forEachTemplate_replace_rerun (k := .roleBinding)
    (fun t => "failed to apply role binding " ++ t.name) _ _
    (createOrUpdateRoleBinding_quiet config) (mgr.applyRoleBinding ns config _) (fun _ => rfl)
    hstrat h₃ c₂ ((r₃.mono a₁.grows).mono a₂.grows) ((a₁.grows.trans a₂.grows).faults ▸ hnofault _)
  obtain ⟨c₄, hrun₄, a₄⟩ := forEachTemplate_replace_rerun (k := .clusterRoleBinding)
    (fun t => "failed to apply cluster role binding " ++ t.name) _ _
    (createOrUpdateClusterRoleBinding_quiet config) (mgr.applyClusterRoleBinding ns config _)
    (fun _ => rfl) hstrat h₄ c₃ (((r₄.mono a₁.grows).mono a₂.grows).mono a₃.grows)
    (((a₁.grows.trans a₂.grows).trans a₃.grows).faults ▸ hnofault _)
  exact ⟨c₄, (chain_of_ok hrun₁).trans <| (chain_of_ok hrun₂).trans <|
    (chain_of_ok hrun₃).trans hrun₄, ((a₁.append a₂).append a₃).append a₄⟩

/-- Under `ignore` or `replace`, applying a config again changes no object's contents. -/
theorem applyRBACForNamespace_rerun_of_ignore_or_replace {c c' : Cluster}
    (h : (applyRBACForNamespace (m := StateM Cluster) mgr ns config).run c = (.ok (), c')) :
    (mergeStrategyOf config = MergeStrategy.ignore →
      (applyRBACForNamespace (m := StateM Cluster) mgr ns config).run c' = (.ok (), c')) ∧
    (mergeStrategyOf config = MergeStrategy.replace →
      (∀ k key, c.faults.update (.rbac k) key = none) →
      ∃ c'', (applyRBACForNamespace (m := StateM Cluster) mgr ns config).run c' = (.ok (), c'') ∧
        c''.payload = c'.payload) := by
  refine ⟨fun hstrat => ?_, fun hstrat hnofault => ?_⟩
  · obtain ⟨ws, hb, happ⟩ := applyRBACForNamespace_applied mgr ns config (.inl hstrat) h
    exact applyRBACForNamespace_ignore_rerun mgr ns config hstrat hb c' happ.readable
  · obtain ⟨ws, hb, happ⟩ := applyRBACForNamespace_applied mgr ns config (.inr hstrat) h
    obtain ⟨c'', hrun, happ'⟩ := applyRBACForNamespace_replace_rerun mgr ns config hstrat hb c'
      happ.readable (happ.grows.faults ▸ hnofault)
    refine ⟨c'', hrun, ?_⟩
    rw [happ'.payload hstrat, happ.payload hstrat, Payload.writeAll_writeAll]

end Apply

/-- Role template `viewer` applied twice under `ignore`: the second application writes nothing. -/
theorem applyRBACForNamespace_rerun_viewer :
    let mgr : Manager := ⟨⟨fun _ => none, fun _ text _ => .ok text⟩, {}⟩
    let ns : Namespace := ⟨{ name := "team-a" }⟩
    let config : NamespaceRBACConfig :=
      { metadata := { name := "dev" }
        spec := { rbacTemplates := { roles := [{ name := "viewer", rules := [{ verbs := ["get"] }] }] }
                  config := some { mergeStrategy := some MergeStrategy.ignore } } }
    let first := (applyRBACForNamespace (m := StateM Cluster) mgr ns config).run Cluster.empty
    first = (.ok (), first.2) ∧ mergeStrategyOf config = MergeStrategy.ignore ∧
      (applyRBACForNamespace (m := StateM Cluster) mgr ns config).run first.2 = (.ok (), first.2) := by
  intro mgr ns config first
  have hfirst : first = (.ok (), first.2) := Prod.ext rfl rfl
  exact ⟨hfirst, rfl, (applyRBACForNamespace_rerun_of_ignore_or_replace mgr ns config hfirst).1 rfl⟩

/-- Under `merge`, the default, a second application appends the rules again. -/
theorem applyRBACForNamespace_merge_doubles_rules :
    let mgr : Manager := ⟨⟨fun _ => none, fun _ text _ => .ok text⟩, {}⟩
    let ns : Namespace := ⟨{ name := "team-a" }⟩
    let getPods : PolicyRule := { verbs := ["get"], resources := ["pods"] }
    let config : NamespaceRBACConfig :=
      { metadata := { name := "dev" }
        spec := { rbacTemplates := { roles := [{ name := "viewer", rules := [getPods] }] } } }
    let first := (applyRBACForNamespace (m := StateM Cluster) mgr ns config).run Cluster.empty
    let second := (applyRBACForNamespace (m := StateM Cluster) mgr ns config).run first.2
    let rules := fun c : Cluster =>
      (c.rbac .role ⟨"team-a", "viewer"⟩).map (fun role : Role => role.rules)
    first.1.toBool = true ∧ second.1.toBool = true ∧ rules first.2 = some [getPods] ∧
      rules second.2 = some [getPods, getPods] := by
  decide

end AclOperator
