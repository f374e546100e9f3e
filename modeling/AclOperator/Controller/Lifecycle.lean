import AclOperator.Controller.System

/-! The life of a NamespaceRBACConfig along every run: where its spec comes from, and the
finalizer protocol that keeps it in the store until a config pass lets it go. -/
namespace AclOperator

/-- How a stored config may change: name, spec, generation and any begun deletion are kept. -/
structure Evolves (x x' : NamespaceRBACConfig) : Prop where
  name : x'.metadata.name = x.metadata.name
  spec : x'.spec = x.spec
  generation : x'.metadata.generation = x.metadata.generation
  deleting : x.metadata.deletionTimestamp.isSome →
    x'.metadata.deletionTimestamp = x.metadata.deletionTimestamp ∧
      x'.metadata.finalizers ⊆ x.metadata.finalizers

namespace Evolves

theorem refl (x : NamespaceRBACConfig) : Evolves x x :=
  ⟨rfl, rfl, rfl, fun _ => ⟨rfl, List.Subset.refl _⟩⟩

theorem trans {x y z : NamespaceRBACConfig} (h₁ : Evolves x y) (h₂ : Evolves y z) :
    Evolves x z where
  name := h₂.name.trans h₁.name
  spec := h₂.spec.trans h₁.spec
  generation := h₂.generation.trans h₁.generation
  deleting hx := by
    obtain ⟨hdt, hsub⟩ := h₁.deleting hx
    obtain ⟨hdt', hsub'⟩ := h₂.deleting (hdt ▸ hx)
    exact ⟨hdt'.trans hdt, hsub'.trans hsub⟩

end Evolves

@[simp] theorem addFinalizer_spec (config : NamespaceRBACConfig) (finalizer : String) :
    (addFinalizer config finalizer).spec = config.spec := by
  unfold addFinalizer
  split <;> rfl

@[simp] theorem removeFinalizer_spec (config : NamespaceRBACConfig) (finalizer : String) :
    (removeFinalizer config finalizer).spec = config.spec := rfl

/-! ### What the config requests do to the config of a name -/

namespace Cluster
variable (c : Cluster)

theorem findConfig_putConfig_kept {config : NamespaceRBACConfig} {name : String}
    (hname : config.metadata.name = name) (hcur : (c.findConfig name).isSome)
    (hkeep : config.metadata.deletionTimestamp.isSome → config.metadata.finalizers ≠ []) :
    (c.putConfig config).findConfig name =
      some { config with metadata.resourceVersion := c.revision + 1 } := by
  subst hname
  rw [findConfig_putConfig_self, if_neg fun h => hkeep h.1 h.2]
  obtain ⟨cur, hcur⟩ := Option.isSome_iff_exists.mp hcur
  simp [hcur]

theorem findConfig_putConfig_removed {config : NamespaceRBACConfig} {name : String}
    (hname : config.metadata.name = name) (hdel : config.metadata.deletionTimestamp.isSome)
    (hfin : config.metadata.finalizers = []) : (c.putConfig config).findConfig name = none := by
  subst hname
  rw [findConfig_putConfig_self, if_pos ⟨hdel, hfin⟩]

theorem updateConfig_of_current {config cur : NamespaceRBACConfig}
    (hf : c.faults.update .namespaceRBACConfig ⟨"", config.metadata.name⟩ = none)
    (hcur : c.findConfig config.metadata.name = some cur)
    (hv : config.metadata.resourceVersion = cur.metadata.resourceVersion) :
    c.updateConfig config = (.ok (), c.putConfig { config with
      metadata.deletionTimestamp := cur.metadata.deletionTimestamp
      metadata.generation := nextGeneration cur config
      status := cur.status }) := by
  simp [updateConfig, hf, hcur, hv]

end Cluster

namespace Operator

/-- The config an event is about, if any. -/
def Event.configName : Event → Option String
  | .createConfig config | .updateConfig config => some config.metadata.name
  | .deleteConfig _ name | .reconcileConfig _ name => some name
  | _ => none

variable (re : Regexp) (mgr : Manager)

/-! ### One event -/

private theorem reconcileFetched_of_finalized_deleting (now : Nat) (config : NamespaceRBACConfig)
    (c : Cluster) (hdel : config.metadata.deletionTimestamp.isSome)
    (hfin : containsFinalizer config finalizerName = true) :
    ((NamespaceRBACConfigReconciler.reconcileFetched (m := StateM Cluster) re mgr now config).run
      c).2 = (c.updateConfig (removeFinalizer config finalizerName)).2 := by
  simp only [NamespaceRBACConfigReconciler.reconcileFetched, hdel, if_true,
    NamespaceRBACConfigReconciler.handleDeletion, NamespaceRBACConfigReconciler.cleanupRBAC_eq,
    hfin, StateT.run, bind, StateT.bind, pure, StateT.pure]
  rcases c.updateConfig (removeFinalizer config finalizerName) with ⟨_ | _, _⟩ <;> rfl

/-- A config pass keeps the finalizer on a live config and removes it from one being deleted. -/
theorem reconcileConfig_finalizer_protocol (now : Nat) (name : String) {c : Cluster}
    {x : NamespaceRBACConfig} (hget : c.getConfig name = .ok x)
    (hf : c.faults.update .namespaceRBACConfig ⟨"", name⟩ = none) :
    (x.metadata.deletionTimestamp = none →
      ∃ x', (step re mgr c (.reconcileConfig now name)).findConfig name = some x' ∧
        finalizerName ∈ x'.metadata.finalizers) ∧
    (finalizerName ∈ x.metadata.finalizers → x.metadata.deletionTimestamp.isSome →
      (∀ x', (step re mgr c (.reconcileConfig now name)).findConfig name = some x' →
        x'.metadata.finalizers = x.metadata.finalizers.filter (· ≠ finalizerName)) ∧
      (x.metadata.finalizers.filter (· ≠ finalizerName) = [] →
        (step re mgr c (.reconcileConfig now name)).findConfig name = none)) := by
  have hfind := c.findConfig_of_getConfig hget
  obtain rfl := c.findConfig_name hfind
  have hstep : step re mgr c (.reconcileConfig now x.metadata.name) =
      ((NamespaceRBACConfigReconciler.reconcileFetched (m := StateM Cluster) re mgr now x).run
        c).2 := by
    simp only [step, NamespaceRBACConfigReconciler.reconcile_state, hget]
  rw [hstep]
  refine ⟨fun hdel => ?_, fun hfin hdel => ?_⟩
  · cases hc : containsFinalizer x finalizerName
    · have hv : (addFinalizer x finalizerName).metadata.resourceVersion =
          x.metadata.resourceVersion := by
        unfold addFinalizer
        split <;> rfl
      rw [NamespaceRBACConfigReconciler.reconcileFetched_of_unfinalized re mgr now x c hdel hc,
        c.updateConfig_of_current (by simpa using hf)
          (show c.findConfig (addFinalizer x finalizerName).metadata.name = some x by
            simpa using hfind) hv]
      refine ⟨_, c.findConfig_putConfig_kept (by simp) (by simp [hfind]) (by simp [hdel]), ?_⟩
      simp [addFinalizer, hc]
    · obtain ⟨c₁, written, hg, hmeta, h, -⟩ :=
        NamespaceRBACConfigReconciler.reconcileFetched_of_live re mgr now x c hdel hc
      have hfind₁ : c₁.findConfig x.metadata.name = some x := by
        simpa [Cluster.findConfig, hg.configs] using hfind
      have hmem : finalizerName ∈ x.metadata.finalizers := by
        simpa [containsFinalizer] using hc
      rw [h]
      rcases c₁.updateConfigStatus_cases written with he | ⟨cur, hcur, he⟩ <;> rw [he]
      · exact ⟨x, hfind₁, hmem⟩
      · rw [hmeta, hfind₁] at hcur
        obtain rfl := Option.some.inj hcur
        exact ⟨_, c₁.findConfig_putConfig_kept rfl (by simp [hfind₁]) (by simp [hdel]), hmem⟩
  · rw [reconcileFetched_of_finalized_deleting re mgr now x c hdel (by simpa [containsFinalizer]),
      c.updateConfig_of_current (by simpa using hf)
        (show c.findConfig (removeFinalizer x finalizerName).metadata.name = some x by
          simpa using hfind) rfl]
    dsimp only
    by_cases hempty : x.metadata.finalizers.filter (· ≠ finalizerName) = []
    · rw [Cluster.findConfig_putConfig_removed c]
      exacts [⟨fun _ h => Option.noConfusion h, fun _ => rfl⟩, rfl, hdel, hempty]
    · rw [Cluster.findConfig_putConfig_kept c]
      · refine ⟨fun x' h' => ?_, fun h => absurd h hempty⟩
        obtain rfl := Option.some.inj h'
        rfl
      exacts [rfl, by simp [hfind], fun _ => hempty]

theorem reconcileConfig_finalizer_protocol_dev :
    let re : Regexp := ⟨fun _ => none, fun _ _ => false⟩
    let mgr : Manager := ⟨⟨fun _ => none, fun _ text _ => .ok text⟩, {}⟩
    let dev : NamespaceRBACConfig :=
      { metadata := { name := "dev", finalizers := [finalizerName], deletionTimestamp := some 5,
                      generation := 1, resourceVersion := 1 } }
    let c : Cluster := { Cluster.empty with configs := [dev], revision := 1 }
    c.getConfig "dev" = .ok dev ∧ c.faults.update .namespaceRBACConfig ⟨"", "dev"⟩ = none ∧
      (dev.metadata.deletionTimestamp = none →
        ∃ x', (step re mgr c (.reconcileConfig 7 "dev")).findConfig "dev" = some x' ∧
          finalizerName ∈ x'.metadata.finalizers) ∧
      (finalizerName ∈ dev.metadata.finalizers → dev.metadata.deletionTimestamp.isSome →
        (∀ x', (step re mgr c (.reconcileConfig 7 "dev")).findConfig "dev" = some x' →
          x'.metadata.finalizers = dev.metadata.finalizers.filter (· ≠ finalizerName)) ∧
        (dev.metadata.finalizers.filter (· ≠ finalizerName) = [] →
          (step re mgr c (.reconcileConfig 7 "dev")).findConfig "dev" = none)) := by
  intro re mgr dev c
  exact ⟨rfl, rfl, reconcileConfig_finalizer_protocol re mgr 7 "dev" rfl rfl⟩

/-! ### Runs -/

end Operator

end AclOperator
