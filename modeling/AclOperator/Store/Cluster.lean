import AclOperator.Api.Types

/-! The API server as the operator's code sees it: the stores of RBAC objects, namespaces and
configs under one revision counter, and the requests with their version checks and faults. -/
namespace AclOperator

/-- The four kinds of RBAC object the operator writes. -/
inductive RbacKind where
  | role
  | clusterRole
  | roleBinding
  | clusterRoleBinding
  deriving DecidableEq, Repr

namespace RbacKind

/-- The Go type of a kind's objects. -/
@[reducible] def Obj : RbacKind → Type
  | role => Role
  | clusterRole => ClusterRole
  | roleBinding => RoleBinding
  | clusterRoleBinding => ClusterRoleBinding

/-- The object's `ObjectMeta`. -/
def metadata : (k : RbacKind) → k.Obj → ObjectMeta
  | role, o => o.metadata
  | clusterRole, o => o.metadata
  | roleBinding, o => o.metadata
  | clusterRoleBinding, o => o.metadata

/-- `obj.ResourceVersion = version`. -/
def withResourceVersion : (k : RbacKind) → k.Obj → Nat → k.Obj
  | role, o, v => { o with metadata.resourceVersion := v }
  | clusterRole, o, v => { o with metadata.resourceVersion := v }
  | roleBinding, o, v => { o with metadata.resourceVersion := v }
  | clusterRoleBinding, o, v => { o with metadata.resourceVersion := v }

/-- Whether objects of the kind live in a namespace. -/
def namespaced : RbacKind → Bool
  | role | roleBinding => true
  | clusterRole | clusterRoleBinding => false

/-- The name a request for the object uses; cluster-scoped kinds have no namespace. -/
def key (k : RbacKind) (obj : k.Obj) : NamespacedName :=
  ⟨if k.namespaced then (k.metadata obj).namespace else "", (k.metadata obj).name⟩

@[simp] theorem metadata_withResourceVersion (k : RbacKind) (obj : k.Obj) (v : Nat) :
    k.metadata (k.withResourceVersion obj v) = { k.metadata obj with resourceVersion := v } := by
  cases k <;> rfl

@[simp] theorem key_withResourceVersion (k : RbacKind) (obj : k.Obj) (v : Nat) :
    k.key (k.withResourceVersion obj v) = k.key obj := by
  cases k <;> rfl

@[simp] theorem withResourceVersion_withResourceVersion (k : RbacKind) (obj : k.Obj) (v w : Nat) :
    k.withResourceVersion (k.withResourceVersion obj v) w = k.withResourceVersion obj w := by
  cases k <;> rfl

end RbacKind

/-- What a request names, for the fault table. -/
inductive ResourceKind where
  | rbac (k : RbacKind)
  | «namespace»
  | namespaceRBACConfig
  deriving DecidableEq

/-- The requests the API server refuses outright, with the refusal's message. -/
structure Faults where
  get : ResourceKind → NamespacedName → Option String := fun _ _ => none
  list : ResourceKind → Option String := fun _ => none
  create : ResourceKind → NamespacedName → Option String := fun _ _ => none
  update : ResourceKind → NamespacedName → Option String := fun _ _ => none
  updateStatus : NamespacedName → Option String := fun _ => none

/-- The API server's state; every write stamps the object with the next `revision`. -/
structure Cluster where
  rbac : (k : RbacKind) → NamespacedName → Option k.Obj
  namespaces : List Namespace
  configs : List NamespaceRBACConfig
  revision : Nat
  faults : Faults

namespace Cluster

/-- A cluster with no object, no namespace and no config, that refuses nothing. -/
def empty : Cluster where
  rbac _ _ := none
  namespaces := []
  configs := []
  revision := 0
  faults := {}

variable (c : Cluster)

/-! ### RBAC objects -/

/-- `Get` of an RBAC object. -/
def read (k : RbacKind) (key : NamespacedName) : Except StatusError k.Obj :=
  match c.faults.get (.rbac k) key, c.rbac k key with
  | some msg, _ => .error (.other msg)
  | none, some o => .ok o
  | none, none => .error .notFound

/-- Store `obj` under its key, stamped with a fresh revision. -/
def put (k : RbacKind) (obj : k.Obj) : Cluster :=
  { c with
    revision := c.revision + 1
    rbac := Function.update c.rbac k
      (Function.update (c.rbac k) (k.key obj) (some (k.withResourceVersion obj (c.revision + 1)))) }

/-- The server's answer to a write: the refusal, with nothing written, or `obj` stored. -/
def answer (refusal : Option StatusError) (k : RbacKind) (obj : k.Obj) :
    Except StatusError Unit × Cluster :=
  match refusal with
  | some e => (.error e, c)
  | none => (.ok (), c.put k obj)

/-- Why a `Create` is refused: a fault, a resource version set on the object, or a taken name. -/
def createRefusal (k : RbacKind) (obj : k.Obj) : Option StatusError :=
  match c.faults.create (.rbac k) (k.key obj) with
  | some msg => some (.other msg)
  | none =>
    if (k.metadata obj).resourceVersion ≠ 0 then
      some (.other "resourceVersion should not be set on objects to be created")
    else if (c.rbac k (k.key obj)).isSome then some .alreadyExists
    else none

/-- Why an `Update` is refused: a fault, a missing object, or a stale resource version. -/
def updateRefusal (k : RbacKind) (obj : k.Obj) : Option StatusError :=
  match c.faults.update (.rbac k) (k.key obj), c.rbac k (k.key obj) with
  | some msg, _ => some (.other msg)
  | none, none => some .notFound
  | none, some cur =>
    if (k.metadata obj).resourceVersion ≠ 0 ∧
        (k.metadata obj).resourceVersion ≠ (k.metadata cur).resourceVersion then some .conflict
    else none

/-- `Create` of an RBAC object. -/
def create (k : RbacKind) (obj : k.Obj) : Except StatusError Unit × Cluster :=
  c.answer (c.createRefusal k obj) k obj

/-- `Update` of an RBAC object. -/
def update (k : RbacKind) (obj : k.Obj) : Except StatusError Unit × Cluster :=
  c.answer (c.updateRefusal k obj) k obj

/-- A user's `Delete` of an RBAC object. -/
def deleteRbac (k : RbacKind) (key : NamespacedName) : Cluster :=
  { c with
    revision := c.revision + 1
    rbac := Function.update c.rbac k (Function.update (c.rbac k) key none) }

theorem updateRefusal_of_read {k : RbacKind} {existing obj : k.Obj}
    (h : c.read k (k.key obj) = .ok existing)
    (hv : (k.metadata obj).resourceVersion = (k.metadata existing).resourceVersion) :
    c.updateRefusal k obj = (c.faults.update (.rbac k) (k.key obj)).map .other := by
  unfold read at h
  unfold updateRefusal
  split at h <;> simp_all
  cases c.faults.update (.rbac k) (k.key obj) <;> simp

theorem read_eq_ok_iff {k : RbacKind} {key : NamespacedName} {o : k.Obj} :
    c.read k key = .ok o ↔ c.faults.get (.rbac k) key = none ∧ c.rbac k key = some o := by
  unfold read
  split <;> simp_all

theorem read_eq_notFound_iff {k : RbacKind} {key : NamespacedName} :
    c.read k key = .error .notFound ↔ c.faults.get (.rbac k) key = none ∧ c.rbac k key = none := by
  unfold read
  split <;> simp_all

@[simp] theorem put_rbac_self (k : RbacKind) (obj : k.Obj) :
    (c.put k obj).rbac k = Function.update (c.rbac k) (k.key obj)
      (some (k.withResourceVersion obj (c.revision + 1))) := by
  simp [put]

@[simp] theorem put_rbac_of_ne {k k' : RbacKind} (obj : k.Obj) (h : k' ≠ k) :
    (c.put k obj).rbac k' = c.rbac k' := by
  simp [put, Function.update_noteq h]

@[simp] theorem put_namespaces (k : RbacKind) (obj : k.Obj) :
    (c.put k obj).namespaces = c.namespaces := rfl

@[simp] theorem put_configs (k : RbacKind) (obj : k.Obj) : (c.put k obj).configs = c.configs := rfl

@[simp] theorem put_faults (k : RbacKind) (obj : k.Obj) : (c.put k obj).faults = c.faults := rfl

@[simp] theorem put_revision (k : RbacKind) (obj : k.Obj) :
    (c.put k obj).revision = c.revision + 1 := rfl

/-- `c'` follows `c` by RBAC writes alone. -/
structure Grows (c' : Cluster) : Prop where
  faults : c'.faults = c.faults
  namespaces : c'.namespaces = c.namespaces
  configs : c'.configs = c.configs
  present : ∀ k key, (c.rbac k key).isSome → (c'.rbac k key).isSome

theorem Grows.refl : c.Grows c := ⟨rfl, rfl, rfl, fun _ _ h => h⟩

theorem Grows.trans {c₁ c₂ c₃ : Cluster} (h₁ : c₁.Grows c₂) (h₂ : c₂.Grows c₃) : c₁.Grows c₃ :=
  ⟨h₂.faults.trans h₁.faults, h₂.namespaces.trans h₁.namespaces, h₂.configs.trans h₁.configs,
    fun k key h => h₂.present k key (h₁.present k key h)⟩

theorem grows_put (k : RbacKind) (obj : k.Obj) : c.Grows (c.put k obj) := by
  refine ⟨rfl, rfl, rfl, fun k' key h => ?_⟩
  by_cases hk : k' = k
  · subst hk
    by_cases hkey : key = k'.key obj <;> simp [hkey, h]
  · rwa [put_rbac_of_ne _ _ hk]

theorem grows_answer (refusal : Option StatusError) (k : RbacKind) (obj : k.Obj) :
    c.Grows (c.answer refusal k obj).2 := by
  cases refusal
  exacts [c.grows_put k obj, .refl c]

/-! ### Namespaces and NamespaceRBACConfigs -/

/-- `List` of namespaces, in the order the server returns them. -/
def listNamespaces : Except StatusError (List Namespace) :=
  match c.faults.list .«namespace» with
  | some msg => .error (.other msg)
  | none => .ok c.namespaces

/-- `Get` of a namespace. -/
def getNamespace (name : String) : Except StatusError Namespace :=
  match c.faults.get .«namespace» ⟨"", name⟩, c.namespaces.find? (·.metadata.name == name) with
  | some msg, _ => .error (.other msg)
  | none, some ns => .ok ns
  | none, none => .error .notFound

/-- A user's write of a namespace: it takes the place of the namespace of its name, if any. -/
def putNamespace (ns : Namespace) : Cluster :=
  { c with namespaces := c.namespaces.filter (·.metadata.name ≠ ns.metadata.name) ++ [ns] }

/-- A user's `Delete` of a namespace, with the objects of namespaced kinds in it. -/
def deleteNamespace (name : String) : Cluster :=
  { c with
    revision := c.revision + 1
    namespaces := c.namespaces.filter (·.metadata.name ≠ name)
    rbac := fun k key => if k.namespaced ∧ key.namespace = name then none else c.rbac k key }

/-- The stored config of a name. -/
def findConfig (name : String) : Option NamespaceRBACConfig :=
  c.configs.find? (·.metadata.name == name)

/-- `Get` of a NamespaceRBACConfig (the resource is cluster-scoped). -/
def getConfig (name : String) : Except StatusError NamespaceRBACConfig :=
  match c.faults.get .namespaceRBACConfig ⟨"", name⟩, c.findConfig name with
  | some msg, _ => .error (.other msg)
  | none, some config => .ok config
  | none, none => .error .notFound

/-- `List` of NamespaceRBACConfigs. -/
def listConfigs : Except StatusError (List NamespaceRBACConfig) :=
  match c.faults.list .namespaceRBACConfig with
  | some msg => .error (.other msg)
  | none => .ok c.configs

/-- Store `config` at a fresh revision; one being deleted goes once no finalizer is left. -/
def putConfig (config : NamespaceRBACConfig) : Cluster :=
  let stamped := { config with metadata.resourceVersion := c.revision + 1 }
  { c with
    revision := c.revision + 1
    configs :=
      if config.metadata.deletionTimestamp.isSome ∧ config.metadata.finalizers = [] then
        c.configs.filter (·.metadata.name ≠ config.metadata.name)
      else c.configs.map fun x => if x.metadata.name = config.metadata.name then stamped else x }

/-- The generation the server gives an update of `cur` to `config`: one more on a spec change. -/
def nextGeneration (cur config : NamespaceRBACConfig) : Nat :=
  if config.spec = cur.spec then cur.metadata.generation else cur.metadata.generation + 1

/-- `Update` of a config: metadata and spec written, the generation bumped on a spec change. -/
def updateConfig (config : NamespaceRBACConfig) : Except StatusError Unit × Cluster :=
  match c.faults.update .namespaceRBACConfig ⟨"", config.metadata.name⟩,
      c.findConfig config.metadata.name with
  | some msg, _ => (.error (.other msg), c)
  | none, none => (.error .notFound, c)
  | none, some cur =>
    if config.metadata.resourceVersion ≠ 0 ∧
        config.metadata.resourceVersion ≠ cur.metadata.resourceVersion then
      (.error .conflict, c)
    else
      (.ok (), c.putConfig { config with
        metadata.deletionTimestamp := cur.metadata.deletionTimestamp
        metadata.generation := nextGeneration cur config
        status := cur.status })

/-- `Status().Update` of a NamespaceRBACConfig: writes the status only. -/
def updateConfigStatus (config : NamespaceRBACConfig) : Except StatusError Unit × Cluster :=
  match c.faults.updateStatus ⟨"", config.metadata.name⟩, c.findConfig config.metadata.name with
  | some msg, _ => (.error (.other msg), c)
  | none, none => (.error .notFound, c)
  | none, some cur =>
    if config.metadata.resourceVersion ≠ 0 ∧
        config.metadata.resourceVersion ≠ cur.metadata.resourceVersion then
      (.error .conflict, c)
    else (.ok (), c.putConfig { cur with status := config.status })

/-- `Create` of a config by a user: generation 1, no deletion timestamp, no status. -/
def createConfig (config : NamespaceRBACConfig) : Except StatusError Unit × Cluster :=
  match c.faults.create .namespaceRBACConfig ⟨"", config.metadata.name⟩ with
  | some msg => (.error (.other msg), c)
  | none =>
    if config.metadata.resourceVersion ≠ 0 then
      (.error (.other "resourceVersion should not be set on objects to be created"), c)
    else if (c.findConfig config.metadata.name).isSome then (.error .alreadyExists, c)
    else
      (.ok (), { c with
        revision := c.revision + 1
        configs := c.configs ++ [{ config with
          metadata.resourceVersion := c.revision + 1
          metadata.generation := 1
          metadata.deletionTimestamp := none
          status := {} }] })

/-- `Delete` of a config at time `now`: gone at once, or marked while finalizers hold it. -/
def deleteConfig (now : Nat) (name : String) : Except StatusError Unit × Cluster :=
  match c.findConfig name with
  | none => (.error .notFound, c)
  | some cur =>
    if cur.metadata.finalizers = [] then
      (.ok (), { c with
        revision := c.revision + 1
        configs := c.configs.filter (·.metadata.name ≠ name) })
    else if cur.metadata.deletionTimestamp.isSome then (.ok (), c)
    else (.ok (), c.putConfig { cur with metadata.deletionTimestamp := some now })

/-! ### What the config requests write -/

theorem findConfig_name {name : String} {config : NamespaceRBACConfig}
    (h : c.findConfig name = some config) : config.metadata.name = name := by
  simpa using List.find?_some h

theorem mem_of_findConfig {name : String} {config : NamespaceRBACConfig}
    (h : c.findConfig name = some config) : config ∈ c.configs :=
  List.mem_of_find?_eq_some h

theorem findConfig_of_getConfig {name : String} {config : NamespaceRBACConfig}
    (h : c.getConfig name = .ok config) : c.findConfig name = some config := by
  unfold getConfig at h
  split at h <;> simp_all

theorem findConfig_putConfig_of_ne {config : NamespaceRBACConfig} {name : String}
    (h : name ≠ config.metadata.name) :
    (c.putConfig config).findConfig name = c.findConfig name := by
  unfold putConfig findConfig
  split
  · rw [List.find?_filter]
    congr 1
    funext x
    by_cases hx : x.metadata.name = name
    · simp [hx, h]
    · simp [hx]
  · dsimp only
    induction c.configs with
    | nil => rfl
    | cons x xs ih =>
      rw [List.map_cons, List.find?_cons, List.find?_cons, ih]
      split_ifs with hx
      · simp [hx, beq_false_of_ne (Ne.symm h)]
      · rfl


theorem findConfig_putConfig_self (config : NamespaceRBACConfig) :
    (c.putConfig config).findConfig config.metadata.name =
      if config.metadata.deletionTimestamp.isSome ∧ config.metadata.finalizers = [] then none
      else (c.findConfig config.metadata.name).map
        fun _ => { config with metadata.resourceVersion := c.revision + 1 } := by
  unfold putConfig findConfig
  split
  · simp [List.find?_filter]
  · dsimp only
    induction c.configs with
    | nil => rfl
    | cons x xs ih =>
      rw [List.map_cons, List.find?_cons, List.find?_cons, ih]
      split_ifs with hx
      · simp [hx]
      · simp [beq_false_of_ne hx]


theorem forall_putConfig {P : NamespaceRBACConfigStatus → Prop}
    (hc : ∀ x ∈ c.configs, P x.status) {config : NamespaceRBACConfig} (h : P config.status) :
    ∀ x ∈ (c.putConfig config).configs, P x.status := by
  unfold putConfig
  split
  · simpa using fun x hx _ => hc x hx
  · simp only [List.mem_map]
    rintro _ ⟨x, hx, rfl⟩
    split
    · exact h
    · exact hc x hx

theorem updateConfig_cases (config : NamespaceRBACConfig) :
    (c.updateConfig config).2 = c ∨ ∃ cur, c.findConfig config.metadata.name = some cur ∧
      (c.updateConfig config).2 = c.putConfig { config with
        metadata.deletionTimestamp := cur.metadata.deletionTimestamp
        metadata.generation := nextGeneration cur config
        status := cur.status } := by
  unfold updateConfig
  split
  · exact .inl rfl
  · exact .inl rfl
  · split
    · exact .inl rfl
    · exact .inr ⟨_, ‹_›, rfl⟩

theorem updateConfigStatus_cases (config : NamespaceRBACConfig) :
    (c.updateConfigStatus config).2 = c ∨ ∃ cur, c.findConfig config.metadata.name = some cur ∧
      (c.updateConfigStatus config).2 = c.putConfig { cur with status := config.status } := by
  unfold updateConfigStatus
  split
  · exact .inl rfl
  · exact .inl rfl
  · split
    · exact .inl rfl
    · exact .inr ⟨_, ‹_›, rfl⟩

theorem updateConfigStatus_of_current {config cur : NamespaceRBACConfig}
    (hf : c.faults.updateStatus ⟨"", config.metadata.name⟩ = none)
    (hcur : c.findConfig config.metadata.name = some cur)
    (hv : config.metadata.resourceVersion = cur.metadata.resourceVersion) :
    c.updateConfigStatus config = (.ok (), c.putConfig { cur with status := config.status }) := by
  simp [updateConfigStatus, hf, hcur, hv]

theorem updateConfigStatus_of_fault {config : NamespaceRBACConfig} {msg : String}
    (hf : c.faults.updateStatus ⟨"", config.metadata.name⟩ = some msg) :
    c.updateConfigStatus config = (.error (.other msg), c) := by
  simp [updateConfigStatus, hf]


theorem forall_updateConfig {P : NamespaceRBACConfigStatus → Prop}
    (hc : ∀ x ∈ c.configs, P x.status) (config : NamespaceRBACConfig) :
    ∀ x ∈ (c.updateConfig config).2.configs, P x.status := by
  rcases c.updateConfig_cases config with h | ⟨cur, hcur, h⟩ <;> rw [h]
  · exact hc
  · exact c.forall_putConfig hc (hc cur (c.mem_of_findConfig hcur))

theorem forall_updateConfigStatus {P : NamespaceRBACConfigStatus → Prop}
    (hc : ∀ x ∈ c.configs, P x.status) {config : NamespaceRBACConfig} (h : P config.status) :
    ∀ x ∈ (c.updateConfigStatus config).2.configs, P x.status := by
  rcases c.updateConfigStatus_cases config with he | ⟨cur, _, he⟩ <;> rw [he]
  · exact hc
  · exact c.forall_putConfig hc h

theorem forall_createConfig {P : NamespaceRBACConfigStatus → Prop}
    (hc : ∀ x ∈ c.configs, P x.status) (h : P {}) (config : NamespaceRBACConfig) :
    ∀ x ∈ (c.createConfig config).2.configs, P x.status := by
  unfold createConfig
  split
  · exact hc
  · split_ifs
    · exact hc
    · exact hc
    · simp only [List.mem_append, List.mem_singleton]
      rintro x (hx | rfl)
      exacts [hc x hx, h]

theorem forall_deleteConfig {P : NamespaceRBACConfigStatus → Prop}
    (hc : ∀ x ∈ c.configs, P x.status) (now : Nat) (name : String) :
    ∀ x ∈ (c.deleteConfig now name).2.configs, P x.status := by
  unfold deleteConfig
  split
  · exact hc
  · rename_i cur hcur
    split_ifs
    · simpa using fun x hx _ => hc x hx
    · exact hc
    · exact c.forall_putConfig hc (hc cur (c.mem_of_findConfig hcur))

@[simp] theorem putConfig_rbac (config : NamespaceRBACConfig) :
    (c.putConfig config).rbac = c.rbac := rfl

@[simp] theorem putConfig_namespaces (config : NamespaceRBACConfig) :
    (c.putConfig config).namespaces = c.namespaces := rfl

theorem updateConfig_rbac (config : NamespaceRBACConfig) :
    (c.updateConfig config).2.rbac = c.rbac := by
  rcases c.updateConfig_cases config with h | ⟨_, _, h⟩ <;> simp [h]
end Cluster

/-! ### The client the code is written against -/

/-- The requests of controller-runtime's `client.Client` that the operator makes. -/
class Client (m : Type → Type) where
  get (k : RbacKind) (key : NamespacedName) : m (Except StatusError k.Obj)
  create (k : RbacKind) (obj : k.Obj) : m (Except StatusError Unit)
  update (k : RbacKind) (obj : k.Obj) : m (Except StatusError Unit)
  getNamespace (name : String) : m (Except StatusError Namespace)
  listNamespaces : m (Except StatusError (List Namespace))
  getConfig (name : String) : m (Except StatusError NamespaceRBACConfig)
  listConfigs : m (Except StatusError (List NamespaceRBACConfig))
  updateConfig (config : NamespaceRBACConfig) : m (Except StatusError Unit)
  updateConfigStatus (config : NamespaceRBACConfig) : m (Except StatusError Unit)

/-- Requests served one after another with no other writer. -/
instance : Client (StateM Cluster) where
  get k key := fun c => (c.read k key, c)
  create k obj := fun c => c.create k obj
  update k obj := fun c => c.update k obj
  getNamespace name := fun c => (c.getNamespace name, c)
  listNamespaces := fun c => (c.listNamespaces, c)
  getConfig name := fun c => (c.getConfig name, c)
  listConfigs := fun c => (c.listConfigs, c)
  updateConfig config := fun c => c.updateConfig config
  updateConfigStatus config := fun c => c.updateConfigStatus config

/-- The cluster and other clients' writes, each committed before the operator's next request. -/
structure Interleaving where
  cluster : Cluster
  others : List (Cluster → Cluster)

/-- Let the next other writer commit, then serve a request. -/
def Interleaving.serve {α : Type} (request : Cluster → α × Cluster) (s : Interleaving) :
    α × Interleaving :=
  let (c, rest) := match s.others with
    | [] => (s.cluster, [])
    | w :: rest => (w s.cluster, rest)
  let (a, c') := request c
  (a, ⟨c', rest⟩)

/-- Requests served with other writers committing between them. -/
instance : Client (StateM Interleaving) where
  get k key := Interleaving.serve fun c => (c.read k key, c)
  create k obj := Interleaving.serve (·.create k obj)
  update k obj := Interleaving.serve (·.update k obj)
  getNamespace name := Interleaving.serve fun c => (c.getNamespace name, c)
  listNamespaces := Interleaving.serve fun c => (c.listNamespaces, c)
  getConfig name := Interleaving.serve fun c => (c.getConfig name, c)
  listConfigs := Interleaving.serve fun c => (c.listConfigs, c)
  updateConfig config := Interleaving.serve (·.updateConfig config)
  updateConfigStatus config := Interleaving.serve (·.updateConfigStatus config)

/-! ### State kept beside the store -/

/-- With the state kept beside the store erased, `p` answers and writes the store as `q` does. -/
def Erases {σ α : Type} (p : StateT σ (StateM Cluster) α) (q : StateM Cluster α) : Prop :=
  ∀ s c, ((((p.run s).run c).1.1, ((p.run s).run c).2) : α × Cluster) = q.run c

namespace Erases
variable {σ α β : Type}

theorem lift (q : StateM Cluster α) : Erases (monadLift q : StateT σ (StateM Cluster) α) q :=
  fun _ _ => rfl

theorem pure (a : α) : Erases (Pure.pure a : StateT σ (StateM Cluster) α) (Pure.pure a) :=
  fun _ _ => rfl

theorem bind {p : StateT σ (StateM Cluster) α} {q : StateM Cluster α}
    {f : α → StateT σ (StateM Cluster) β} {g : α → StateM Cluster β} (hp : Erases p q)
    (hf : ∀ a, Erases (f a) (g a)) : Erases (p >>= f) (q >>= g) := by
  intro s c
  have h := hp s c
  simp only [StateT.run, Bind.bind, StateT.bind] at h ⊢
  rcases hrun : p s c with ⟨⟨a, s'⟩, c'⟩
  rw [hrun] at h
  rw [← h]
  exact hf a s' c'

theorem modify_bind {p : StateT σ (StateM Cluster) α} {q : StateM Cluster α} (f : σ → σ)
    (hp : Erases p q) : Erases (modify f >>= fun _ => p) q :=
  fun s c => hp (f s) c

end Erases

section Beside
variable {σ α β : Type}

theorem run_lift_bind (q : StateM Cluster α) (f : α → StateT σ (StateM Cluster) β) (s : σ)
    (c : Cluster) :
    ((monadLift q >>= f : StateT σ (StateM Cluster) β).run s).run c =
      ((f (q.run c).1).run s).run (q.run c).2 :=
  rfl

theorem run_modify_bind (g : σ → σ) (p : StateT σ (StateM Cluster) α) (s : σ) (c : Cluster) :
    ((modify g >>= fun _ => p : StateT σ (StateM Cluster) α).run s).run c = (p.run (g s)).run c :=
  rfl

end Beside

end AclOperator
