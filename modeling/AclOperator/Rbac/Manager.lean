import AclOperator.Template.Engine
import AclOperator.Rbac.Upsert

/-! The permission manager (`pkg/rbac`): the apply functions, which build an object from a
template and upsert it, `ApplyRBACForNamespace`, and the cleanup. -/
namespace AclOperator

def ownerLabel : String := "rbac.operator.io/owned-by"

def configLabel : String := "rbac.operator.io/config"

def namespaceLabel : String := "rbac.operator.io/namespace"

/-- `mergeLabels`: the template's labels, then the operator's own written over them. -/
def mergeLabels (templateLabels : GoMap) (config : NamespaceRBACConfig) (targetNamespace : String) :
    GoMap :=
  let labels := (templateLabels.getD ∅).insert ownerLabel "namespace-rbac-operator"
  let labels := labels.insert configLabel config.metadata.name
  some (if targetNamespace ≠ "" then labels.insert namespaceLabel targetNamespace else labels)

theorem mergeLabels_get? (templateLabels : GoMap) (config : NamespaceRBACConfig)
    (targetNamespace key : String) :
    (mergeLabels templateLabels config targetNamespace).get? key =
      if key = namespaceLabel ∧ targetNamespace ≠ "" then some targetNamespace
      else if key = configLabel then some config.metadata.name
      else if key = ownerLabel then some "namespace-rbac-operator"
      else templateLabels.get? key := by
  have hcopy : ((templateLabels.getD ∅).lookup key) = templateLabels.get? key := by
    cases templateLabels <;> simp
  unfold mergeLabels
  by_cases hk1 : key = namespaceLabel <;> by_cases hk2 : key = configLabel <;>
    by_cases hk3 : key = ownerLabel <;> subst_vars <;> split_ifs <;>
    simp_all [AList.lookup_insert, AList.lookup_insert_ne, namespaceLabel, configLabel, ownerLabel]

/-- The part of the client's scheme `SetControllerReference` consults for a Namespace owner. -/
structure Scheme where
  namespaceKindError : Option String := none

/-- The controller reference to a namespace, which blocks the namespace's deletion. -/
def namespaceOwnerReference (ns : Namespace) : OwnerReference where
  apiVersion := "v1"
  kind := "Namespace"
  name := ns.metadata.name
  uid := ns.metadata.uid
  controller := true
  blockOwnerDeletion := true

/-- `controllerutil.SetControllerReference(ns, obj, scheme)` on a freshly built object. -/
def setControllerReference (scheme : Scheme) (ns : Namespace) (metadata : ObjectMeta) :
    Except GoError ObjectMeta :=
  let ownerNs := ns.metadata.namespace
  if ownerNs ≠ "" ∧ metadata.namespace = "" then
    .error (.msg ("cluster-scoped resource must not have a namespace-scoped owner, " ++
      "owner's namespace " ++ ownerNs))
  else if ownerNs ≠ "" ∧ metadata.namespace ≠ ownerNs then
    .error (.msg ("cross-namespace owner references are disallowed, owner's namespace " ++
      ownerNs ++ ", obj's namespace " ++ metadata.namespace))
  else
    match scheme.namespaceKindError with
    | some e => .error (.msg e)
    | none => .ok { metadata with ownerReferences := [namespaceOwnerReference ns] }

/-- One pass of the loop of `processSubjects`: the name, and the namespace when set. -/
def processSubject (engine : TextTemplate) (templateCtx : TemplateContext) (subject : Subject) :
    Except GoError Subject := do
  let processedName ← (processTemplate engine subject.name templateCtx).mapError
    (.wrap "failed to process subject name")
  let result : Subject :=
    { kind := subject.kind, apiGroup := subject.apiGroup, name := processedName }
  if subject.namespace ≠ "" then
    let processedNamespace ← (processTemplate engine subject.namespace templateCtx).mapError
      (.wrap "failed to process subject namespace")
    return { result with «namespace» := processedNamespace }
  else return result

/-- `processSubjects`: the subjects in order, or the first failure. -/
def processSubjects (engine : TextTemplate) (subjects : List Subject)
    (templateCtx : TemplateContext) : Except GoError (List Subject) :=
  subjects.mapM (processSubject engine templateCtx)

/-- `Manager`: the template engine and the client's scheme; the client is the monad. -/
structure Manager where
  engine : TextTemplate
  scheme : Scheme

namespace Manager

section Build
variable (mgr : Manager) (ns : Namespace) (config : NamespaceRBACConfig)
  (templateCtx : TemplateContext)

/-- The start every apply function shares: name, labels and annotations processed. -/
def processMetadata (kindText name : String) (labels annotations : GoMap) (objNamespace : String) :
    Except GoError ObjectMeta := do
  let name ← (processTemplate mgr.engine name templateCtx).mapError
    (.wrap ("failed to process " ++ kindText ++ " name template"))
  let labels ← (processMap mgr.engine labels templateCtx).mapError
    (.wrap ("failed to process " ++ kindText ++ " labels"))
  let annotations ← (processMap mgr.engine annotations templateCtx).mapError
    (.wrap ("failed to process " ++ kindText ++ " annotations"))
  return { name := name
           «namespace» := objNamespace
           labels := mergeLabels labels config ns.metadata.name
           annotations := annotations }

/-- The binding functions' next steps: the role reference's name, then the subjects. -/
def processBinding (roleRef : RoleRef) (subjects : List Subject) :
    Except GoError (RoleRef × List Subject) := do
  let roleRefName ← (processTemplate mgr.engine roleRef.name templateCtx).mapError
    (.wrap "failed to process role ref name template")
  let subjects ← (processSubjects mgr.engine subjects templateCtx).mapError
    (.wrap "failed to process subjects")
  return ({ apiGroup := roleRef.apiGroup, kind := roleRef.kind, name := roleRefName }, subjects)

/-- The namespaced kinds' last step: the namespace becomes the controller owner. -/
def setOwner (metadata : ObjectMeta) : Except GoError ObjectMeta :=
  (setControllerReference mgr.scheme ns metadata).mapError (.wrap "failed to set owner reference")

/-- The Role `applyRole` builds. -/
def buildRole (template : RoleTemplate) : Except GoError Role := do
  let metadata ← mgr.processMetadata ns config templateCtx "role" template.name template.labels
    template.annotations ns.metadata.name
  let metadata ← mgr.setOwner ns metadata
  return { metadata := metadata, rules := template.rules }

/-- The ClusterRole `applyClusterRole` builds: no namespace, no owner. -/
def buildClusterRole (template : ClusterRoleTemplate) : Except GoError ClusterRole := do
  let metadata ← mgr.processMetadata ns config templateCtx "cluster role" template.name
    template.labels template.annotations ""
  return { metadata := metadata, rules := template.rules }

/-- The RoleBinding `applyRoleBinding` builds. -/
def buildRoleBinding (template : RoleBindingTemplate) : Except GoError RoleBinding := do
  let metadata ← mgr.processMetadata ns config templateCtx "role binding" template.name
    template.labels template.annotations ns.metadata.name
  let (roleRef, subjects) ← mgr.processBinding templateCtx template.roleRef template.subjects
  let metadata ← mgr.setOwner ns metadata
  return { metadata := metadata, subjects := subjects, roleRef := roleRef }

/-- The ClusterRoleBinding `applyClusterRoleBinding` builds: no namespace, no owner. -/
def buildClusterRoleBinding (template : ClusterRoleBindingTemplate) :
    Except GoError ClusterRoleBinding := do
  let metadata ← mgr.processMetadata ns config templateCtx "cluster role binding" template.name
    template.labels template.annotations ""
  let (roleRef, subjects) ← mgr.processBinding templateCtx template.roleRef template.subjects
  return { metadata := metadata, subjects := subjects, roleRef := roleRef }

end Build

section Apply
variable {m : Type → Type} [Monad m] [Client m]
variable (mgr : Manager) (ns : Namespace) (config : NamespaceRBACConfig)
  (templateCtx : TemplateContext)

/-- Hand a built object to the upsert of its kind, or return what stopped the build. -/
def applyBuilt {α : Type} (built : Except GoError α) (upsert : α → m (Except GoError Unit)) :
    m (Except GoError Unit) :=
  match built with
  | .error e => return .error e
  | .ok obj => upsert obj

def applyRole (template : RoleTemplate) : m (Except GoError Unit) :=
  applyBuilt (mgr.buildRole ns config templateCtx template) (createOrUpdateRole · config)

def applyClusterRole (template : ClusterRoleTemplate) : m (Except GoError Unit) :=
  applyBuilt (mgr.buildClusterRole ns config templateCtx template)
    (createOrUpdateClusterRole · config)

def applyRoleBinding (template : RoleBindingTemplate) : m (Except GoError Unit) :=
  applyBuilt (mgr.buildRoleBinding ns config templateCtx template)
    (createOrUpdateRoleBinding · config)

def applyClusterRoleBinding (template : ClusterRoleBindingTemplate) : m (Except GoError Unit) :=
  applyBuilt (mgr.buildClusterRoleBinding ns config templateCtx template)
    (createOrUpdateClusterRoleBinding · config)

end Apply
end Manager

section Loops
variable {m : Type → Type} [Monad m] [Client m]

/-- The loop over one kind's templates: each in order, the first failure under its context. -/
def forEachTemplate {α : Type} (context : α → String) (step : α → m (Except GoError Unit)) :
    List α → m (Except GoError Unit)
  | [] => return .ok ()
  | template :: rest => do
    match ← step template with
    | .error e => return .error (.wrap (context template) e)
    | .ok () => forEachTemplate context step rest

/-- `ApplyRBACForNamespace(ns, config)`: the four kinds in order, stopping at the first failure. -/
def applyRBACForNamespace (mgr : Manager) (ns : Namespace) (config : NamespaceRBACConfig) :
    m (Except GoError Unit) :=
  let templateCtx := buildContext ns config
  let templates := config.spec.rbacTemplates
  ExceptT.run do
    ExceptT.mk <| forEachTemplate (fun t => "failed to apply role " ++ t.name)
      (mgr.applyRole ns config templateCtx) templates.roles
    ExceptT.mk <| forEachTemplate (fun t => "failed to apply cluster role " ++ t.name)
      (mgr.applyClusterRole ns config templateCtx) templates.clusterRoles
    ExceptT.mk <| forEachTemplate (fun t => "failed to apply role binding " ++ t.name)
      (mgr.applyRoleBinding ns config templateCtx) templates.roleBindings
    ExceptT.mk <| forEachTemplate (fun t => "failed to apply cluster role binding " ++ t.name)
      (mgr.applyClusterRoleBinding ns config templateCtx) templates.clusterRoleBindings

/-- The orphan checks of the cleanup: both return nil without a request. -/
def cleanupIfOrphaned (_nameTemplate _namespaceName : String) (_config : NamespaceRBACConfig) :
    m (Except GoError Unit) :=
  return .ok ()

def cleanupClusterRoleIfOrphaned (nameTemplate namespaceName : String)
    (config : NamespaceRBACConfig) : m (Except GoError Unit) :=
  cleanupIfOrphaned nameTemplate namespaceName config

def cleanupClusterRoleBindingIfOrphaned (nameTemplate namespaceName : String)
    (config : NamespaceRBACConfig) : m (Except GoError Unit) :=
  cleanupIfOrphaned nameTemplate namespaceName config

/-- `CleanupRBACForNamespace(namespaceName, config)`: the two cluster kinds' templates. -/
def cleanupRBACForNamespace (namespaceName : String) (config : NamespaceRBACConfig) :
    m (Except GoError Unit) :=
  let templates := config.spec.rbacTemplates
  ExceptT.run do
    ExceptT.mk <| forEachTemplate (fun _ => "failed to cleanup cluster role")
      (fun t => cleanupClusterRoleIfOrphaned t.name namespaceName config) templates.clusterRoles
    ExceptT.mk <| forEachTemplate (fun _ => "failed to cleanup cluster role binding")
      (fun t => cleanupClusterRoleBindingIfOrphaned t.name namespaceName config)
      templates.clusterRoleBindings

omit [Client m] in
private theorem forEachTemplate_pure_ok [LawfulMonad m] {α : Type} (context : α → String)
    (templates : List α) :
    forEachTemplate (m := m) context (fun _ => pure (.ok ())) templates = pure (.ok ()) := by
  induction templates with
  | nil => rfl
  | cons t rest ih => simp [forEachTemplate, ih]

omit [Client m] in
theorem cleanupRBACForNamespace_eq [LawfulMonad m] (namespaceName : String)
    (config : NamespaceRBACConfig) :
    cleanupRBACForNamespace (m := m) namespaceName config = pure (.ok ()) := by
  simp [cleanupRBACForNamespace, cleanupClusterRoleIfOrphaned, cleanupClusterRoleBindingIfOrphaned,
    cleanupIfOrphaned, forEachTemplate_pure_ok, ExceptT.run_bind, ExceptT.run_mk]

end Loops

/-! ### What the apply functions build -/

section Substitution
variable (engine : TextTemplate) (templateCtx : TemplateContext) (P : String → String)

variable (mgr : Manager) (ns : Namespace) (config : NamespaceRBACConfig)

end Substitution

end AclOperator
