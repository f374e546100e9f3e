import Mathlib.Data.List.AList

/-! The operator's data model: Go maps and errors, the Kubernetes objects its code reads and
writes, and the NamespaceRBACConfig resource with its selector, templates, config and status. -/
namespace AclOperator

/-- A non-nil Go `map[string]string`: every key at most once, iteration order unspecified. -/
abbrev StrMap := AList (fun _ : String => String)

/-- A Go map field; `none` is the nil map, which reads as empty. -/
abbrev GoMap := Option StrMap

namespace GoMap

/-- `value, exists := m[key]`: a nil map holds no key. -/
def get? (m : GoMap) (key : String) : Option String :=
  m.bind (AList.lookup key)

def len : GoMap → Nat
  | none => 0
  | some m => m.entries.length

@[simp] theorem get?_none (key : String) : get? none key = none := rfl

@[simp] theorem get?_some (m : StrMap) (key : String) : get? (some m) key = m.lookup key := rfl

end GoMap

/-- An API server error, by the reasons the code tells apart; every other failure is `other`. -/
inductive StatusError where
  | notFound
  | alreadyExists
  | conflict
  | other (message : String)
  deriving DecidableEq, Repr

/-- A Go `error`: a status error, a message, or `fmt.Errorf` wrapping a cause with `%w`. -/
inductive GoError where
  | status (e : StatusError)
  | msg (text : String)
  | wrap (context : String) (cause : GoError)
  deriving DecidableEq, Repr

namespace GoError

/-- `err.Error()`; status errors render with the API server's wording. -/
def message : GoError → String
  | status .notFound => "not found"
  | status .alreadyExists => "already exists"
  | status .conflict =>
    "the object has been modified; please apply your changes to the latest version and try again"
  | status (.other text) => text
  | msg text => text
  | wrap context cause => context ++ ": " ++ cause.message

/-- `errors.IsNotFound(err)`. -/
def isNotFound : GoError → Bool
  | status e => e == .notFound
  | msg _ => false
  | wrap _ cause => cause.isNotFound

end GoError

/-- `types.NamespacedName`; a cluster-scoped object is named with namespace "". -/
structure NamespacedName where
  «namespace» : String
  name : String
  deriving DecidableEq, Repr

structure OwnerReference where
  apiVersion : String
  kind : String
  name : String
  uid : String
  controller : Bool
  blockOwnerDeletion : Bool
  deriving DecidableEq, Repr

/-- The fields of `metav1.ObjectMeta` the code uses; `resourceVersion` 0 is an unsaved object. -/
structure ObjectMeta where
  name : String := ""
  «namespace» : String := ""
  uid : String := ""
  labels : GoMap := none
  annotations : GoMap := none
  ownerReferences : List OwnerReference := []
  finalizers : List String := []
  deletionTimestamp : Option Nat := none
  generation : Nat := 0
  resourceVersion : Nat := 0
  deriving DecidableEq

/-- `rbacv1.PolicyRule`; the operator copies and concatenates rules without reading them. -/
structure PolicyRule where
  verbs : List String
  apiGroups : List String := []
  resources : List String := []
  resourceNames : List String := []
  nonResourceURLs : List String := []
  deriving DecidableEq, Repr

structure Subject where
  kind : String
  apiGroup : String := ""
  name : String
  «namespace» : String := ""
  deriving DecidableEq, Repr

structure RoleRef where
  apiGroup : String
  kind : String
  name : String
  deriving DecidableEq, Repr

structure Role where
  metadata : ObjectMeta
  rules : List PolicyRule

/-- `rbacv1.ClusterRole` (its aggregation rule is never set by the operator). -/
structure ClusterRole where
  metadata : ObjectMeta
  rules : List PolicyRule

structure RoleBinding where
  metadata : ObjectMeta
  subjects : List Subject
  roleRef : RoleRef

structure ClusterRoleBinding where
  metadata : ObjectMeta
  subjects : List Subject
  roleRef : RoleRef

/-- `corev1.Namespace`, of which the operator reads only the metadata. -/
structure Namespace where
  metadata : ObjectMeta

/-- `NamespaceSelector`: all criteria must hold, and exclusion takes precedence. -/
structure NamespaceSelector where
  nameRegex : Option String := none
  annotations : GoMap := none
  labels : GoMap := none
  includeNamespaces : List String := []
  excludeNamespaces : List String := []
  deriving DecidableEq

structure RoleTemplate where
  name : String
  rules : List PolicyRule
  labels : GoMap := none
  annotations : GoMap := none
  deriving DecidableEq

structure ClusterRoleTemplate where
  name : String
  rules : List PolicyRule
  labels : GoMap := none
  annotations : GoMap := none
  deriving DecidableEq

structure RoleBindingTemplate where
  name : String
  roleRef : RoleRef
  subjects : List Subject
  labels : GoMap := none
  annotations : GoMap := none
  deriving DecidableEq

structure ClusterRoleBindingTemplate where
  name : String
  roleRef : RoleRef
  subjects : List Subject
  labels : GoMap := none
  annotations : GoMap := none
  deriving DecidableEq

structure RBACTemplates where
  roles : List RoleTemplate := []
  clusterRoles : List ClusterRoleTemplate := []
  roleBindings : List RoleBindingTemplate := []
  clusterRoleBindings : List ClusterRoleBindingTemplate := []
  deriving DecidableEq

/-- `NamingConfig` (its `Prefix` and `Suffix` fields). -/
structure NamingConfig where
  namePrefix : String := ""
  nameSuffix : String := ""
  separator : String := ""
  deriving DecidableEq

/-- `CleanupConfig`, of which the cleanup code reads the orphan flag. -/
structure CleanupConfig where
  deleteOrphanedClusterResources : Option Bool := none
  deriving DecidableEq

/-- Go's `type MergeStrategy string`: any string, three of which the code knows. -/
abbrev MergeStrategy := String

def MergeStrategy.merge : MergeStrategy := "merge"

def MergeStrategy.replace : MergeStrategy := "replace"

def MergeStrategy.ignore : MergeStrategy := "ignore"

structure NamespaceRBACConfigConfig where
  naming : Option NamingConfig := none
  mergeStrategy : Option MergeStrategy := none
  templateVariables : GoMap := none
  cleanup : Option CleanupConfig := none
  deriving DecidableEq

structure NamespaceRBACConfigSpec where
  namespaceSelector : NamespaceSelector := {}
  rbacTemplates : RBACTemplates := {}
  config : Option NamespaceRBACConfigConfig := none
  deriving DecidableEq

inductive ConditionStatus where
  | true
  | false
  | unknown
  deriving DecidableEq, Repr

/-- `metav1.Condition` with the fields the controller fills in. -/
structure Condition where
  type : String
  status : ConditionStatus
  lastTransitionTime : Nat
  reason : String
  message : String
  deriving DecidableEq, Repr

/-- `NamespaceRBACConfigStatus` (its `CreatedResources` is never written). -/
structure NamespaceRBACConfigStatus where
  conditions : List Condition := []
  appliedNamespaces : List String := []
  observedGeneration : Nat := 0
  deriving DecidableEq, Repr

structure NamespaceRBACConfig where
  metadata : ObjectMeta := {}
  spec : NamespaceRBACConfigSpec := {}
  status : NamespaceRBACConfigStatus := {}

end AclOperator
