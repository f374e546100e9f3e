import AclOperator.Api.Types
import AclOperator.Utils.Helpers
import AclOperator.Template.Engine
import AclOperator.Rbac.Upsert
import AclOperator.Rbac.Manager
import AclOperator.Rbac.ApplyRun
import AclOperator.Rbac.FailFast
import AclOperator.Controller.Conditions
import AclOperator.Controller.ConfigReconciler
import AclOperator.Controller.NamespaceReconciler
import AclOperator.Controller.System
import AclOperator.Controller.Lifecycle
import AclOperator.Controller.Ownership
import AclOperator.Health.Checker
import AclOperator.Controller.Health
import AclOperator.Rbac.Metrics
import AclOperator.Controller.Metrics
