import AclOperator.Api.Types

/-! The status conditions of a NamespaceRBACConfig: `setCondition` and the updates each ending
of a pass makes, which leave the conditions settled. -/
namespace AclOperator

def conditionTypeReady : String := "Ready"

def conditionTypeProgressing : String := "Progressing"

def conditionTypeDegraded : String := "Degraded"

def reasonReconcileSuccess : String := "ReconcileSuccess"

def reasonReconcileError : String := "ReconcileError"

def reasonValidationError : String := "ValidationError"

/-- The loop of `setCondition`: replace the first condition of the type, or append one. -/
def upsertCondition (now : Nat) (conditionType : String) (status : ConditionStatus)
    (reason message : String) : List Condition → List Condition
  | [] => [⟨conditionType, status, now, reason, message⟩]
  | existing :: rest =>
    if existing.type = conditionType then
      ⟨conditionType, status,
        if existing.status ≠ status then now else existing.lastTransitionTime, reason, message⟩ :: rest
    else existing :: upsertCondition now conditionType status reason message rest

/-- `setCondition(config, conditionType, status, reason, message)`, the clock reading `now`. -/
def setCondition (now : Nat) (config : NamespaceRBACConfig) (conditionType : String)
    (status : ConditionStatus) (reason message : String) : NamespaceRBACConfig :=
  { config with
    status.conditions := upsertCondition now conditionType status reason message
      config.status.conditions }

section Fields
variable (now : Nat) (config : NamespaceRBACConfig) (conditionType : String)
  (status : ConditionStatus) (reason message : String)

@[simp] theorem setCondition_metadata :
    (setCondition now config conditionType status reason message).metadata = config.metadata :=
  rfl

@[simp] theorem setCondition_spec :
    (setCondition now config conditionType status reason message).spec = config.spec := rfl

@[simp] theorem setCondition_appliedNamespaces :
    (setCondition now config conditionType status reason message).status.appliedNamespaces =
      config.status.appliedNamespaces := rfl

@[simp] theorem setCondition_observedGeneration :
    (setCondition now config conditionType status reason message).status.observedGeneration =
      config.status.observedGeneration := rfl

end Fields

/-- The first condition update of a pass on a live config. -/
def markProgressing (now : Nat) (config : NamespaceRBACConfig) : NamespaceRBACConfig :=
  setCondition now config conditionTypeProgressing .true "Reconciling"
    "Reconciling NamespaceRBACConfig"

@[simp] theorem markProgressing_spec (now : Nat) (config : NamespaceRBACConfig) :
    (markProgressing now config).spec = config.spec := rfl

/-- The failure endings of `Reconcile`: `Degraded` true, `Ready` and `Progressing` false. -/
def markFailed (reason readyMessage progressingMessage : String) (now : Nat) (err : GoError)
    (config : NamespaceRBACConfig) : NamespaceRBACConfig :=
  let config := setCondition now config conditionTypeDegraded .true reason err.message
  let config := setCondition now config conditionTypeReady .false reason readyMessage
  setCondition now config conditionTypeProgressing .false reason progressingMessage

/-- The conditions `Reconcile` sets when `validateConfig` fails. -/
def markValidationFailed (now : Nat) (err : GoError) (config : NamespaceRBACConfig) :
    NamespaceRBACConfig :=
  markFailed reasonValidationError "Configuration validation failed" "Validation failed" now err
    config

/-- The conditions `Reconcile` sets when `reconcileRBAC` fails. -/
def markReconcileFailed (now : Nat) (err : GoError) (config : NamespaceRBACConfig) :
    NamespaceRBACConfig :=
  markFailed reasonReconcileError "RBAC reconciliation failed" "Reconciliation failed" now err
    config

/-- The success ending of `Reconcile`: `Ready` true, `Progressing` and `Degraded` false. -/
def markReconciled (now : Nat) (appliedNamespaces : List String) (config : NamespaceRBACConfig) :
    NamespaceRBACConfig :=
  let config := { config with
    status.appliedNamespaces := appliedNamespaces
    status.observedGeneration := config.metadata.generation }
  let config := setCondition now config conditionTypeReady .true reasonReconcileSuccess
    "Successfully reconciled RBAC"
  let config := setCondition now config conditionTypeProgressing .false reasonReconcileSuccess
    "Reconciliation completed"
  setCondition now config conditionTypeDegraded .false reasonReconcileSuccess "No issues detected"

/-- The condition of a type a reader finds first. -/
def findCondition (conditions : List Condition) (conditionType : String) : Option Condition :=
  conditions.find? (·.type = conditionType)

/-- The status of the condition of a type, if there is one. -/
def conditionStatus (conditions : List Condition) (conditionType : String) :
    Option ConditionStatus :=
  (findCondition conditions conditionType).map (·.status)

/-- One condition of each type, `Progressing` false, `Ready` true exactly when not `Degraded`. -/
structure ConditionsSettled (conditions : List Condition) : Prop where
  types : (conditions.map (·.type)).Perm
    [conditionTypeProgressing, conditionTypeReady, conditionTypeDegraded]
  progressing : conditionStatus conditions conditionTypeProgressing = some .false
  ready_iff :
    conditionStatus conditions conditionTypeReady = some .true ↔
      conditionStatus conditions conditionTypeDegraded = some .false

section Upsert
variable (now : Nat) (conditionType : String) (status : ConditionStatus) (reason message : String)

theorem upsertCondition_types (conditions : List Condition) :
    (upsertCondition now conditionType status reason message conditions).map (·.type) =
      if conditionType ∈ conditions.map (·.type) then conditions.map (·.type)
      else conditions.map (·.type) ++ [conditionType] := by
  induction conditions with
  | nil => rfl
  | cons existing rest ih =>
    by_cases h : existing.type = conditionType
    · simp [upsertCondition, h]
    · by_cases hr : conditionType ∈ rest.map (·.type) <;>
        simp [upsertCondition, h, ih, hr, Ne.symm h]

theorem findCondition_upsertCondition (conditions : List Condition) (conditionType' : String) :
    findCondition (upsertCondition now conditionType status reason message conditions)
        conditionType' =
      if conditionType' = conditionType then
        some ⟨conditionType, status, (match findCondition conditions conditionType with
          | some existing => if existing.status ≠ status then now else existing.lastTransitionTime
          | none => now), reason, message⟩
      else findCondition conditions conditionType' := by
  unfold findCondition
  induction conditions with
  | nil => by_cases h : conditionType' = conditionType <;> simp [upsertCondition, h, eq_comm]
  | cons existing rest ih =>
    by_cases h : existing.type = conditionType
    · by_cases h' : conditionType' = conditionType <;>
        simp [upsertCondition, h, h', List.find?_cons, eq_comm]
    · simp only [upsertCondition, h, if_false, List.find?_cons]
      by_cases h' : existing.type = conditionType'
      · have hne : conditionType' ≠ conditionType := fun e => h (h'.trans e)
        simp [h', hne]
      · simp [h', ih]

theorem conditionStatus_upsertCondition (conditions : List Condition) (conditionType' : String) :
    conditionStatus (upsertCondition now conditionType status reason message conditions)
        conditionType' =
      if conditionType' = conditionType then some status
      else conditionStatus conditions conditionType' := by
  unfold conditionStatus
  rw [findCondition_upsertCondition]
  split <;> rfl

end Upsert

section Settled
variable (now : Nat) (config : NamespaceRBACConfig)

private theorem upsertCondition_perm {conditions : List Condition} {conditionType : String}
    (h : (conditions.map (·.type)).Perm
      [conditionTypeProgressing, conditionTypeReady, conditionTypeDegraded])
    (ht : conditionType ∈ [conditionTypeProgressing, conditionTypeReady, conditionTypeDegraded])
    (status : ConditionStatus) (reason message : String) :
    ((upsertCondition now conditionType status reason message conditions).map (·.type)).Perm
      [conditionTypeProgressing, conditionTypeReady, conditionTypeDegraded] := by
  rwa [upsertCondition_types, if_pos (h.mem_iff.mpr ht)]

theorem markFailed_settled (reason readyMessage progressingMessage : String) (err : GoError)
    (hc : config.status.conditions = [] ∨ ConditionsSettled config.status.conditions) :
    let conditions := (markFailed reason readyMessage progressingMessage now err
      (markProgressing now config)).status.conditions
    ConditionsSettled conditions ∧ conditionStatus conditions conditionTypeReady = some .false := by
  intro conditions
  have hs : ∀ t, conditionStatus conditions t =
      if t = conditionTypeProgressing then some .false
      else if t = conditionTypeReady then some .false
      else if t = conditionTypeDegraded then some .true
      else if t = conditionTypeProgressing then some .true
      else conditionStatus config.status.conditions t := fun t => by
    simp only [conditions, markFailed, markProgressing, setCondition,
      conditionStatus_upsertCondition]
  refine ⟨⟨?_, ?_, ?_⟩, ?_⟩
  · rcases hc with h | h
    · simp [conditions, markFailed, markProgressing, setCondition, h, upsertCondition,
        conditionTypeProgressing, conditionTypeReady, conditionTypeDegraded]
      decide
    · simp only [conditions, markFailed, markProgressing, setCondition]
      repeat apply upsertCondition_perm _ _ (by simp)
      exact h.types
  all_goals simp [hs, conditionTypeProgressing, conditionTypeReady, conditionTypeDegraded]

theorem markReconciled_settled (appliedNamespaces : List String)
    (hc : config.status.conditions = [] ∨ ConditionsSettled config.status.conditions) :
    let conditions :=
      (markReconciled now appliedNamespaces (markProgressing now config)).status.conditions
    ConditionsSettled conditions ∧ conditionStatus conditions conditionTypeReady = some .true := by
  intro conditions
  have hs : ∀ t, conditionStatus conditions t =
      if t = conditionTypeDegraded then some .false
      else if t = conditionTypeProgressing then some .false
      else if t = conditionTypeReady then some .true
      else if t = conditionTypeProgressing then some .true
      else conditionStatus config.status.conditions t := fun t => by
    simp only [conditions, markReconciled, markProgressing, setCondition,
      conditionStatus_upsertCondition]
  refine ⟨⟨?_, ?_, ?_⟩, ?_⟩
  · rcases hc with h | h
    · simp [conditions, markReconciled, markProgressing, setCondition, h, upsertCondition,
        conditionTypeProgressing, conditionTypeReady, conditionTypeDegraded]
    · simp only [conditions, markReconciled, markProgressing, setCondition]
      repeat apply upsertCondition_perm _ _ (by simp)
      exact h.types
  all_goals simp [hs, conditionTypeProgressing, conditionTypeReady, conditionTypeDegraded]

theorem markFailed_progressing (reason readyMessage progressingMessage : String) (err : GoError) :
    findCondition (markFailed reason readyMessage progressingMessage now err
        (markProgressing now config)).status.conditions conditionTypeProgressing =
      some ⟨conditionTypeProgressing, .false, now, reason, progressingMessage⟩ := by
  simp [markFailed, markProgressing, setCondition, findCondition_upsertCondition,
    conditionTypeProgressing, conditionTypeReady, conditionTypeDegraded]

theorem markReconciled_progressing (appliedNamespaces : List String) :
    findCondition (markReconciled now appliedNamespaces
        (markProgressing now config)).status.conditions conditionTypeProgressing =
      some ⟨conditionTypeProgressing, .false, now, reasonReconcileSuccess,
        "Reconciliation completed"⟩ := by
  simp [markReconciled, markProgressing, setCondition, findCondition_upsertCondition,
    conditionTypeProgressing, conditionTypeReady, conditionTypeDegraded]

end Settled

end AclOperator
