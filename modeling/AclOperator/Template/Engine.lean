import AclOperator.Api.Types

/-! The template engine (`pkg/template`): the context a template sees and the processing of a
text and of a map of texts, for every order Go ranges over the map in. -/
namespace AclOperator

structure NamespaceContext where
  name : String
  labels : GoMap
  annotations : GoMap

structure CRDContext where
  name : String
  «namespace» : String

/-- `NamingContext` (its `Prefix` and `Suffix` fields). -/
structure NamingContext where
  namePrefix : String
  nameSuffix : String
  separator : String

structure ConfigContext where
  naming : NamingContext

/-- `TemplateContext`: the variables a template can reference. -/
structure TemplateContext where
  «namespace» : NamespaceContext
  crd : CRDContext
  config : ConfigContext
  customVars : GoMap

/-- `BuildContext(ns, config)`: naming defaults, never-nil namespace maps, custom variables. -/
def buildContext (ns : Namespace) (config : NamespaceRBACConfig) : TemplateContext :=
  let defaults : NamingContext := { namePrefix := "", nameSuffix := "", separator := "-" }
  let naming : NamingContext :=
    match config.spec.config.bind (·.naming) with
    | none => defaults
    | some n =>
      { namePrefix := if n.namePrefix ≠ "" then n.namePrefix else defaults.namePrefix
        nameSuffix := if n.nameSuffix ≠ "" then n.nameSuffix else defaults.nameSuffix
        separator := if n.separator ≠ "" then n.separator else defaults.separator }
  { «namespace» :=
      { name := ns.metadata.name
        labels := some (ns.metadata.labels.getD ∅)
        annotations := some (ns.metadata.annotations.getD ∅) }
    crd := { name := config.metadata.name, «namespace» := config.metadata.namespace }
    config := { naming := naming }
    customVars := some ((config.spec.config.bind (·.templateVariables)).getD ∅) }

/-- A value a template function receives or returns. -/
inductive TemplateValue where
  | nil
  | string (s : String)
  | map (m : GoMap)
  | bool (b : Bool)

/-- The functions the engine registers with `text/template`. -/
structure FuncMap where
  default : TemplateValue → TemplateValue → TemplateValue
  hasKey : GoMap → String → Bool
  getOrDefault : GoMap → String → String → String

/-- `NewEngine()`'s function map: `default`, `hasKey` and `getOrDefault`. -/
def newEngine : FuncMap where
  default defaultVal val :=
    match val with
    | .nil | .string "" => defaultVal
    | _ => val
  hasKey m key := (m.get? key).isSome
  getOrDefault m key defaultVal := (m.get? key).getD defaultVal

/-- Go's `text/template`, taken as given: the parse error of a text, and its execution. -/
structure TextTemplate where
  parseError : String → Option String
  execute : FuncMap → String → TemplateContext → Except String String

/-- `Engine.ProcessTemplate`: parse, then execute against the context. -/
def processTemplate (tt : TextTemplate) (text : String) (ctx : TemplateContext) :
    Except GoError String :=
  match tt.parseError text with
  | some e => .error (.wrap "failed to parse template" (.msg e))
  | none =>
    match tt.execute newEngine text ctx with
    | .error e => .error (.wrap "failed to execute template" (.msg e))
    | .ok out => .ok out

/-- The loop of `Engine.ProcessMap`: each value processed, a failure wrapped with its key. -/
def processEntries (tt : TextTemplate) (ctx : TemplateContext) :
    List (Σ _ : String, String) → StrMap → Except GoError StrMap
  | [], result => .ok result
  | ⟨key, value⟩ :: rest, result =>
    match processTemplate tt value ctx with
    | .error e => .error (.wrap ("failed to process template for key " ++ key) e)
    | .ok processed => processEntries tt ctx rest (result.insert key processed)

/-- `Engine.ProcessMap`: a nil map yields nil. -/
def processMap (tt : TextTemplate) (templateMap : GoMap) (ctx : TemplateContext) :
    Except GoError GoMap :=
  match templateMap with
  | none => .ok none
  | some m => some <$> processEntries tt ctx m.entries ∅

/-! ### In any order of the map -/

section AnyOrder
variable (tt : TextTemplate) (ctx : TemplateContext)

private theorem processEntries_toBool (l : List (Σ _ : String, String)) (acc : StrMap) :
    (processEntries tt ctx l acc).toBool ↔ ∀ e ∈ l, (processTemplate tt e.2 ctx).toBool := by
  induction l generalizing acc with
  | nil => simp [processEntries, Except.toBool]
  | cons e rest ih =>
    obtain ⟨key, value⟩ := e
    simp only [processEntries, List.forall_mem_cons]
    cases processTemplate tt value ctx with
    | error => simp [Except.toBool]
    | ok processed => exact (ih _).trans ⟨fun h => ⟨rfl, h⟩, And.right⟩

private theorem processEntries_lookup {l : List (Σ _ : String, String)} (hl : l.NodupKeys)
    {acc result : StrMap} (h : processEntries tt ctx l acc = .ok result) (key : String) :
    result.lookup key = match l.dlookup key with
      | some value => (processTemplate tt value ctx).toOption
      | none => acc.lookup key := by
  induction l generalizing acc with
  | nil =>
    cases h
    rfl
  | cons e rest ih =>
    obtain ⟨k, v⟩ := e
    obtain ⟨hk, hrest⟩ := List.nodupKeys_cons.mp hl
    simp only [processEntries] at h
    cases hp : processTemplate tt v ctx with
    | error => rw [hp] at h; cases h
    | ok processed =>
      rw [hp] at h
      rw [ih hrest h]
      by_cases hkey : key = k
      · subst hkey
        rw [List.dlookup_eq_none.mpr hk, List.dlookup_cons_eq]
        simp [hp, Except.toOption]
      · rw [List.dlookup_cons_ne _ (⟨k, v⟩ : Σ _ : String, String) hkey, AList.lookup_insert_ne hkey]

private theorem processEntries_error {l : List (Σ _ : String, String)} {acc : StrMap} {e : GoError}
    (h : processEntries tt ctx l acc = .error e) :
    ∃ key value e', (⟨key, value⟩ : Σ _ : String, String) ∈ l ∧
      processTemplate tt value ctx = .error e' ∧
      e = .wrap ("failed to process template for key " ++ key) e' := by
  induction l generalizing acc with
  | nil => cases h
  | cons entry rest ih =>
    obtain ⟨k, v⟩ := entry
    simp only [processEntries] at h
    cases hp : processTemplate tt v ctx with
    | error e' =>
      rw [hp] at h
      cases h
      exact ⟨k, v, e', List.mem_cons_self _ _, hp, rfl⟩
    | ok processed =>
      rw [hp] at h
      obtain ⟨key, value, e', hm, he, rfl⟩ := ih h
      exact ⟨key, value, e', List.mem_cons_of_mem _ hm, he, rfl⟩

/-- In whatever order Go ranges over a map, `ProcessMap` succeeds exactly when every value does. -/
theorem processEntries_any_order {m : StrMap} {order : List (Σ _ : String, String)}
    (h : order.Perm m.entries) :
    ((processEntries tt ctx order ∅).toBool ↔
        ∀ key value, m.lookup key = some value → (processTemplate tt value ctx).toBool) ∧
      (∀ result, processEntries tt ctx order ∅ = .ok result → ∀ key,
        result.lookup key = (m.lookup key).bind fun value => (processTemplate tt value ctx).toOption) ∧
      (∀ e, processEntries tt ctx order ∅ = .error e →
        ∃ key value e', m.lookup key = some value ∧ processTemplate tt value ctx = .error e' ∧
          e = .wrap ("failed to process template for key " ++ key) e') := by
  have hmem : ∀ key value, (⟨key, value⟩ : Σ _ : String, String) ∈ order ↔
      m.lookup key = some value := fun key value => h.mem_iff.trans AList.mem_lookup_iff.symm
  have hnd : order.NodupKeys := (List.perm_nodupKeys h).mpr m.nodupKeys
  refine ⟨?_, fun result hr key => ?_, fun e he => ?_⟩
  · rw [processEntries_toBool]
    exact ⟨fun H key value hv => H _ ((hmem key value).mpr hv),
      fun H e he => H e.1 e.2 ((hmem e.1 e.2).mp he)⟩
  · rw [processEntries_lookup tt ctx hnd hr, List.perm_dlookup key hnd m.nodupKeys h]
    change _ = (m.entries.dlookup key).bind _
    cases m.entries.dlookup key <;> rfl
  · obtain ⟨key, value, e', hm, hp, rfl⟩ := processEntries_error tt ctx he
    exact ⟨key, value, e', (hmem key value).mp hm, hp, rfl⟩

/-- The labels `team` and `tier`, ranged over in the other order than they are kept in. -/
theorem processEntries_any_order_team :
    let tt : TextTemplate := ⟨fun _ => none, fun _ text _ => .ok text⟩
    let ctx := buildContext ⟨{ name := "team-a" }⟩ {}
    let m : StrMap := ((∅ : StrMap).insert "tier" "gold").insert "team" "a"
    let order : List (Σ _ : String, String) := [⟨"tier", "gold"⟩, ⟨"team", "a"⟩]
    order.Perm m.entries ∧
      ((processEntries tt ctx order ∅).toBool ↔
        ∀ key value, m.lookup key = some value → (processTemplate tt value ctx).toBool) ∧
      (∀ result, processEntries tt ctx order ∅ = .ok result → ∀ key,
        result.lookup key = (m.lookup key).bind fun value => (processTemplate tt value ctx).toOption) ∧
      (∀ e, processEntries tt ctx order ∅ = .error e →
        ∃ key value e', m.lookup key = some value ∧ processTemplate tt value ctx = .error e' ∧
          e = .wrap ("failed to process template for key " ++ key) e') := by
  intro tt ctx m order
  have h : order.Perm m.entries := by decide
  exact ⟨h, processEntries_any_order tt ctx h⟩

end AnyOrder

end AclOperator
