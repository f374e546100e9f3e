import AclOperator.Api.Types
import Mathlib.Data.List.Dedup

/-! Namespace selection (`pkg/utils`): `NamespaceMatches` and the slice and map helpers beside
it, with Go's `regexp` taken as given. -/
namespace AclOperator

/-- Go's `regexp` package, taken as given: compile errors and matching. -/
structure Regexp where
  compileError : String → Option String
  matchString : String → String → Bool

/-- `regexp.MatchString(pattern, s)`: compile the pattern, then match. -/
def Regexp.matchPattern (re : Regexp) (pattern s : String) : Except GoError Bool :=
  match re.compileError pattern with
  | some e => .error (.msg e)
  | none => .ok (re.matchString pattern s)

def sliceContains (slice : List String) (item : String) : Bool :=
  slice.any (· == item)

@[simp] theorem sliceContains_iff (slice : List String) (item : String) :
    sliceContains slice item ↔ item ∈ slice := by
  simp [sliceContains]

/-- `MapContainsAll(target, required)`: "used for namespace annotation/label matching". -/
def mapContainsAll (target required : GoMap) : Bool :=
  match required, target with
  | none, _ => true
  | some required, none => required.entries.length == 0
  | some required, some target => required.entries.all fun e => target.lookup e.1 == some e.2

/-- The check `NamespaceMatches` writes for annotations and labels: nil maps fail it. -/
def requiredEntriesPresent (required target : GoMap) : Bool :=
  match required, target with
  | none, _ => true
  | some _, none => false
  | some required, some target => required.entries.all fun e => target.lookup e.1 == some e.2

/-- The pattern check of `NamespaceMatches`: a nil or empty pattern accepts every name. -/
def nameRegexMatches (re : Regexp) (nameRegex : Option String) (name : String) :
    Except GoError Bool :=
  match nameRegex with
  | some pattern => if pattern ≠ "" then re.matchPattern pattern name else .ok true
  | none => .ok true

/-- `NamespaceMatches(ns, selector)`; only the name pattern can fail. -/
def namespaceMatches (re : Regexp) (ns : Namespace) (selector : NamespaceSelector) :
    Except GoError Bool :=
  let name := ns.metadata.name
  if selector.excludeNamespaces.any (· == name) then .ok false
  else if 0 < selector.includeNamespaces.length && !selector.includeNamespaces.any (· == name) then
    .ok false
  else
    (nameRegexMatches re selector.nameRegex name).map fun matched =>
      matched && requiredEntriesPresent selector.annotations ns.metadata.annotations &&
        requiredEntriesPresent selector.labels ns.metadata.labels

section Matching
variable (re : Regexp) (ns : Namespace) (selector : NamespaceSelector)

private theorem except_map_eq_error {α β : Type} (x : Except GoError α) (f : α → β)
    (e : GoError) : x.map f = .error e ↔ x = .error e := by
  cases x <;> simp [Except.map]

theorem nameRegexMatches_eq_error_iff (nameRegex : Option String) (name : String)
    (e : GoError) :
    nameRegexMatches re nameRegex name = .error e ↔
      ∃ pattern msg, nameRegex = some pattern ∧ pattern ≠ "" ∧
        re.compileError pattern = some msg ∧ e = .msg msg := by
  unfold nameRegexMatches Regexp.matchPattern
  rcases nameRegex with _ | pattern
  · simp
  · by_cases hp : pattern = "" <;> rcases hc : re.compileError pattern with _ | msg <;>
      simp [hp, hc, eq_comm]

theorem namespaceMatches_eq_error_iff (e : GoError) :
    namespaceMatches re ns selector = .error e ↔
      ns.metadata.name ∉ selector.excludeNamespaces ∧
      (selector.includeNamespaces = [] ∨ ns.metadata.name ∈ selector.includeNamespaces) ∧
      nameRegexMatches re selector.nameRegex ns.metadata.name = .error e := by
  unfold namespaceMatches
  dsimp only
  split_ifs with hx hi <;> simp_all [except_map_eq_error, List.length_pos]
  · exact fun h => absurd rfl (hi.2 _ h)
  · exact fun _ => or_iff_not_imp_left.mpr hi

end Matching

/-- An empty annotation requirement rejects a namespace without annotations. -/
theorem namespaceMatches_nil_annotations_empty_requirement (re : Regexp) :
    namespaceMatches re ⟨{ name := "team-a" }⟩ { annotations := some ∅ } = .ok false ∧
      mapContainsAll none (some ∅) = true :=
  ⟨rfl, rfl⟩

/-! ### Merging maps and removing duplicates -/

/-- `MergeMaps(map1, map2)` with Go ranging over the maps in the orders given. -/
def mergeMaps (order1 order2 : List (Σ _ : String, String)) : StrMap :=
  (order1 ++ order2).foldl (fun result e => result.insert e.1 e.2) ∅

/-- The entries Go ranges over in a map, in some order: none for a nil map. -/
def GoMap.entries (m : GoMap) : List (Σ _ : String, String) := (m.getD ∅).entries

private theorem lookup_foldl_insert (l : List (Σ _ : String, String)) (m : StrMap) (key : String) :
    (l.foldl (fun result e => result.insert e.1 e.2) m).lookup key =
      (l.reverse.dlookup key).or (m.lookup key) := by
  induction l generalizing m with
  | nil => simp
  | cons e l ih =>
    obtain ⟨k, v⟩ := e
    rw [List.foldl_cons, ih, List.reverse_cons, List.dlookup_append]
    by_cases h : key = k
    · subst h
      cases l.reverse.dlookup key <;> simp
    · rw [List.dlookup_cons_ne [] (⟨k, v⟩ : Σ _ : String, String) h, List.dlookup_nil]
      cases l.reverse.dlookup key <;> simp [AList.lookup_insert_ne h]

private theorem dlookup_reverse_of_perm {m : GoMap} {order : List (Σ _ : String, String)}
    (h : order.Perm m.entries) (key : String) : order.reverse.dlookup key = m.get? key := by
  have hnd : m.entries.NodupKeys := (m.getD ∅).nodupKeys
  have hperm : order.reverse.Perm m.entries := (List.reverse_perm order).trans h
  rw [List.perm_dlookup key ((List.perm_nodupKeys hperm).mpr hnd) hnd hperm]
  cases m <;> rfl

/-- In whatever order Go ranges, `MergeMaps` holds every key, the second map winning. -/
theorem mergeMaps_lookup {map1 map2 : GoMap} {order1 order2 : List (Σ _ : String, String)}
    (h1 : order1.Perm map1.entries) (h2 : order2.Perm map2.entries) (key : String) :
    (mergeMaps order1 order2).lookup key = (map2.get? key).or (map1.get? key) := by
  unfold mergeMaps
  rw [lookup_foldl_insert, List.reverse_append, List.dlookup_append, dlookup_reverse_of_perm h1,
    dlookup_reverse_of_perm h2]
  simp

/-- Ranging over the second map in the other order than its entries are kept in. -/
theorem mergeMaps_lookup_team :
    [⟨"team", "a"⟩].Perm (GoMap.entries (some ((∅ : StrMap).insert "team" "a"))) ∧
      [⟨"team", "b"⟩, ⟨"tier", "x"⟩].Perm
        (GoMap.entries (some (((∅ : StrMap).insert "team" "b").insert "tier" "x"))) ∧
      (mergeMaps [⟨"team", "a"⟩] [⟨"team", "b"⟩, ⟨"tier", "x"⟩]).lookup "team" =
        (GoMap.get? (some (((∅ : StrMap).insert "team" "b").insert "tier" "x")) "team").or
          (GoMap.get? (some ((∅ : StrMap).insert "team" "a")) "team") :=
  have h1 : [⟨"team", "a"⟩].Perm (GoMap.entries (some ((∅ : StrMap).insert "team" "a"))) := by
    decide
  have h2 : [⟨"team", "b"⟩, ⟨"tier", "x"⟩].Perm
      (GoMap.entries (some (((∅ : StrMap).insert "team" "b").insert "tier" "x"))) := by
    decide
  ⟨h1, h2, mergeMaps_lookup h1 h2 "team"⟩

/-- `UniqueSlice`; the `seen` map is the list of the strings it has set. -/
def uniqueSlice (slice : List String) : List String :=
  (slice.foldl (fun (state : List String × List String) item =>
    if state.1.contains item then state else (item :: state.1, state.2 ++ [item])) ([], [])).2

private theorem uniqueSlice_loop (l p seen : List String) (hseen : ∀ x, x ∈ seen ↔ x ∈ p) :
    (l.foldl (fun (state : List String × List String) item =>
      if state.1.contains item then state else (item :: state.1, state.2 ++ [item]))
      (seen, p.reverse.dedup.reverse)).2 = (p ++ l).reverse.dedup.reverse := by
  induction l generalizing p seen with
  | nil => simp
  | cons x l ih =>
    rw [List.foldl_cons, show p ++ x :: l = (p ++ [x]) ++ l by simp]
    by_cases hx : x ∈ p
    · have hc : seen.contains x = true := by simpa [hseen] using hx
      simp only [hc, if_true]
      rw [← ih (p ++ [x]) seen fun y => by
        rw [hseen, List.mem_append, List.mem_singleton]
        exact ⟨.inl, fun h => h.elim id (· ▸ hx)⟩]
      simp [List.dedup_cons_of_mem (List.mem_reverse.mpr hx)]
    · have hc : seen.contains x = false := by simpa [hseen] using hx
      simp only [hc, Bool.false_eq_true, if_false]
      rw [← ih (p ++ [x]) (x :: seen) (fun y => by simp [hseen, or_comm])]
      simp [List.dedup_cons_of_not_mem (mt List.mem_reverse.mp hx)]

private theorem uniqueSlice_eq_dedup (slice : List String) :
    uniqueSlice slice = slice.reverse.dedup.reverse := by
  unfold uniqueSlice
  simpa using uniqueSlice_loop slice [] [] fun _ => Iff.rfl

/-- `UniqueSlice` keeps each string of the slice once, at its first occurrence. -/
theorem uniqueSlice_spec (slice : List String) :
    (uniqueSlice slice).Nodup ∧ (∀ x, x ∈ uniqueSlice slice ↔ x ∈ slice) ∧
      ∀ x, uniqueSlice (slice ++ [x]) =
        if x ∈ slice then uniqueSlice slice else uniqueSlice slice ++ [x] := by
  simp only [uniqueSlice_eq_dedup]
  refine ⟨List.nodup_reverse.mpr (List.nodup_dedup _), fun x => by simp, fun x => ?_⟩
  split_ifs with hx
  · simp [List.dedup_cons_of_mem (List.mem_reverse.mpr hx)]
  · simp [List.dedup_cons_of_not_mem (mt List.mem_reverse.mp hx)]

end AclOperator
