import AclOperator.Api.Types

/-! Payload merging of the permission manager (`pkg/rbac`): rules are concatenated, subjects are
collected in a map under a key built from their four fields. -/
namespace AclOperator

/-- `mergeRules(existing, new)`: a copy of the existing rules followed by the new ones. -/
def mergeRules (existing new : List PolicyRule) : List PolicyRule :=
  existing ++ new

/-- The key `mergeSubjects` files a subject under: its four fields joined by `/`. -/
def subjectKey (s : Subject) : String :=
  s.kind ++ "/" ++ s.apiGroup ++ "/" ++ s.name ++ "/" ++ s.«namespace»

/-- The map the subjects are collected in, keyed by `subjectKey`. -/
abbrev SubjectMap := AList (fun _ : String => Subject)

/-- One `subjectMap[key] = subject`: a later subject replaces an earlier one of the same key. -/
def addSubject (m : SubjectMap) (s : Subject) : SubjectMap :=
  m.insert (subjectKey s) s

/-- `mergeSubjects(existing, new)`: the map's values after inserting both lists. -/
def mergeSubjects (existing new : List Subject) : List Subject :=
  let subjectMap := existing.foldl addSubject ∅
  let subjectMap := new.foldl addSubject subjectMap
  subjectMap.entries.map (·.2)

/-- Two distinct subjects whose keys coincide: merging keeps only the later one. -/
theorem mergeSubjects_drops_colliding_subject :
    let teamOps : Subject :=
      { kind := "Group", apiGroup := "rbac.authorization.k8s.io", name := "dev/team",
        «namespace» := "ops" }
    let devTeamOps : Subject :=
      { kind := "Group", apiGroup := "rbac.authorization.k8s.io", name := "dev",
        «namespace» := "team/ops" }
    teamOps ≠ devTeamOps ∧ mergeSubjects [teamOps] [devTeamOps] = [devTeamOps] := by
  decide

end AclOperator
