import SchemaFilter.Filter.Validate

/-!
# The conditions of a filter

`Filter.conditionsAt` lists the conditions of a filter in tree order, each with its path. What is
done with conditions one by one, such as counting and checking them, is a matter of this list.
-/

namespace SchemaFilter

namespace Filter

mutual

/-- The conditions of a filter at a path, each with its own path. -/
def conditionsAt (path : String) : Filter → List (String × Condition)
  | condition c => [(path, c)]
  | group conjuncts disjuncts =>
    branchConditions (Fault.keyPath path "and") conjuncts ++
      branchConditions (Fault.keyPath path "or") disjuncts

def branchConditions (path : String) : Option (List Filter) → List (String × Condition)
  | none => []
  | some children => listConditions path 0 children

/-- The conditions of a list of filters, the first of which has the given index. -/
def listConditions (path : String) (index : Nat) : List Filter → List (String × Condition)
  | [] => []
  | child :: rest =>
    conditionsAt (Fault.indexPath path index) child ++ listConditions path (index + 1) rest

end

mutual

theorem length_conditionsAt (path : String) :
    (f : Filter) → (f.conditionsAt path).length = f.conditionCount
  | condition c => by simp [conditionsAt, conditionCount]
  | group conjuncts disjuncts => by
    simp [conditionsAt, conditionCount, length_branchConditions]

theorem length_branchConditions (path : String) :
    (branch : Option (List Filter)) → (branchConditions path branch).length = branchCount branch
  | none => rfl
  | some children => by
    simpa [branchConditions, branchCount] using length_listConditions path 0 children

theorem length_listConditions (path : String) (index : Nat) :
    (children : List Filter) → (listConditions path index children).length = listCount children
  | [] => rfl
  | child :: rest => by
    simp [listConditions, listCount, length_conditionsAt, length_listConditions]

end

/-- The conditions of a filter, each with its path from the root. -/
def conditions (f : Filter) : List (String × Condition) :=
  f.conditionsAt Fault.rootPath

end Filter

namespace Schema

def listedFaults (s : Schema) (conditions : List (String × Condition)) : List Fault :=
  conditions.flatMap fun (path, c) => s.conditionFaults c path

mutual

theorem nodeFaults_eq (s : Schema) (path : String) :
    (f : Filter) → s.nodeFaults path f = s.listedFaults (f.conditionsAt path)
  | .condition c => by simp [nodeFaults, Filter.conditionsAt, listedFaults]
  | .group conjuncts disjuncts => by
    simp [nodeFaults, Filter.conditionsAt, branchFaults_eq, listedFaults]

theorem branchFaults_eq (s : Schema) (path : String) :
    (branch : Option (List Filter)) →
      s.branchFaults path branch = s.listedFaults (Filter.branchConditions path branch)
  | none => rfl
  | some children => by
    simpa [branchFaults, Filter.branchConditions] using listFaults_eq s path 0 children

theorem listFaults_eq (s : Schema) (path : String) (index : Nat) :
    (children : List Filter) →
      s.listFaults path index children =
        s.listedFaults (Filter.listConditions path index children)
  | [] => rfl
  | child :: rest => by
    simp [listFaults, Filter.listConditions, nodeFaults_eq, listFaults_eq, listedFaults]

end

/-- The faults of a filter are those of its conditions in tree order. -/
theorem faults_some (s : Schema) (f : Filter) : s.faults (some f) = s.listedFaults f.conditions :=
  nodeFaults_eq s Fault.rootPath f

end Schema

end SchemaFilter
