import SchemaFilter.Pattern.Build
import SchemaFilter.Pattern.Matcher
import SchemaFilter.Query.Document
import SchemaFilter.Schema.Basic
import SchemaFilter.Value.Order

/-!
# Evaluating query documents

`Document.matches?` decides whether a record matches a document. Keys are taken in order and lists
from the front; as soon as the answer is known the rest is not looked at, and so cannot fail.

An `Evaluator` builds the patterns of a document once, for any number of records. Evaluation is the
same with a table of patterns and without, so both are one function of the way in which patterns are
found.
-/

namespace SchemaFilter

/-- The settings that option letters ask for. -/
def Pattern.Settings.ofOptions : (options : List Char) → Settings → Except QueryError Settings
  | [], s => .ok s
  | c :: rest, s =>
    match c with
    | 'i' => ofOptions rest { s with ignoreCase := true }
    | 'm' => ofOptions rest { s with multiLine := true }
    | 's' => ofOptions rest { s with dotAll := true }
    | 'x' => ofOptions rest { s with extended := true }
    | c => .error (.malformed (.unsupportedOption c))

/-- The pattern that a text writes under options. -/
def Pattern.ofText (pattern options : String) : Except QueryError Pattern := do
  let settings ← Settings.ofOptions options.toList {}
  match Pattern.compile? settings pattern with
  | some p => .ok p
  | none => .error (.invalidPattern pattern)

/-- A way to find the pattern of a text under options. -/
abbrev PatternSource := (pattern options : String) → Except QueryError Pattern

namespace Document

/-- The options of a pattern; without any there are none. -/
def optionsText : Option Value → Except QueryError String
  | none => .ok ""
  | some (.string s) => .ok s
  | some _ => .error (.malformed .optionsNotText)

/-- Whether a value matches a pattern. Only a text does. -/
def patternHolds (find : PatternSource) (actual pattern : Value) (options : Option Value) :
    Except QueryError Bool := do
  match pattern with
  | .string text =>
    let p ← find text (← optionsText options)
    match actual with
    | .string s => return p.matches? s
    | _ => return false
  | _ => .error (.malformed .patternNotText)

/-- Whether two values are ordered in an accepted way. -/
def ordered (actual operand : Value) (accept : Ordering → Bool) : Bool :=
  (actual.order? operand).any accept

/-- Whether a value fulfils one operator. -/
def operatorHolds (find : PatternSource) (actual : Value) (options : Option Value)
    (key : String) (operand : Value) : Except QueryError Bool :=
  match key with
  | "$ne" => .ok (!actual.equal operand)
  | "$gt" => .ok (ordered actual operand (· == .gt))
  | "$gte" => .ok (ordered actual operand (· != .lt))
  | "$lt" => .ok (ordered actual operand (· == .lt))
  | "$lte" => .ok (ordered actual operand (· != .gt))
  | "$in" =>
    match operand with
    | .array items => .ok (items.any actual.equal)
    | _ => .error (.malformed (.noArray "$in"))
  | "$regex" => patternHolds find actual operand options
  | "$options" => .ok true
  | other => .error (.unsupportedOperator other)

def operatorsHold (find : PatternSource) (actual : Value) (options : Option Value) :
    Members → Except QueryError Bool
  | [] => .ok true
  | (key, operand) :: rest => do
    if ← operatorHolds find actual options key operand then
      operatorsHold find actual options rest
    else return false

/-- Whether an object holds operators, and not just a value to compare with. -/
def holdsOperators (members : Members) : Bool :=
  members.any fun (key, _) => isReserved key

/-- Whether a field value fulfils what is demanded of it. -/
def demandHolds (find : PatternSource) (actual demand : Value) : Except QueryError Bool :=
  match demand with
  | .object operators =>
    if holdsOperators operators then
      if Members.has operators "$options" && !Members.has operators "$regex" then
        .error (.malformed .optionsWithoutPattern)
      else operatorsHold find actual (Members.get? operators "$options") operators
    else .ok (actual.equal demand)
  | _ => .ok (actual.equal demand)

mutual

/-- Whether a record matches all members of a document. -/
def membersHold (find : PatternSource) (record : Value) :
    List (String × Value) → Except QueryError Bool
  | [] => .ok true
  | (key, demand) :: rest => do
    let hit ←
      if key = "$and" then listHolds find record "$and" true demand
      else if key = "$or" then listHolds find record "$or" false demand
      else if isReserved key then .error (.unsupportedOperator key)
      else demandHolds find (record.field key) demand
    if hit then membersHold find record rest else return false

/-- Whether a record matches all documents of a list, or some. -/
def listHolds (find : PatternSource) (record : Value) (key : String) (conjunction : Bool) :
    Value → Except QueryError Bool
  | .array documents => documentsHold find record conjunction documents
  | _ => .error (.malformed (.noArray key))

/-- Goes through documents up to the first whose answer decides: no for a conjunction, yes for a
disjunction. -/
def documentsHold (find : PatternSource) (record : Value) (conjunction : Bool) :
    List Value → Except QueryError Bool
  | [] => .ok conjunction
  | d :: rest => do
    if (← documentHolds find record d) = conjunction then
      documentsHold find record conjunction rest
    else return !conjunction

def documentHolds (find : PatternSource) (record : Value) : Value → Except QueryError Bool
  | .object members => membersHold find record members
  | v => .error (.malformed (.noDocument v))

end

/-- Whether a record matches a document; every pattern is built where it is met. -/
def matches? (d : Document) (record : Value) : Except QueryError Bool :=
  membersHold Pattern.ofText record d.members

end Document

/-- Patterns that have been built, by their texts and options. -/
abbrev PatternTable := List ((String × String) × Except QueryError Pattern)

namespace PatternTable

def addOperators (table : PatternTable) (operators : Members) : PatternTable :=
  match operators.get? "$regex", Document.optionsText (operators.get? "$options") with
  | some (.string pattern), .ok options =>
    if (List.lookup (pattern, options) table).isSome then table
    else ((pattern, options), Pattern.ofText pattern options) :: table
  | _, _ => table

mutual

def addMembers (table : PatternTable) : List (String × Value) → PatternTable
  | [] => table
  | (key, demand) :: rest =>
    addMembers (addDemand table (key == "$and" || key == "$or") demand) rest

/-- Adds the patterns of what stands under a key; `nested` says whether documents may. -/
def addDemand (table : PatternTable) (nested : Bool) : Value → PatternTable
  | .array documents => if nested then addDocuments table documents else table
  | .object operators => addOperators table operators
  | _ => table

def addDocuments (table : PatternTable) : List Value → PatternTable
  | [] => table
  | d :: rest => addDocuments (addDocument table d) rest

def addDocument (table : PatternTable) : Value → PatternTable
  | .object members => addMembers table members
  | _ => table

end

def ofDocument (d : Document) : PatternTable :=
  addMembers [] d.members

/-- Finds a pattern in the table, or builds it. -/
def source (table : PatternTable) : PatternSource := fun pattern options =>
  match List.lookup (pattern, options) table with
  | some found => found
  | none => Pattern.ofText pattern options

end PatternTable

/-- A document with its patterns. -/
structure Evaluator where
  document : Document
  patterns : PatternTable

namespace Evaluator

def of (d : Document) : Evaluator :=
  ⟨d, .ofDocument d⟩

def matches? (e : Evaluator) (record : Value) : Except QueryError Bool :=
  Document.membersHold e.patterns.source record e.document.members

end Evaluator

/-- The entries that pass a test, or the first failure of the test. -/
def filterChecked (test : α → Except ε Bool) : List α → Except ε (List α)
  | [] => .ok []
  | a :: rest => do
    let hit ← test a
    let others ← filterChecked test rest
    return if hit then a :: others else others

/-- The records that match a document, each with its index. -/
def Evaluator.select (e : Evaluator) (records : List Value) :
    Except QueryError (List (Value × Nat)) :=
  filterChecked (fun (record, _) => e.matches? record) records.zipIdx

end SchemaFilter
