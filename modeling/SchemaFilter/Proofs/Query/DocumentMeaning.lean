import SchemaFilter.Filter.Meaning
import SchemaFilter.Proofs.Filter.Accepted
import SchemaFilter.Proofs.Pattern.Literal
import SchemaFilter.Proofs.Query.PatternTable

/-!
# The meaning of compiled documents

A filter that a schema accepts compiles to a document, and the document holds of the same records as
the filter itself. Of the schema it matters only that every operand fits its operator with scalars
for elements, so that none is read as an object of operators, and that no field is named like an
operator of documents.

Patterns are subject to a limit on their size. A condition on texts is assumed to stay within it;
that its pattern then compiles and matches as the condition means is part of what is proved. Up to the
final theorem the limit is no assumption: a document answers whether its filter holds, or it fails with
a pattern that is too large.
-/

namespace SchemaFilter

open Document

/-- Where an operator on texts looks for its operand. -/
def Operator.site? : Operator → Option Pattern.Site
  | contains => some .anywhere
  | startsWith => some .atStart
  | endsWith => some .atEnd
  | _ => none

/-- The key under which a document holds the operand of a comparison, equality aside. -/
def Operator.comparisonKey? : Operator → Option String
  | neq => some "$ne"
  | gt => some "$gt"
  | lt => some "$lt"
  | gte => some "$gte"
  | lte => some "$lte"
  | _ => none

/-- Whether the pattern of a condition, if it has one, stays within the limit on patterns. -/
def Condition.PatternFits (c : Condition) : Prop :=
  ∀ site text, c.operator.site? = some site → c.text = .ok text →
    site.memory text.toList.length ≤ Pattern.sizeLimit

/-- Every pattern within the limit compiles, and no other one does. -/
theorem Condition.patternFits_iff {c : Condition} :
    c.PatternFits ↔ ∀ site text, c.operator.site? = some site → c.text = .ok text →
      ∃ p, Pattern.ofText (String.ofList (site.text text.toList)) "i" = .ok p := by
  constructor
  · intro small site text hsite htext
    obtain ⟨p, built, -⟩ := Pattern.ofText_site site text.toList (small site text hsite htext)
    exact ⟨p, built⟩
  · intro compiles site text hsite htext
    apply Nat.le_of_not_lt
    intro large
    obtain ⟨p, built⟩ := compiles site text hsite htext
    rw [Pattern.ofText_site_of_large site text.toList large] at built
    cases built

def Condition.PatternError (c : Condition) (e : QueryError) : Prop :=
  ∃ site text, c.operator.site? = some site ∧ c.text = .ok text ∧
    Pattern.sizeLimit < site.memory text.toList.length ∧
      e = .invalidPattern (String.ofList (site.text text.toList))

theorem Condition.PatternFits.not_patternError {c : Condition} (small : c.PatternFits)
    (e : QueryError) : ¬c.PatternError e := by
  rintro ⟨site, text, hsite, htext, large, -⟩
  exact Nat.not_le.2 large (small site text hsite htext)

/-- Whether a document would take the operand of a condition for an object of operators. Only an
operand that has to be equalled stands in a document by itself. -/
def Condition.HidesOperators (c : Condition) : Prop :=
  c.operator = .eq ∧ ∃ members, c.operand = some (.object members) ∧
    Document.holdsOperators members = true

def Value.IsScalar (v : Value) : Prop :=
  ∃ text, v.scalarText? = some text

/-- The operand of a condition that a schema allows has the shape of the operator, with scalars for
elements. -/
theorem Schema.Allows.fits {s : Schema} {c : Condition} (h : s.Allows c) :
    c.operator.Fits Value.IsScalar c.operand := by
  obtain ⟨field, -, -, -, fits⟩ := h
  exact fits.mono fun v hv => hv.scalarText?_isSome

theorem Value.equal_null (v : Value) : v.equal .null = v.isNull := by
  cases v <;> rfl

theorem Operator.isReserved_of_comparisonKey? {op : Operator} {key : String}
    (h : op.comparisonKey? = some key) : isReserved key = true ∧ key ≠ "$options" := by
  cases op <;> cases h <;> exact ⟨rfl, by decide⟩

/-! ## Demands -/

namespace Document

variable {find : PatternSource} {actual : Value}

/-- An object of operators is gone through operator by operator. -/
theorem demandHolds_operators {operators : Members} (reserved : holdsOperators operators = true)
    (options : operators.has "$options" = true → operators.has "$regex" = true) :
    demandHolds find actual (.object operators) =
      operatorsHold find actual (operators.get? "$options") operators := by
  rw [demandHolds, if_pos reserved, if_neg]
  cases h : operators.has "$options" with
  | false => simp
  | true => simp [options h]

/-- A single operator other than the options decides alone. -/
theorem demandHolds_single {key : String} {operand : Value} {answer : Bool}
    (reserved : isReserved key = true) (other : key ≠ "$options")
    (h : operatorHolds find actual none key operand = .ok answer) :
    demandHolds find actual (Condition.single key operand) = .ok answer := by
  have absent : Members.get? [(key, operand)] "$options" = none := by
    simp [Ne.symm other]
  rw [Condition.single, demandHolds_operators (by simp [holdsOperators, reserved])
    (by simp [Members.has, absent]), absent, operatorsHold, h]
  cases answer <;> rfl

theorem operatorHolds_of_comparisonKey {op : Operator} {key : String} {v : Value}
    (h : op.comparisonKey? = some key) :
    operatorHolds find actual none key v = .ok (op.holds actual v) := by
  cases op <;> cases h
  case gt => cases ho : actual.order? v <;> simp [operatorHolds, Operator.holds, ordered, ho]
  case lt => cases ho : actual.order? v <;> simp [operatorHolds, Operator.holds, ordered, ho]
  all_goals rfl

theorem demandHolds_bounds (low high : Value) :
    demandHolds find actual (.object [("$gte", low), ("$lte", high)]) =
      .ok (actual.atLeast low && actual.atMost high) := by
  rw [demandHolds_operators rfl (by simp [Members.has])]
  simp only [operatorsHold, operatorHolds, Outcome.ok_bind, Outcome.pure_eq_ok]
  rw [show ordered actual low (· != .lt) = actual.atLeast low from rfl,
    show ordered actual high (· != .gt) = actual.atMost high from rfl]
  cases actual.atLeast low <;> cases actual.atMost high <;> rfl

/-- A value that is no object of operators has to be equalled. -/
theorem demandHolds_value {v : Value}
    (plain : ∀ members, v = .object members → holdsOperators members = false) :
    demandHolds find actual v = .ok (actual.equal v) := by
  cases v with
  | object members => rw [demandHolds, plain members rfl, if_neg Bool.false_ne_true]
  | null | bool | number | string | array => simp [demandHolds]

/-- A pattern that ignores case is tried on texts only, once it has been found. -/
theorem demandHolds_ignoringCase (pattern : List Char) :
    demandHolds find actual (Condition.ignoringCase pattern) =
      (find (String.ofList pattern) "i").map fun p => actual.string?.any p.matches? := by
  have tried : patternHolds find actual (.string (String.ofList pattern)) (some (.string "i")) =
      (find (String.ofList pattern) "i").map fun p => actual.string?.any p.matches? := by
    rw [patternHolds, optionsText, Outcome.ok_bind]
    cases find (String.ofList pattern) "i" with
    | error e => rfl
    | ok p => cases actual <;> rfl
  rw [Condition.ignoringCase, demandHolds_operators rfl (by simp [Members.has])]
  simp only [operatorsHold, operatorHolds, Members.get?_cons, if_true, Outcome.ok_bind, tried]
  cases find (String.ofList pattern) "i" with
  | error e => rfl
  | ok p =>
    simp only [Except.map, Outcome.ok_bind]
    cases actual.string?.any p.matches? <;> rfl

end Document

namespace Condition

/-- Whether a condition compiles to a demand that a field value fulfils as the condition means. -/
def Faithful (find : PatternSource) (c : Condition) : Prop :=
  ∃ demand, c.demand = .ok demand ∧
    ∀ record : Value, demandHolds find (record.field c.field) demand = .ok (c.holds record)

theorem holds_of_operand {c : Condition} {v : Value} (hv : c.operand = some v) (record : Value) :
    c.holds record = c.operator.holds (record.field c.field) v := by
  rw [holds, hv]

theorem value_eq_ok_iff {c : Condition} {v : Value} : c.value = .ok v ↔ c.operand = some v := by
  rw [value]
  cases c.operand <;> simp

theorem values_eq_ok_iff {c : Condition} {items : List Value} :
    c.values = .ok items ↔ c.operand = some (.array items) := by
  rw [values]
  split
  · next h => simp [h]
  · next other => exact iff_of_false (by simp) (other items)

theorem bounds_eq_ok_iff {c : Condition} {low high : Value} :
    c.bounds = .ok (low, high) ↔ c.operand = some (.array [low, high]) := by
  rw [bounds, Outcome.bind_eq_ok_iff, ← values_eq_ok_iff]
  constructor
  · rintro ⟨items, hitems, pair⟩
    split at pair
    · cases pair
      exact hitems
    · cases pair
  · intro h
    exact ⟨[low, high], h, rfl⟩

theorem text_eq_ok_iff {c : Condition} {text : String} :
    c.text = .ok text ↔ ∃ v, c.operand = some v ∧ v.scalarText? = some text := by
  rw [Condition.text, Outcome.bind_eq_ok_iff]
  simp only [value_eq_ok_iff]
  refine exists_congr fun v => and_congr_right fun _ => ?_
  cases v.scalarText? <;> simp

/-- An operator on texts compiles to the pattern of its site. -/
theorem demand_of_site {c : Condition} {site : Pattern.Site} {text : String}
    (hsite : c.operator.site? = some site) (htext : c.text = .ok text) :
    c.demand = .ok (ignoringCase (site.text text.toList)) := by
  obtain ⟨field, op, operand⟩ := c
  cases op <;> cases hsite <;> simp [demand, htext, Pattern.Site.text]

/-- A condition on texts fails only if its pattern is too large. -/
theorem yields_of_site {c : Condition} {site : Pattern.Site} {text : String}
    (hsite : c.operator.site? = some site) (htext : c.text = .ok text) (record : Value) :
    Outcome.Yields c.PatternError (c.holds record)
      (demandHolds Pattern.ofText (record.field c.field)
        (ignoringCase (site.text text.toList))) := by
  rw [demandHolds_ignoringCase]
  rcases Nat.lt_or_ge Pattern.sizeLimit (site.memory text.toList.length) with large | small
  · right
    refine ⟨_, ⟨site, text, hsite, htext, large, rfl⟩, ?_⟩
    rw [Pattern.ofText_site_of_large site text.toList large]
    rfl
  · left
    obtain ⟨v, hv, scalar⟩ := text_eq_ok_iff.1 htext
    obtain ⟨p, compiled, hp⟩ := Pattern.ofText_site site text.toList small
    have meaning : c.holds record = Value.textTest site.holds (record.field c.field) v := by
      obtain ⟨field, op, operand⟩ := c
      cases hv
      cases op <;> cases hsite <;> rfl
    rw [meaning, Value.textTest, scalar, compiled]
    cases (record.field c.field).string? with
    | none => rfl
    | some s => simp [Except.map, hp]

theorem demand_of_comparisonKey {c : Condition} {key : String} {v : Value}
    (hkey : c.operator.comparisonKey? = some key) (hv : c.operand = some v) :
    c.demand = .ok (single key v) := by
  obtain ⟨field, op, operand⟩ := c
  cases hv
  cases op <;> cases hkey <;> rfl

/-- A comparison decides as it means. -/
theorem demandHolds_of_comparisonKey {c : Condition} {key : String} {v : Value}
    (hkey : c.operator.comparisonKey? = some key) (hv : c.operand = some v)
    (find : PatternSource) (record : Value) :
    demandHolds find (record.field c.field) (single key v) = .ok (c.holds record) := by
  obtain ⟨reserved, other⟩ := Operator.isReserved_of_comparisonKey? hkey
  rw [demandHolds_single reserved other (operatorHolds_of_comparisonKey hkey), holds_of_operand hv]

/-- What a condition compiles to is fulfilled as the condition means, unless its operand is taken for
operators or its pattern is too large. -/
theorem yields_of_demand {c : Condition} {demand : Value} (compiled : c.demand = .ok demand)
    (plain : ¬c.HidesOperators) (record : Value) :
    Outcome.Yields c.PatternError (c.holds record)
      (demandHolds Pattern.ofText (record.field c.field) demand) := by
  cases hop : c.operator with
  | eq =>
    left
    rw [Condition.demand, hop] at compiled
    -- the operand stands in the document by itself, so it must not look like operators
    have hv : c.operand = some demand := value_eq_ok_iff.1 compiled
    rw [holds_of_operand hv, hop]
    apply demandHolds_value
    rintro members rfl
    exact Bool.eq_false_iff.2 fun reserved => plain ⟨hop, members, hv, reserved⟩
  | neq | gt | lt | gte | lte =>
    left
    have present : ∃ v, c.operand = some v := by
      simp only [Condition.demand, hop, Outcome.bind_eq_ok_iff, value_eq_ok_iff] at compiled
      obtain ⟨v, hv, -⟩ := compiled
      exact ⟨v, hv⟩
    obtain ⟨v, hv⟩ := present
    have same := compiled.symm.trans (demand_of_comparisonKey (by rw [hop]; rfl) hv)
    cases same
    exact demandHolds_of_comparisonKey (by rw [hop]; rfl) hv _ record
  | isIn =>
    left
    simp only [Condition.demand, hop, Outcome.bind_eq_ok_iff, Outcome.pure_eq_ok,
      Except.ok.injEq, values_eq_ok_iff] at compiled
    obtain ⟨items, hitems, rfl⟩ := compiled
    rw [demandHolds_single rfl (by decide) rfl, holds_of_operand hitems, hop]
    rfl
  | between =>
    left
    simp only [Condition.demand, hop, Outcome.bind_eq_ok_iff, Outcome.pure_eq_ok,
      Except.ok.injEq] at compiled
    obtain ⟨⟨low, high⟩, hbounds, rfl⟩ := compiled
    rw [demandHolds_bounds, holds_of_operand (bounds_eq_ok_iff.1 hbounds), hop]
    rfl
  | contains | startsWith | endsWith =>
    have present : ∃ text, c.text = .ok text := by
      simp only [Condition.demand, hop, Outcome.bind_eq_ok_iff] at compiled
      obtain ⟨text, htext, -⟩ := compiled
      exact ⟨text, htext⟩
    obtain ⟨text, htext⟩ := present
    have same := compiled.symm.trans (demand_of_site (by rw [hop]; rfl) htext)
    cases same
    exact yields_of_site (by rw [hop]; rfl) htext record
  | isNull =>
    left
    simp only [Condition.demand, hop, Outcome.pure_eq_ok, Except.ok.injEq] at compiled
    subst compiled
    rw [demandHolds_value (by simp), Value.equal_null, holds, hop]
    cases c.operand <;> rfl
  | isNotNull =>
    left
    simp only [Condition.demand, hop, Outcome.pure_eq_ok, Except.ok.injEq] at compiled
    subst compiled
    rw [demandHolds_single rfl (by decide) rfl, Value.equal_null, holds, hop]
    cases c.operand <;> rfl

/-- A condition whose operand fits its operator compiles. -/
theorem exists_demand_of_fits {c : Condition}
    (fits : c.operator.Fits Value.IsScalar c.operand) : ∃ demand, c.demand = .ok demand := by
  cases hop : c.operator with
  | eq | neq | gt | lt | gte | lte =>
    rw [hop] at fits
    obtain ⟨v, hv, -⟩ := fits
    exact ⟨_, by simp [demand, hop, value_eq_ok_iff.2 hv]; rfl⟩
  | isIn =>
    rw [hop] at fits
    obtain ⟨items, hitems, -⟩ := fits
    exact ⟨_, by simp [demand, hop, values_eq_ok_iff.2 hitems]; rfl⟩
  | between =>
    rw [hop] at fits
    obtain ⟨low, high, hbounds, -, -⟩ := fits
    exact ⟨_, by simp [demand, hop, bounds_eq_ok_iff.2 hbounds]; rfl⟩
  | contains | startsWith | endsWith =>
    rw [hop] at fits
    obtain ⟨v, hv, text, scalar⟩ := fits
    exact ⟨_, demand_of_site (by rw [hop]; rfl) (text_eq_ok_iff.2 ⟨v, hv, scalar⟩)⟩
  | isNull | isNotNull => exact ⟨_, by simp [demand, hop]; rfl⟩

theorem not_hidesOperators_of_fits {c : Condition}
    (fits : c.operator.Fits Value.IsScalar c.operand) : ¬c.HidesOperators := by
  rintro ⟨hop, members, hoperand, -⟩
  rw [hop] at fits
  obtain ⟨v, hv, text, scalar⟩ := fits
  cases hoperand.symm.trans hv
  cases scalar

/-- A condition whose operand fits its operator is faithful. -/
theorem faithful_of_fits {c : Condition} (fits : c.operator.Fits Value.IsScalar c.operand)
    (small : c.PatternFits) : c.Faithful Pattern.ofText := by
  obtain ⟨demand, compiled⟩ := exists_demand_of_fits fits
  refine ⟨demand, compiled, fun record => ?_⟩
  have answered := yields_of_demand compiled (not_hidesOperators_of_fits fits) record
  exact answered.eq_ok small.not_patternError

end Condition

/-! ## Trees -/

namespace Filter

variable {find : PatternSource} {fails : QueryError → Prop}

/-- Whether a filter compiles to members that hold of a record exactly if the filter does. -/
def Faithful (find : PatternSource) (f : Filter) : Prop :=
  ∃ members, f.documentMembers = .ok members ∧
    ∀ record, membersHold find record members = .ok (f.holds record)

/-- Whether what a filter compiles to, if it does, holds of a record exactly if the filter does, up
to some failures. -/
def Answers (find : PatternSource) (fails : QueryError → Prop) (f : Filter) : Prop :=
  ∀ members, f.documentMembers = .ok members →
    ∀ record, Outcome.Yields fails (f.holds record) (membersHold find record members)

/-- The key under which a document holds a branch: all of its documents or some of them. -/
def branchKey (conjunction : Bool) : String :=
  if conjunction then "$and" else "$or"

theorem documentMembers_condition_eq_ok_iff {c : Condition} {members : Members} :
    (condition c).documentMembers = .ok members ↔
      ∃ demand, c.demand = .ok demand ∧ members = [(c.field, demand)] := by
  simp only [documentMembers, Outcome.bind_eq_ok_iff, Outcome.pure_eq_ok, Except.ok.injEq,
    @eq_comm _ members]

theorem documentMembers_group_eq_ok_iff {conjuncts disjuncts : Option (List Filter)}
    {members : Members} :
    (group conjuncts disjuncts).documentMembers = .ok members ↔
      ∃ first second, documentBranch (branchKey true) conjuncts = .ok first ∧
        documentBranch (branchKey false) disjuncts = .ok second ∧ members = first ++ second := by
  simp only [documentMembers, Outcome.bind_eq_ok_iff, Outcome.pure_eq_ok, Except.ok.injEq,
    @eq_comm _ members, branchKey, if_true, Bool.false_eq_true, if_false, exists_and_left]

theorem documentBranch_some_eq_ok_iff {key : String} {list : List Filter} {members : Members} :
    documentBranch key (some list) = .ok members ↔
      ∃ documents, documentList list = .ok documents ∧ members = [(key, .array documents)] := by
  simp only [documentBranch, Outcome.bind_eq_ok_iff, Outcome.pure_eq_ok, Except.ok.injEq,
    @eq_comm _ members]

theorem documentList_cons_eq_ok_iff {f : Filter} {rest : List Filter} {documents : List Value} :
    documentList (f :: rest) = .ok documents ↔
      ∃ members others, f.documentMembers = .ok members ∧ documentList rest = .ok others ∧
        documents = .object members :: others := by
  simp only [documentList, Outcome.bind_eq_ok_iff, Outcome.pure_eq_ok, Except.ok.injEq,
    @eq_comm _ documents, exists_and_left]

theorem document_some_eq_ok_iff {f : Filter} {d : Document} :
    document (some f) = .ok d ↔ ∃ members, f.documentMembers = .ok members ∧ d = ⟨members⟩ := by
  simp only [document, Outcome.bind_eq_ok_iff, Outcome.pure_eq_ok, Except.ok.injEq, @eq_comm _ d]

theorem membersHold_field {field : String} {demand record : Value}
    (unreserved : isReserved field = false) :
    membersHold find record [(field, demand)] =
      demandHolds find (record.field field) demand := by
  have notAnd : field ≠ "$and" := by
    rintro rfl
    cases unreserved
  have notOr : field ≠ "$or" := by
    rintro rfl
    cases unreserved
  rw [membersHold, if_neg notAnd, if_neg notOr, if_neg (by simp [unreserved])]
  cases demandHolds find (record.field field) demand with
  | error e => rfl
  | ok hit => cases hit <;> rfl

theorem answers_condition {c : Condition} (unreserved : isReserved c.field = false)
    (h : ∀ demand, c.demand = .ok demand → ∀ record : Value,
      Outcome.Yields fails (c.holds record) (demandHolds find (record.field c.field) demand)) :
    (condition c).Answers find fails := by
  intro members compiled record
  obtain ⟨demand, hdemand, rfl⟩ := documentMembers_condition_eq_ok_iff.1 compiled
  rw [membersHold_field unreserved, holds]
  exact h demand hdemand record

/-- The documents of a list are gone through up to the first that decides. -/
theorem answers_list {list : List Filter} (h : ∀ f ∈ list, f.Answers find fails)
    {documents : List Value} (compiled : documentList list = .ok documents) (record : Value) :
    Outcome.Yields fails (allHold record list) (documentsHold find record true documents) ∧
      Outcome.Yields fails (someHolds record list)
        (documentsHold find record false documents) := by
  induction list generalizing documents with
  | nil =>
    cases compiled
    exact ⟨Outcome.yields_ok true, Outcome.yields_ok false⟩
  | cons f rest ih =>
    obtain ⟨members, others, hmembers, hothers, rfl⟩ := documentList_cons_eq_ok_iff.1 compiled
    have head := h f List.mem_cons_self members hmembers record
    obtain ⟨all, some⟩ := ih (fun g hg => h g (List.mem_cons_of_mem f hg)) hothers
    rw [documentsHold, documentsHold, documentHolds, allHold, someHolds]
    constructor
    · apply head.bind
      cases f.holds record with
      | false => exact Outcome.yields_ok false
      | true => exact all
    · apply head.bind
      cases f.holds record with
      | false => exact some
      | true => exact Outcome.yields_ok true

/-- A branch decides first; the rest of the document counts only if the branch holds. -/
theorem answers_branch (conjunction : Bool) {branch : Option (List Filter)}
    (h : ∀ f ∈ children branch, f.Answers find fails) {members : Members}
    (compiled : documentBranch (branchKey conjunction) branch = .ok members) {record : Value}
    {rest : Members} {answer : Bool}
    (hrest : Outcome.Yields fails answer (membersHold find record rest)) :
    Outcome.Yields fails (branchHolds record conjunction branch && answer)
      (membersHold find record (members ++ rest)) := by
  cases branch with
  | none =>
    cases compiled
    exact hrest
  | some list =>
    obtain ⟨documents, hdocuments, rfl⟩ := documentBranch_some_eq_ok_iff.1 compiled
    obtain ⟨ofAll, ofSome⟩ := answers_list h hdocuments record
    have head : Outcome.Yields fails (branchHolds record conjunction (some list))
        (documentsHold find record conjunction documents) := by
      cases conjunction with
      | true => exact ofAll
      | false => exact ofSome
    -- the rest of the document is looked at only if the branch holds
    have decided : membersHold find record ((branchKey conjunction, .array documents) :: rest) =
        (do if ← documentsHold find record conjunction documents then
              membersHold find record rest
            else return false) := by
      cases conjunction <;> simp [membersHold, listHolds, branchKey]
    rw [List.singleton_append, decided]
    apply head.bind
    cases branchHolds record conjunction (some list) with
    | false => exact Outcome.yields_ok false
    | true => exact hrest

/-- A filter answers as it means if all of its conditions do and none has a reserved field name. -/
theorem answers_of_leaves {f : Filter}
    (h : ∀ c ∈ f.leaves, isReserved c.field = false ∧
      ∀ demand, c.demand = .ok demand → ∀ record : Value,
        Outcome.Yields fails (c.holds record)
          (demandHolds find (record.field c.field) demand)) : f.Answers find fails := by
  induction f with
  | condition c =>
    obtain ⟨unreserved, hc⟩ := h c (by simp)
    exact answers_condition unreserved hc
  | group conjuncts disjuncts first second =>
    rw [forall_leaves_group] at h
    intro members compiled record
    obtain ⟨before, after, hbefore, hafter, rfl⟩ := documentMembers_group_eq_ok_iff.1 compiled
    have finished : Outcome.Yields fails true (membersHold find record []) := by
      rw [membersHold]
      exact Outcome.yields_ok true
    have tail := answers_branch false (fun f hf => second f hf (h.2 f hf)) hafter finished
    rw [List.append_nil, Bool.and_true] at tail
    exact answers_branch true (fun f hf => first f hf (h.1 f hf)) hbefore tail

theorem exists_documentList {list : List Filter}
    (h : ∀ f ∈ list, ∃ members, f.documentMembers = .ok members) :
    ∃ documents, documentList list = .ok documents := by
  induction list with
  | nil => exact ⟨[], rfl⟩
  | cons f rest ih =>
    obtain ⟨members, hmembers⟩ := h f List.mem_cons_self
    obtain ⟨others, hothers⟩ := ih fun g hg => h g (List.mem_cons_of_mem f hg)
    exact ⟨_, documentList_cons_eq_ok_iff.2 ⟨members, others, hmembers, hothers, rfl⟩⟩

theorem exists_documentBranch (key : String) {branch : Option (List Filter)}
    (h : ∀ f ∈ children branch, ∃ members, f.documentMembers = .ok members) :
    ∃ members, documentBranch key branch = .ok members := by
  cases branch with
  | none => exact ⟨[], rfl⟩
  | some list =>
    obtain ⟨documents, hdocuments⟩ := exists_documentList h
    exact ⟨_, documentBranch_some_eq_ok_iff.2 ⟨documents, hdocuments, rfl⟩⟩

/-- A filter compiles if all of its conditions do. -/
theorem exists_documentMembers {f : Filter}
    (h : ∀ c ∈ f.leaves, ∃ demand, c.demand = .ok demand) :
    ∃ members, f.documentMembers = .ok members := by
  induction f with
  | condition c =>
    obtain ⟨demand, hdemand⟩ := h c (by simp)
    exact ⟨_, documentMembers_condition_eq_ok_iff.2 ⟨demand, hdemand, rfl⟩⟩
  | group conjuncts disjuncts first second =>
    rw [forall_leaves_group] at h
    obtain ⟨before, hbefore⟩ := exists_documentBranch (branchKey true)
      fun f hf => first f hf (h.1 f hf)
    obtain ⟨after, hafter⟩ := exists_documentBranch (branchKey false)
      fun f hf => second f hf (h.2 f hf)
    exact ⟨_, documentMembers_group_eq_ok_iff.2 ⟨before, after, hbefore, hafter, rfl⟩⟩

/-- A filter is faithful if all of its conditions are and none has a reserved field name. -/
theorem faithful_of_leaves {f : Filter}
    (h : ∀ c ∈ f.leaves, isReserved c.field = false ∧ c.Faithful find) : f.Faithful find := by
  have compiles : ∀ c ∈ f.leaves, ∃ demand, c.demand = .ok demand := by
    intro c hc
    obtain ⟨-, demand, hdemand, -⟩ := h c hc
    exact ⟨demand, hdemand⟩
  obtain ⟨members, compiled⟩ := exists_documentMembers compiles
  have answers : f.Answers find fun _ => False := by
    apply answers_of_leaves
    intro c hc
    obtain ⟨unreserved, demand, hdemand, decides⟩ := h c hc
    refine ⟨unreserved, fun other same record => .inl ?_⟩
    cases hdemand.symm.trans same
    exact decides record
  exact ⟨members, compiled, fun record => (answers members compiled record).eq_ok fun _ => id⟩

/-- A filter that a schema accepts compiles to a document. -/
theorem exists_document_of_valid {s : Schema} {filter : Option Filter}
    (valid : s.faults filter = []) : ∃ d, document filter = .ok d := by
  cases filter with
  | none => exact ⟨.empty, rfl⟩
  | some f =>
    have compiles : ∀ c ∈ f.leaves, ∃ demand, c.demand = .ok demand := by
      intro c hc
      exact Condition.exists_demand_of_fits (Schema.faults_eq_nil_iff.1 valid c hc).fits
    obtain ⟨members, compiled⟩ := exists_documentMembers compiles
    exact ⟨_, document_some_eq_ok_iff.2 ⟨members, compiled, rfl⟩⟩

/-- The document answers whether the filter holds, if no field of the schema is named like an operator
of documents. -/
theorem matches?_of_valid {s : Schema} {filter : Option Filter} {d : Document}
    (unreserved : ∀ f ∈ s.fields, isReserved f.name = false) (valid : s.faults filter = [])
    (small : ∀ c ∈ allLeaves filter, c.PatternFits) (compiled : document filter = .ok d)
    (record : Value) :
    (Evaluator.of d).matches? record = .ok (record.isSelectedBy filter) := by
  rw [Evaluator.matches?_of]
  cases filter with
  | none =>
    cases compiled
    rfl
  | some f =>
    have faithful : f.Faithful Pattern.ofText := by
      apply faithful_of_leaves
      intro c hc
      have allowed := Schema.faults_eq_nil_iff.1 valid c hc
      exact ⟨allowed.isReserved_eq_false unreserved,
        Condition.faithful_of_fits allowed.fits (small c hc)⟩
    obtain ⟨members, hmembers, hold⟩ := faithful
    cases compiled.symm.trans (document_some_eq_ok_iff.2 ⟨members, hmembers, rfl⟩)
    exact hold record

/-- A filter that a checked schema accepts compiles to a document, and for every record the
evaluator of that document answers whether the filter holds. -/
theorem document_holds_iff_holds {fields : List Field} {s : Schema} {filter : Option Filter}
    (checked : Schema.ofFields fields = .ok s) (valid : s.faults filter = [])
    (small : ∀ c ∈ allLeaves filter, c.PatternFits) :
    ∃ d, document filter = .ok d ∧
      ∀ record : Value, (Evaluator.of d).matches? record = .ok (record.isSelectedBy filter) := by
  have unreserved := Schema.isReserved_eq_false checked
  obtain ⟨d, compiled⟩ := exists_document_of_valid valid
  exact ⟨d, compiled, fun record => matches?_of_valid unreserved valid small compiled record⟩

/-- A group with both branches set, with a pattern that is written in other letters than the text
that it matches. -/
theorem document_holds_of_alice :
    let fields : List Field :=
      [{ name := "name", type := .string }, { name := "age", type := .number }]
    let filter : Filter := .group (some [.condition ⟨"age", .gte, some (.ofNat 18)⟩])
      (some [.condition ⟨"name", .isNull, none⟩,
        .condition ⟨"name", .contains, some (.string "LI")⟩])
    let record : Value := .object [("age", .ofNat 34), ("name", .string "Alice")]
    Schema.ofFields fields = .ok ⟨none, fields⟩ ∧ Schema.faults ⟨none, fields⟩ (some filter) = [] ∧
      (∀ c ∈ allLeaves (some filter), c.PatternFits) ∧
      ∃ d, document (some filter) = .ok d ∧ (Evaluator.of d).matches? record = .ok true := by
  intro fields filter record
  have checked : Schema.ofFields fields = .ok ⟨none, fields⟩ := rfl
  have valid : Schema.faults ⟨none, fields⟩ (some filter) = [] := by decide
  have small : ∀ c ∈ allLeaves (some filter), c.PatternFits := by
    intro c hc site text hsite htext
    simp only [allLeaves, filter, leaves_group, children_some, List.flatMap_cons, leaves_condition,
      List.flatMap_nil, List.singleton_append, List.append_nil, List.mem_cons,
      List.not_mem_nil, or_false] at hc
    rcases hc with rfl | rfl | rfl
    · cases hsite
    · cases hsite
    · cases hsite
      cases htext
      decide
  obtain ⟨d, compiled, hold⟩ := document_holds_iff_holds checked valid small
  have selected : record.isSelectedBy (some filter) = true := by decide +kernel
  exact ⟨checked, valid, small, d, compiled, (hold record).trans (congrArg _ selected)⟩

end Filter

end SchemaFilter
