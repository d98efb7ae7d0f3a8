import SchemaFilter.Proofs.Query.HiddenFields

/-!
# Conditions that documents can hold

A filter that no schema has checked may compile to a document that means something else. There are
two ways for that: a field whose name begins with the sign of operators becomes an operator of the
document, and an object of operators that a field should equal becomes a demand on the field. A
condition is plain if neither is the case.

The document of plain conditions answers what the filter means, or it fails with a pattern that is
too large. That a condition is plain is not only enough for this but needed: for every other
condition there is a record about which its document does not answer what the condition means. If the
operand is an object of operators, the operand itself is such a field value or a list with nothing
but the operand in it, because no value equals a part of itself.
-/

namespace SchemaFilter

/-! ## Parts of values -/

namespace Value

mutual

/-- The number of values that a value is made of. -/
def weight : Value → Nat
  | array items => weightOfItems items + 1
  | object members => weightOfMembers members + 1
  | _ => 1

def weightOfItems : List Value → Nat
  | [] => 0
  | v :: rest => weight v + weightOfItems rest

def weightOfMembers : List (String × Value) → Nat
  | [] => 0
  | (_, v) :: rest => weight v + weightOfMembers rest

end

mutual

theorem weight_eq_of_same : (a b : Value) → a.same b = true → a.weight = b.weight
  | array as, b, h => by
    cases b with
    | array bs =>
      rw [same] at h
      rw [weight, weight, weightOfItems_eq_of_same as bs h]
    | _ => simp [same] at h
  | object as, b, h => by
    cases b with
    | object bs =>
      rw [same] at h
      rw [weight, weight, weightOfMembers_eq_of_same as bs h]
    | _ => simp [same] at h
  | null, b, h | bool _, b, h | number _, b, h | string _, b, h => by
    cases b with
    | array | object => simp [same] at h
    | null | bool | number | string => simp [weight]

theorem weightOfItems_eq_of_same : (as bs : List Value) → sameItems as bs = true →
    weightOfItems as = weightOfItems bs
  | [], bs, h => by
    cases bs with
    | nil => rfl
    | cons b bs => simp [sameItems] at h
  | a :: as, bs, h => by
    cases bs with
    | nil => simp [sameItems] at h
    | cons b bs =>
      rw [sameItems, Bool.and_eq_true] at h
      rw [weightOfItems, weightOfItems, weight_eq_of_same a b h.1,
        weightOfItems_eq_of_same as bs h.2]

theorem weightOfMembers_eq_of_same : (as bs : List (String × Value)) → sameMembers as bs = true →
    weightOfMembers as = weightOfMembers bs
  | [], bs, h => by
    cases bs with
    | nil => rfl
    | cons b bs => simp [sameMembers] at h
  | (_, a) :: as, bs, h => by
    cases bs with
    | nil => simp [sameMembers] at h
    | cons b bs =>
      obtain ⟨_, b⟩ := b
      rw [sameMembers, Bool.and_eq_true, Bool.and_eq_true] at h
      rw [weightOfMembers, weightOfMembers, weight_eq_of_same a b h.1.2,
        weightOfMembers_eq_of_same as bs h.2]

end

theorem weight_eq_of_equal {a b : Value} (h : a.equal b = true) : a.weight = b.weight := by
  cases a with
  | number m =>
    cases b with
    | number n => simp [weight]
    | _ => exact weight_eq_of_same _ _ h
  | _ => exact weight_eq_of_same _ _ h

theorem weight_le_weightOfItems {v : Value} {items : List Value} (h : v ∈ items) :
    v.weight ≤ weightOfItems items := by
  induction items with
  | nil => cases h
  | cons w rest ih =>
    rw [weightOfItems]
    rcases List.mem_cons.1 h with rfl | h
    · omega
    · have := ih h
      omega

theorem weight_le_weightOfMembers {key : String} {v : Value} {members : Members}
    (h : (key, v) ∈ members) : v.weight ≤ weightOfMembers members := by
  induction members with
  | nil => cases h
  | cons e rest ih =>
    obtain ⟨k, w⟩ := e
    rw [weightOfMembers]
    rcases List.mem_cons.1 h with same | h
    · cases same
      omega
    · have := ih h
      omega

end Value

/-! ## Objects of operators -/

namespace Document

variable {find : PatternSource} {actual : Value} {options : Option Value}

/-- All operators have to be fulfilled. -/
theorem operatorsHold_eq_ok_true_iff {operators : Members} :
    operatorsHold find actual options operators = .ok true ↔
      ∀ e ∈ operators, operatorHolds find actual options e.1 e.2 = .ok true := by
  induction operators with
  | nil => simp [operatorsHold]
  | cons e rest ih =>
    obtain ⟨key, operand⟩ := e
    rw [operatorsHold, List.forall_mem_cons, ← ih, Outcome.bind_eq_ok_iff]
    constructor
    · rintro ⟨hit, hhit, others⟩
      cases hit with
      | false => cases others
      | true => exact ⟨hhit, others⟩
    · rintro ⟨hhit, others⟩
      exact ⟨true, hhit, others⟩

/-- Of the operators in an object, the object itself fulfils only that it is unequal to something. -/
theorem key_of_operatorHolds_self {operators : Members} {key : String} {operand : Value}
    (inside : (key, operand) ∈ operators)
    (h : operatorHolds find (.object operators) options key operand = .ok true) :
    key = "$ne" ∨ key = "$options" := by
  have unordered (accept : Ordering → Bool) :
      ordered (.object operators) operand accept = false := by
    cases operand <;> rfl
  unfold operatorHolds at h
  split at h
  · exact .inl rfl
  · simp [unordered] at h
  · simp [unordered] at h
  · simp [unordered] at h
  · simp [unordered] at h
  · split at h
    · next items =>
      rw [Except.ok.injEq, List.any_eq_true] at h
      obtain ⟨item, hitem, same⟩ := h
      -- an entry of the list is lighter than the object around it, so it does not equal that
      have whole := Value.weight_eq_of_equal same
      have part := Value.weight_le_weightOfItems hitem
      have around := Value.weight_le_weightOfMembers inside
      simp only [Value.weight] at whole around
      omega
    · cases h
  · unfold patternHolds at h
    split at h
    · simp only [Outcome.bind_eq_ok_iff, Outcome.pure_eq_ok] at h
      obtain ⟨text, -, p, -, none⟩ := h
      cases none
    · cases h
  · exact .inr rfl
  · cases h

/-- An object of operators is not just compared with: there is a value about which it answers
otherwise, if at all. -/
theorem exists_demandHolds_ne_equal (find : PatternSource) {operators : Members}
    (reserved : holdsOperators operators = true) :
    ∃ actual, demandHolds find actual (.object operators) ≠
      .ok (actual.equal (.object operators)) := by
  by_contra compared
  rw [not_exists] at compared
  -- the object is asked about itself, and about the list that holds nothing but it
  have itself := not_not.1 (compared (.object operators))
  have wrapped := not_not.1 (compared (.array [.object operators]))
  rw [Value.equal_self, demandHolds, if_pos reserved] at itself
  rw [demandHolds, if_pos reserved] at wrapped
  split at itself
  · cases itself
  · next misplaced =>
    rw [if_neg misplaced] at wrapped
    rw [operatorsHold_eq_ok_true_iff] at itself
    -- what the object fulfils the list fulfils too, though it does not equal the object
    have fulfilled : operatorsHold find (.array [.object operators])
        (Members.get? operators "$options") operators = .ok true := by
      rw [operatorsHold_eq_ok_true_iff]
      rintro ⟨key, operand⟩ inside
      rcases key_of_operatorHolds_self inside (itself _ inside) with rfl | rfl
      · have other : (Value.array [.object operators]).equal operand = false := by
          rw [Bool.eq_false_iff]
          intro same
          have whole := Value.weight_eq_of_equal same
          have part := Value.weight_le_weightOfMembers inside
          simp only [Value.weight, Value.weightOfItems] at whole
          omega
        simp [operatorHolds, other]
      · simp [operatorHolds]
    rw [fulfilled] at wrapped
    cases wrapped

/-! ## Reserved names -/

mutual

theorem not_mem_membersNames {name : String} (key : name = "$and" ∨ name = "$or") :
    (members : List (String × Value)) → name ∉ membersNames members
  | [] => by simp [membersNames]
  | (k, demand) :: rest => by
    rw [membersNames, List.mem_append, not_or]
    refine ⟨?_, not_mem_membersNames key rest⟩
    split
    · exact not_mem_listNames key demand
    · next other =>
      rw [List.mem_singleton]
      rintro rfl
      exact other key

theorem not_mem_listNames {name : String} (key : name = "$and" ∨ name = "$or") :
    (list : Value) → name ∉ listNames list
  | .array documents => by
    rw [listNames]
    exact not_mem_documentsNames key documents
  | .null | .bool _ | .number _ | .string _ | .object _ => by simp [listNames]

theorem not_mem_documentsNames {name : String} (key : name = "$and" ∨ name = "$or") :
    (documents : List Value) → name ∉ documentsNames documents
  | [] => by simp [documentsNames]
  | d :: rest => by
    rw [documentsNames, List.mem_append, not_or]
    exact ⟨not_mem_documentNames key d, not_mem_documentsNames key rest⟩

theorem not_mem_documentNames {name : String} (key : name = "$and" ∨ name = "$or") :
    (d : Value) → name ∉ documentNames d
  | .object members => by
    rw [documentNames]
    exact not_mem_membersNames key members
  | .null | .bool _ | .number _ | .string _ | .array _ => by simp [documentNames]

end

end Document

open Document

namespace Condition

/-- Whether a document can hold a condition as what it is. -/
def IsPlain (c : Condition) : Prop :=
  isReserved c.field = false ∧ ¬c.HidesOperators

/-- A list is demanded only by a condition that wants its field to equal it. -/
theorem operand_of_demand_array {c : Condition} {items : List Value}
    (compiled : c.demand = .ok (.array items)) :
    c.operator = .eq ∧ c.operand = some (.array items) := by
  cases hop : c.operator with
  | eq =>
    rw [demand, hop] at compiled
    exact ⟨rfl, value_eq_ok_iff.1 compiled⟩
  | isNull | isNotNull => simp [demand, hop, single] at compiled
  | between =>
    simp only [demand, hop, Outcome.bind_eq_ok_iff] at compiled
    obtain ⟨⟨low, high⟩, -, other⟩ := compiled
    cases other
  | neq | gt | lt | gte | lte | isIn | contains | startsWith | endsWith =>
    simp only [demand, hop, Outcome.bind_eq_ok_iff] at compiled
    obtain ⟨operand, -, other⟩ := compiled
    cases other

/-- The document of a condition on a reserved name does not answer for all records what the condition
means. -/
theorem exists_membersHold_ne_of_reserved {c : Condition} {demand : Value}
    (compiled : c.demand = .ok demand) (reserved : isReserved c.field = true)
    (find : PatternSource) :
    ∃ record, membersHold find record [(c.field, demand)] ≠ .ok (c.holds record) := by
  by_cases combines : c.field = "$and" ∨ c.field = "$or"
  · cases demand with
    | array documents =>
      obtain ⟨hop, hoperand⟩ := operand_of_demand_array compiled
      -- The two records differ in nothing that the document reads.
      have unread : membersHold find (.object [(c.field, .array documents)])
          [(c.field, .array documents)] = membersHold find .null [(c.field, .array documents)] := by
        apply membersHold_congr
        intro name hname
        have other : name ≠ c.field := by
          rintro rfl
          exact not_mem_membersNames combines _ hname
        simp [Value.field, List.lookup_cons, beq_eq_false_iff_ne.2 other]
      have held : c.holds (.object [(c.field, .array documents)]) = true := by
        rw [holds_of_operand hoperand, hop]
        simp [Operator.holds, Value.field]
      have missed : c.holds .null = false := by
        rw [holds_of_operand hoperand, hop]
        rfl
      by_contra answers
      rw [not_exists] at answers
      have first := not_not.1 (answers (.object [(c.field, .array documents)]))
      have second := not_not.1 (answers .null)
      rw [unread, second, held, missed] at first
      cases first
    | null | bool | number | string | object =>
      refine ⟨.null, ?_⟩
      rcases combines with same | same <;> simp [same, membersHold, listHolds]
  · rw [not_or] at combines
    refine ⟨.null, ?_⟩
    simp [membersHold, combines, reserved]

/-- The document of a condition that hides operators does not answer for all records what the
condition means. -/
theorem exists_membersHold_ne_of_hidesOperators {c : Condition} {demand : Value}
    (compiled : c.demand = .ok demand) (unreserved : isReserved c.field = false)
    (hides : c.HidesOperators) (find : PatternSource) :
    ∃ record, membersHold find record [(c.field, demand)] ≠ .ok (c.holds record) := by
  obtain ⟨hop, operators, hoperand, reserved⟩ := hides
  rw [Condition.demand, hop] at compiled
  have same : c.operand = some demand := value_eq_ok_iff.1 compiled
  cases hoperand.symm.trans same
  obtain ⟨actual, differs⟩ := exists_demandHolds_ne_equal find reserved
  refine ⟨.object [(c.field, actual)], ?_⟩
  have present : (Value.object [(c.field, actual)]).field c.field = actual := by
    simp [Value.field]
  rw [Filter.membersHold_field unreserved, holds_of_operand hoperand, hop, present]
  exact differs

end Condition

namespace Filter

/-- A document of plain conditions answers whether its filter holds, up to patterns of the conditions
that are too large. -/
theorem yields_of_plain {filter : Option Filter} {d : Document} (compiled : document filter = .ok d)
    (plain : ∀ c ∈ allLeaves filter, c.IsPlain) (record : Value) :
    Outcome.Yields (fun e => ∃ c ∈ allLeaves filter, c.PatternError e)
      (record.isSelectedBy filter) ((Evaluator.of d).matches? record) := by
  rw [Evaluator.matches?_of]
  cases filter with
  | none =>
    cases compiled
    exact .inl rfl
  | some f =>
    obtain ⟨members, hmembers, rfl⟩ := document_some_eq_ok_iff.1 compiled
    have whole : f.Answers Pattern.ofText fun e => ∃ c ∈ f.leaves, c.PatternError e := by
      apply answers_of_leaves
      intro c hc
      obtain ⟨unreserved, unhidden⟩ := plain c hc
      refine ⟨unreserved, fun demand hdemand record => ?_⟩
      exact (c.yields_of_demand hdemand unhidden record).mono fun e he => ⟨c, hc, he⟩
    exact whole members hmembers record

/-- A condition is plain if its document answers for every record whether it holds. -/
theorem isPlain_of_answers {c : Condition} {d : Document}
    (compiled : document (some (condition c)) = .ok d)
    (answers : ∀ record : Value, (Evaluator.of d).matches? record = .ok (c.holds record)) :
    c.IsPlain := by
  obtain ⟨members, hmembers, rfl⟩ := document_some_eq_ok_iff.1 compiled
  obtain ⟨demand, hdemand, rfl⟩ := documentMembers_condition_eq_ok_iff.1 hmembers
  simp only [Evaluator.matches?_of, matches?] at answers
  have unreserved : isReserved c.field = false := by
    rw [Bool.eq_false_iff]
    intro reserved
    obtain ⟨record, differs⟩ :=
      c.exists_membersHold_ne_of_reserved hdemand reserved Pattern.ofText
    exact differs (answers record)
  refine ⟨unreserved, fun hides => ?_⟩
  obtain ⟨record, differs⟩ :=
    c.exists_membersHold_ne_of_hidesOperators hdemand unreserved hides Pattern.ofText
  exact differs (answers record)

/-- A document of plain conditions answers for every record whether its filter holds of it, or it
fails with a pattern of one of the conditions that is too large. And plain conditions are the only
ones of which this is true: a condition that compiles and whose pattern is not too large is plain
exactly if its document answers for every record whether the condition holds. In particular a field
that has to equal a value selects only records in which it does. -/
theorem document_answers_of_plain {filter : Option Filter} {d : Document}
    (compiled : document filter = .ok d) :
    ((∀ c ∈ allLeaves filter, c.IsPlain) → ∀ record : Value,
      (Evaluator.of d).matches? record = .ok (record.isSelectedBy filter) ∨
        ∃ e, (∃ c ∈ allLeaves filter, c.PatternError e) ∧
          (Evaluator.of d).matches? record = .error e) ∧
    ∀ c, filter = some (.condition c) → c.PatternFits →
      (c.IsPlain ↔ ∀ record : Value, (Evaluator.of d).matches? record = .ok (c.holds record)) := by
  refine ⟨yields_of_plain compiled, ?_⟩
  rintro c rfl small
  have leaf : allLeaves (some (condition c)) = [c] := leaves_condition c
  constructor
  · intro plain record
    have answered := yields_of_plain compiled (by simpa [leaf] using plain) record
    exact answered.eq_ok (by simpa [leaf] using small.not_patternError)
  · exact isPlain_of_answers compiled

/-- No schema would accept the filter, which compares a field with an object and gives an operand
that is not used, and still its document answers what it means. -/
theorem document_answers_of_nested_object :
    let owner : Value := .object [("id", .ofNat 7)]
    let filter : Filter := .group (some [.condition ⟨"owner", .eq, some owner⟩])
      (some [.condition ⟨"name", .isNull, some (.ofNat 1)⟩,
        .condition ⟨"name", .contains, some (.string "LI")⟩])
    let record : Value := .object [("name", .string "Alice"), ("owner", owner)]
    (∀ c ∈ allLeaves (some filter), c.IsPlain) ∧ ∃ d, document (some filter) = .ok d ∧
      (Evaluator.of d).matches? record = .ok true := by
  intro owner filter record
  have leaves : allLeaves (some filter) = [⟨"owner", .eq, some owner⟩,
      ⟨"name", .isNull, some (.ofNat 1)⟩, ⟨"name", .contains, some (.string "LI")⟩] := by
    simp [allLeaves, filter]
  have plain : ∀ c ∈ allLeaves (some filter), c.IsPlain := by
    rw [leaves]
    simp only [List.forall_mem_cons, List.not_mem_nil, false_implies, implies_true, and_true]
    refine ⟨⟨by decide, ?_⟩, ⟨by decide, ?_⟩, ⟨by decide, ?_⟩⟩
    · rintro ⟨-, members, same, reserved⟩
      injection same with same
      injection same with same
      subst same
      cases reserved
    · rintro ⟨other, -⟩
      cases other
    · rintro ⟨other, -⟩
      cases other
  have small : ∀ c ∈ allLeaves (some filter), ∀ e, ¬c.PatternError e := by
    rw [leaves]
    simp only [List.forall_mem_cons, List.not_mem_nil, false_implies, implies_true, and_true]
    refine ⟨?_, ?_, ?_⟩ <;> rintro e ⟨site, text, hsite, htext, large, -⟩
    · cases hsite
    · cases hsite
    · cases hsite
      cases htext
      revert large
      decide
  have selected : record.isSelectedBy (some filter) = true := by decide +kernel
  obtain ⟨d, compiled⟩ : ∃ d, document (some filter) = .ok d := ⟨_, rfl⟩
  refine ⟨plain, d, compiled, ?_⟩
  rcases (document_answers_of_plain compiled).1 plain record with answered | ⟨e, ⟨c, hc, he⟩, -⟩
  · exact answered.trans (congrArg _ selected)
  · exact absurd he (small c hc e)

/-- Two operands that are taken for operators: the first one selects a record whose field it does not
equal, and the second one fails. -/
theorem operators_hidden_in_operands :
    let present : Value := .object [("$ne", .null)]
    let unknown : Value := .object [("$where", .ofNat 1)]
    let filter : Filter :=
      .any [.condition ⟨"code", .eq, some present⟩, .condition ⟨"code", .eq, some unknown⟩]
    let record : Value := .object [("code", .string "red")]
    ∃ d, document (some filter) = .ok d ∧
      ((Evaluator.of d).matches? record = .ok true ∧
        (record.field "code").equal present = false ∧
        (record.field "code").equal unknown = false) ∧
      (Evaluator.of d).matches? (.object []) = .error (.unsupportedOperator "$where") := by
  intro present unknown filter record
  have presence (actual : Value) :
      demandHolds Pattern.ofText actual present = .ok (!actual.equal .null) :=
    demandHolds_single rfl (by decide) rfl
  have failure (actual : Value) :
      demandHolds Pattern.ofText actual unknown = .error (.unsupportedOperator "$where") := by
    simp [unknown, demandHolds, holdsOperators, isReserved, Members.has, operatorsHold,
      operatorHolds]
  refine ⟨_, rfl, ⟨?_, rfl, rfl⟩, ?_⟩
  · rw [Evaluator.matches?_of]
    simp [matches?, membersHold, listHolds, documentsHold, documentHolds, presence]
    rfl
  · rw [Evaluator.matches?_of]
    simp [matches?, membersHold, listHolds, documentsHold, documentHolds, presence, failure]
    rfl

end Filter

end SchemaFilter
