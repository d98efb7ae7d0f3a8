import Mathlib.Logic.Relation
import SchemaFilter.Proofs.Query.ReachedPatterns

/-!
# Well-formed documents

A document written by hand is well-formed if the lists under `$and` and `$or` hold well-formed
documents, every other key is the name of a field, and an object of operators under such a name has
operators only, each with an operand of its kind: a list for `$in`, a pattern that can be built under
its flags for `$regex`, and flags for `$options`, which need a pattern beside them.

A well-formed document answers about every record. The evaluator stops at the first entry of a list
that decides, so the order of the entries says which of them are looked at; but since none of them can
fail, it does not matter to the answer. `Shuffles` is one change of order in a list under `$and`, `$or`
or `$in` anywhere in a value. Not each of these keeps the answer: a value that a field is to equal or
not to equal is data, and the order of a list in it counts. `Reorders` is a change in the other places:
in a list of documents, in the operand of an `$in`, or in a value with which a field is only ordered.
-/

namespace SchemaFilter

/-! ## Answers of lists -/

namespace Outcome

variable {ε : Type}

def isYes (outcome : Except ε Bool) : Bool :=
  outcome.toOption.getD false

end Outcome

namespace Document

open Outcome (isYes)

variable {find : PatternSource} {record actual : Value} {options : Option Value}

/-- If every operator can be decided, all of them have to hold. -/
theorem operatorsHold_of_answers {operators : Members}
    (h : ∀ e ∈ operators, ∃ hit, operatorHolds find actual options e.1 e.2 = .ok hit) :
    operatorsHold find actual options operators =
      .ok (operators.all fun e => isYes (operatorHolds find actual options e.1 e.2)) := by
  induction operators with
  | nil => rfl
  | cons e rest ih =>
    obtain ⟨⟨hit, hhit⟩, others⟩ := List.forall_mem_cons.1 h
    rw [operatorsHold, ih others, List.all_cons, hhit]
    cases hit <;> rfl

/-- If every document of a list can be decided, all of them or some have to hold, whatever their
order. -/
theorem documentsHold_of_answers (conjunction : Bool) {documents : List Value}
    (h : ∀ d ∈ documents, ∃ hit, documentHolds find record d = .ok hit) :
    documentsHold find record conjunction documents =
      .ok (if conjunction then documents.all fun d => isYes (documentHolds find record d)
        else documents.any fun d => isYes (documentHolds find record d)) := by
  induction documents with
  | nil => cases conjunction <;> simp [documentsHold]
  | cons d rest ih =>
    obtain ⟨⟨hit, hhit⟩, others⟩ := List.forall_mem_cons.1 h
    rw [documentsHold, ih others, List.all_cons, List.any_cons, hhit]
    cases hit <;> cases conjunction <;> rfl

/-- Documents that can all be decided may stand in any order. -/
theorem documentsHold_perm (conjunction : Bool) {documents documents' : List Value}
    (order : documents.Perm documents')
    (h : ∀ d ∈ documents, ∃ hit, documentHolds find record d = .ok hit) :
    documentsHold find record conjunction documents' =
      documentsHold find record conjunction documents := by
  rw [documentsHold_of_answers conjunction h,
    documentsHold_of_answers conjunction fun d hd => h d (order.mem_iff.2 hd),
    order.all_eq, order.any_eq]

/-- A document of a list counts only by its answer. -/
theorem documentsHold_replace (conjunction : Bool) {d d' : Value}
    (same : documentHolds find record d' = documentHolds find record d)
    (before after : List Value) :
    documentsHold find record conjunction (before ++ d' :: after) =
      documentsHold find record conjunction (before ++ d :: after) := by
  induction before with
  | nil => simp only [List.nil_append, documentsHold, same]
  | cons first before ih => simp only [List.cons_append, documentsHold, ih]

/-- An operand counts only by the answer of its operator. -/
theorem operatorsHold_replace {key : String} {operand operand' : Value}
    (same : operatorHolds find actual options key operand' =
      operatorHolds find actual options key operand) (before after : Members) :
    operatorsHold find actual options (before ++ (key, operand') :: after) =
      operatorsHold find actual options (before ++ (key, operand) :: after) := by
  induction before with
  | nil => simp only [List.nil_append, operatorsHold, same]
  | cons first before ih => simp only [List.cons_append, operatorsHold, ih]

/-! ## Well-formed documents -/

/-- Whether a key holds a list of documents. -/
def Combines (key : String) : Prop :=
  key = "$and" ∨ key = "$or"

theorem Combines.isReserved {key : String} (h : Combines key) : isReserved key = true := by
  rcases h with rfl | rfl <;> rfl

/-- A list of documents stands alone as its documents do together. -/
theorem membersHold_combines {key : String} (combines : Combines key) (documents : List Value) :
    membersHold find record [(key, .array documents)] =
      documentsHold find record (key = "$and") documents := by
  rw [membersHold_singleton]
  rcases combines with rfl | rfl <;> simp [listHolds]

end Document

def Pattern.Settings.named (flags : List Char) : Settings where
  ignoreCase := 'i' ∈ flags
  multiLine := 'm' ∈ flags
  dotAll := 's' ∈ flags
  extended := 'x' ∈ flags

theorem Pattern.Settings.ofOptions_of_flags {flags : List Char}
    (known : ∀ c ∈ flags, c ∈ ['i', 'm', 's', 'x']) (s : Settings) :
    ofOptions flags s = .ok { s with
      ignoreCase := s.ignoreCase || decide ('i' ∈ flags)
      multiLine := s.multiLine || decide ('m' ∈ flags)
      dotAll := s.dotAll || decide ('s' ∈ flags)
      extended := s.extended || decide ('x' ∈ flags) } := by
  induction flags generalizing s with
  | nil => simp [ofOptions]
  | cons c flags ih =>
    obtain ⟨hc, others⟩ := List.forall_mem_cons.1 known
    simp only [List.mem_cons, List.not_mem_nil, or_false] at hc
    rcases hc with rfl | rfl | rfl | rfl <;> rw [ofOptions, ih others] <;> simp

theorem Pattern.ofText_of_flags {text flags : String} {p : Pattern}
    (known : ∀ c ∈ flags.toList, c ∈ ['i', 'm', 's', 'x'])
    (built : Pattern.compile? (.named flags.toList) text = some p) :
    Pattern.ofText text flags = .ok p := by
  have settings : Settings.ofOptions flags.toList {} = .ok (.named flags.toList) := by
    rw [Settings.ofOptions_of_flags known]
    simp [Settings.named]
  rw [ofText, settings, Outcome.ok_bind, built]

namespace Document

variable {find : PatternSource} {record actual : Value}

/-- Whether an operator has an operand of its kind, among all operators of an object. -/
inductive WellFormedOperator (operators : Members) : String → Value → Prop where
  | comparison {key : String} (operand : Value)
      (known : key ∈ ["$ne", "$gt", "$gte", "$lt", "$lte"]) :
      WellFormedOperator operators key operand
  | membership (items : List Value) : WellFormedOperator operators "$in" (.array items)
  /-- Without options there are no flags. -/
  | pattern {text flags : String} {p : Pattern}
      (beside : (operators.get? "$options").getD (.string "") = .string flags)
      (built : Pattern.compile? (.named flags.toList) text = some p) :
      WellFormedOperator operators "$regex" (.string text)
  | options {flags : String} (beside : operators.has "$regex" = true)
      (known : ∀ c ∈ flags.toList, c ∈ ['i', 'm', 's', 'x']) :
      WellFormedOperator operators "$options" (.string flags)

/-- Whether a field may be looked at in the way that is demanded: an object with an operator has to be
a well-formed object of operators, and every other value is compared with. -/
def WellFormedDemand (demand : Value) : Prop :=
  ∀ operators, demand = .object operators → holdsOperators operators = true →
    ∀ e ∈ operators, WellFormedOperator operators e.1 e.2

/-- Whether a value is a well-formed document. -/
inductive WellFormed : Value → Prop where
  | empty : WellFormed (.object [])
  | list {key : String} {documents : List Value} {rest : Members} (combines : Combines key)
      (inside : ∀ d ∈ documents, WellFormed d) (others : WellFormed (.object rest)) :
      WellFormed (.object ((key, .array documents) :: rest))
  | field {name : String} {demand : Value} {rest : Members} (unreserved : isReserved name = false)
      (demanded : WellFormedDemand demand) (others : WellFormed (.object rest)) :
      WellFormed (.object ((name, demand) :: rest))

theorem WellFormedOperator.options_inv {operators : Members} {operand : Value}
    (h : WellFormedOperator operators "$options" operand) :
    ∃ flags, operand = .string flags ∧ operators.has "$regex" = true ∧
      ∀ c ∈ flags.toList, c ∈ ['i', 'm', 's', 'x'] := by
  generalize hkey : "$options" = key at h
  cases h with
  | comparison operand known => simp [← hkey] at known
  | membership items => simp at hkey
  | pattern beside built => simp at hkey
  | options beside known => exact ⟨_, rfl, beside, known⟩

theorem flags_of_wellFormed {operators : Members} {flags : String}
    (proper : ∀ e ∈ operators, WellFormedOperator operators e.1 e.2)
    (beside : (operators.get? "$options").getD (.string "") = .string flags) :
    optionsText (operators.get? "$options") = .ok flags ∧
      ∀ c ∈ flags.toList, c ∈ ['i', 'm', 's', 'x'] := by
  cases found : operators.get? "$options" with
  | none =>
    rw [found] at beside
    cases beside
    exact ⟨rfl, by simp⟩
  | some v =>
    rw [found] at beside
    cases beside
    obtain ⟨_, same, -, known⟩ := (proper _ (Members.mem_of_get? found)).options_inv
    cases same
    exact ⟨rfl, known⟩

theorem has_regex_of_wellFormed {operators : Members}
    (proper : ∀ e ∈ operators, WellFormedOperator operators e.1 e.2)
    (given : operators.has "$options" = true) : operators.has "$regex" = true := by
  obtain ⟨v, found⟩ := Option.isSome_iff_exists.1 given
  obtain ⟨_, -, beside, -⟩ := (proper _ (Members.mem_of_get? found)).options_inv
  exact beside

/-- An operator of a well-formed object can be decided. -/
theorem exists_operatorHolds {operators : Members}
    (proper : ∀ e ∈ operators, WellFormedOperator operators e.1 e.2) {key : String} {operand : Value}
    (h : WellFormedOperator operators key operand) :
    ∃ hit, operatorHolds Pattern.ofText actual (operators.get? "$options") key operand =
      .ok hit := by
  cases h with
  | comparison operand known =>
    simp only [List.mem_cons, List.not_mem_nil, or_false] at known
    rcases known with rfl | rfl | rfl | rfl | rfl <;> exact ⟨_, rfl⟩
  | membership items => exact ⟨_, rfl⟩
  | pattern beside built =>
    obtain ⟨read, known⟩ := flags_of_wellFormed proper beside
    have found := Pattern.ofText_of_flags known built
    rw [operatorHolds, patternHolds, read, Outcome.ok_bind, found, Outcome.ok_bind]
    cases actual <;> exact ⟨_, rfl⟩
  | options beside known => exact ⟨_, rfl⟩

/-- What is demanded of a field can be decided. -/
theorem WellFormedDemand.exists_demandHolds {demand : Value} (h : WellFormedDemand demand)
    (actual : Value) : ∃ hit, demandHolds Pattern.ofText actual demand = .ok hit := by
  cases demand with
  | object operators =>
    cases reserved : holdsOperators operators with
    | false => exact ⟨_, demandHolds_value fun members same => by cases same; exact reserved⟩
    | true =>
      have proper := h operators rfl reserved
      rw [demandHolds_operators reserved (has_regex_of_wellFormed proper),
        operatorsHold_of_answers fun e he => exists_operatorHolds proper (proper e he)]
      exact ⟨_, rfl⟩
  | null | bool | number | string | array => exact ⟨_, demandHolds_value nofun⟩

theorem membersHold_cons_eq_ok {first : String × Value} {rest : Members} {hit others : Bool}
    (head : membersHold find record [first] = .ok hit)
    (tail : membersHold find record rest = .ok others) :
    membersHold find record (first :: rest) = .ok (hit && others) := by
  rw [membersHold_cons, head, Outcome.ok_bind, tail]
  cases hit <;> rfl

/-- A well-formed document can be decided about every record. -/
theorem WellFormed.exists_documentHolds {d : Value} (h : WellFormed d) (record : Value) :
    ∃ hit, documentHolds Pattern.ofText record d = .ok hit := by
  induction h with
  | empty => exact ⟨true, by rw [documentHolds, membersHold]⟩
  | list combines inside others decided rest =>
    obtain ⟨hit, tail⟩ := rest
    rw [documentHolds] at tail ⊢
    have head := (membersHold_combines combines _).trans (documentsHold_of_answers _ decided)
    exact ⟨_, membersHold_cons_eq_ok head tail⟩
  | @field name _ _ unreserved demanded others rest =>
    obtain ⟨hit, tail⟩ := rest
    obtain ⟨first, decided⟩ := demanded.exists_demandHolds (record.field name)
    rw [documentHolds] at tail ⊢
    have head := (Filter.membersHold_field unreserved).trans decided
    exact ⟨_, membersHold_cons_eq_ok head tail⟩

/-! ## Changes of order -/

/-- Whether a value becomes another one when the entries of one list under `$and`, `$or` or `$in`, at any
depth, change their order. -/
inductive Shuffles : Value → Value → Prop where
  | list {key : String} {before after : Members} {items items' : List Value}
      (known : key ∈ ["$and", "$or", "$in"]) (order : items.Perm items') :
      Shuffles (.object (before ++ (key, .array items) :: after))
        (.object (before ++ (key, .array items') :: after))
  | member {key : String} {before after : Members} {v v' : Value} (change : Shuffles v v') :
      Shuffles (.object (before ++ (key, v) :: after)) (.object (before ++ (key, v') :: after))
  | item {before after : List Value} {v v' : Value} (change : Shuffles v v') :
      Shuffles (.array (before ++ v :: after)) (.array (before ++ v' :: after))

/-- Whether the operand behind an operator becomes another one when its order changes: that of the
values that a field is to be among, or any order in a value with which a field is ordered. -/
inductive ReordersOperand : String → Value → Value → Prop where
  | candidates {items items' : List Value} (order : items.Perm items') :
      ReordersOperand "$in" (.array items) (.array items')
  | bound {key : String} {v v' : Value} (ordering : key ∈ ["$gt", "$gte", "$lt", "$lte"])
      (change : Shuffles v v') : ReordersOperand key v v'

/-- Whether a document becomes another one by a change of order in one of its lists of documents, or
behind an operator of one of its fields. -/
inductive Reorders : Value → Value → Prop where
  | documents {key : String} {documents documents' : List Value} {rest : Members}
      (combines : Combines key) (order : documents.Perm documents') :
      Reorders (.object ((key, .array documents) :: rest))
        (.object ((key, .array documents') :: rest))
  | operand {name key : String} {before after : Members} {v v' : Value} {rest : Members}
      (unreserved : isReserved name = false) (change : ReordersOperand key v v') :
      Reorders (.object ((name, .object (before ++ (key, v) :: after)) :: rest))
        (.object ((name, .object (before ++ (key, v') :: after)) :: rest))
  | inside {key : String} {before after : List Value} {d d' : Value} {rest : Members}
      (combines : Combines key) (change : Reorders d d') :
      Reorders (.object ((key, .array (before ++ d :: after)) :: rest))
        (.object ((key, .array (before ++ d' :: after)) :: rest))
  | later {first : String × Value} {rest rest' : Members}
      (change : Reorders (.object rest) (.object rest')) :
      Reorders (.object (first :: rest)) (.object (first :: rest'))

/-- Whether a document becomes another one by any number of changes of order. -/
def Rearranges : Value → Value → Prop :=
  Relation.ReflTransGen Reorders

theorem forall_mem_replaced {α : Type} {p : α → Prop} {before after : List α} {a a' : α}
    (h : ∀ e ∈ before ++ a :: after, p e) (ha' : p a') : ∀ e ∈ before ++ a' :: after, p e := by
  rw [List.forall_mem_append, List.forall_mem_cons] at h ⊢
  exact ⟨h.1, ha', h.2.2⟩

theorem WellFormed.tail {first : String × Value} {rest : Members}
    (h : WellFormed (.object (first :: rest))) : WellFormed (.object rest) := by
  cases h with
  | list _ _ others => exact others
  | field _ _ others => exact others

theorem WellFormed.replaceTail {first : String × Value} {rest rest' : Members}
    (h : WellFormed (.object (first :: rest))) (others' : WellFormed (.object rest')) :
    WellFormed (.object (first :: rest')) := by
  cases h with
  | list combines inside _ => exact .list combines inside others'
  | field unreserved demanded _ => exact .field unreserved demanded others'

theorem WellFormed.inside {key : String} {documents : List Value} {rest : Members}
    (h : WellFormed (.object ((key, .array documents) :: rest))) (combines : Combines key) :
    ∀ d ∈ documents, WellFormed d := by
  cases h with
  | list _ inside _ => exact inside
  | field unreserved _ _ => simp [combines.isReserved] at unreserved

theorem WellFormed.demanded {name : String} {demand : Value} {rest : Members}
    (h : WellFormed (.object ((name, demand) :: rest))) (unreserved : isReserved name = false) :
    WellFormedDemand demand := by
  cases h with
  | list combines _ _ => simp [combines.isReserved] at unreserved
  | field _ demanded _ => exact demanded

section Operand

variable {key : String} {before after : Members} {v v' : Value}

/-- Lists and objects have no order, whatever is in them. -/
theorem Shuffles.ordered_eq_false (change : Shuffles v v') (accept : Ordering → Bool) :
    ordered actual v accept = false ∧ ordered actual v' accept = false := by
  cases change <;> cases actual <;> exact ⟨rfl, rfl⟩

/-- Behind its operator the one operand does what the other does. -/
theorem ReordersOperand.operatorHolds_eq (change : ReordersOperand key v v')
    (options : Option Value) :
    operatorHolds find actual options key v' = operatorHolds find actual options key v := by
  cases change with
  | candidates order => rw [operatorHolds, operatorHolds, order.any_eq]
  | bound ordering change =>
    simp only [List.mem_cons, List.not_mem_nil, or_false] at ordering
    rcases ordering with rfl | rfl | rfl | rfl <;>
      simp only [operatorHolds, (change.ordered_eq_false _).1, (change.ordered_eq_false _).2]

theorem ReordersOperand.wellFormedOperator (change : ReordersOperand key v v')
    (operators : Members) : WellFormedOperator operators key v' := by
  cases change with
  | candidates order => exact .membership _
  | bound ordering _ =>
    exact .comparison _ (List.mem_cons_of_mem "$ne" ordering)

theorem ReordersOperand.isReserved (change : ReordersOperand key v v') :
    isReserved key = true := by
  cases change with
  | candidates => rfl
  | bound ordering _ =>
    simp only [List.mem_cons, List.not_mem_nil, or_false] at ordering
    rcases ordering with rfl | rfl | rfl | rfl <;> rfl

/-- Neither a pattern nor its options have an order. -/
theorem ReordersOperand.ne_of_mem (change : ReordersOperand key v v') {other : String}
    (h : other ∈ ["$options", "$regex"]) : other ≠ key := by
  cases change with
  | candidates =>
    rintro rfl
    simp at h
  | bound ordering _ =>
    rintro rfl
    simp only [List.mem_cons, List.not_mem_nil, or_false] at h
    rcases h with rfl | rfl <;> simp at ordering

theorem get?_replaced (v v' : Value) {other : String} (h : other ≠ key) :
    Members.get? (before ++ (key, v') :: after) other =
      Members.get? (before ++ (key, v) :: after) other := by
  induction before with
  | nil => simp [h]
  | cons e before ih =>
    obtain ⟨k, w⟩ := e
    simp only [List.cons_append, Members.get?_cons, ih]

theorem has_replaced (v v' : Value) {other : String} (h : other ≠ key) :
    Members.has (before ++ (key, v') :: after) other =
      Members.has (before ++ (key, v) :: after) other := by
  rw [Members.has, Members.has, get?_replaced v v' h]

theorem WellFormedOperator.replaceOperand (change : ReordersOperand key v v') {k : String}
    {operand : Value} (h : WellFormedOperator (before ++ (key, v) :: after) k operand) :
    WellFormedOperator (before ++ (key, v') :: after) k operand := by
  cases h with
  | comparison operand known => exact .comparison operand known
  | membership items => exact .membership items
  | pattern beside built =>
    rw [← get?_replaced v v' (change.ne_of_mem (by simp))] at beside
    exact .pattern beside built
  | options beside known =>
    rw [← has_replaced v v' (change.ne_of_mem (by simp))] at beside
    exact .options beside known

theorem WellFormedDemand.replaceOperand (change : ReordersOperand key v v')
    (h : WellFormedDemand (.object (before ++ (key, v) :: after))) :
    WellFormedDemand (.object (before ++ (key, v') :: after)) := by
  -- the operator is reserved, so the object has been one of operators before
  have proper := h _ rfl (by simp [holdsOperators, change.isReserved])
  intro operators same _
  cases same
  exact forall_mem_replaced (fun e he => (proper e he).replaceOperand change)
    (change.wellFormedOperator _)

/-- An operand that has changed its order demands the same. -/
theorem demandHolds_replaceOperand (change : ReordersOperand key v v') :
    demandHolds find actual (.object (before ++ (key, v') :: after)) =
      demandHolds find actual (.object (before ++ (key, v) :: after)) := by
  have reserved (w : Value) : holdsOperators (before ++ (key, w) :: after) = true := by
    simp [holdsOperators, change.isReserved]
  have options : "$options" ≠ key := change.ne_of_mem (by simp)
  have regex : "$regex" ≠ key := change.ne_of_mem (by simp)
  rw [demandHolds, demandHolds, if_pos (reserved v), if_pos (reserved v'),
    has_replaced v v' options, has_replaced v v' regex, get?_replaced v v' options,
    operatorsHold_replace (change.operatorHolds_eq _)]

end Operand

/-- A change of order leaves a document well-formed. -/
theorem Reorders.wellFormed {d d' : Value} (change : Reorders d d') (h : WellFormed d) :
    WellFormed d' := by
  induction change with
  | documents combines order =>
    have inside := h.inside combines
    exact .list combines (fun d hd => inside d (order.mem_iff.2 hd)) h.tail
  | operand unreserved change =>
    exact .field unreserved ((h.demanded unreserved).replaceOperand change) h.tail
  | @inside key before after d d' rest combines change ih =>
    have inside := h.inside combines
    have changed : WellFormed d' := ih (inside d (by simp))
    exact .list combines (forall_mem_replaced inside changed) h.tail
  | later change ih => exact h.replaceTail (ih h.tail)

/-- A change of order in a well-formed document leaves its answers as they are. -/
theorem Reorders.documentHolds_eq {d d' : Value} (change : Reorders d d') (h : WellFormed d)
    (record : Value) :
    documentHolds Pattern.ofText record d' = documentHolds Pattern.ofText record d := by
  induction change with
  | documents combines order =>
    -- none of the documents can fail, so it does not matter which of them are looked at first
    have decided := fun d hd => (h.inside combines d hd).exists_documentHolds record
    rw [documentHolds, documentHolds, membersHold_cons, membersHold_combines combines,
      documentsHold_perm _ order decided, ← membersHold_combines combines, ← membersHold_cons]
  | operand unreserved change =>
    rw [documentHolds, documentHolds, membersHold_cons, Filter.membersHold_field unreserved,
      demandHolds_replaceOperand change, ← Filter.membersHold_field unreserved, ← membersHold_cons]
  | inside combines change ih =>
    have same := ih (h.inside combines _ (by simp))
    rw [documentHolds, documentHolds, membersHold_cons, membersHold_combines combines,
      documentsHold_replace _ same, ← membersHold_combines combines, ← membersHold_cons]
  | @later first rest rest' change ih =>
    have same := ih h.tail
    rw [documentHolds, documentHolds] at same ⊢
    rw [membersHold_cons first rest', membersHold_cons first rest, same]

/-- However its lists are rearranged, a well-formed document stays well-formed and says the same. -/
theorem Rearranges.documentHolds_eq {d d' : Value} (changes : Rearranges d d') (h : WellFormed d) :
    WellFormed d' ∧ ∀ record,
      documentHolds Pattern.ofText record d' = documentHolds Pattern.ofText record d := by
  induction changes with
  | refl => exact ⟨h, fun _ => rfl⟩
  | tail _ change ih =>
    obtain ⟨proper, same⟩ := ih
    exact ⟨change.wellFormed proper,
      fun record => (change.documentHolds_eq proper record).trans (same record)⟩

end Document

open Document

namespace Evaluator

/-- An evaluator of a well-formed document answers about every record, and the answer stays the same
when the lists of documents and of candidates in it, and those in the bounds of its fields, are brought
into another order, at any depth. -/
theorem matches?_of_wellFormed {d : Document} (proper : WellFormed d.toValue) (record : Value) :
    ∃ hit, (of d).matches? record = .ok hit ∧
      ∀ d' : Document, Rearranges d.toValue d'.toValue → (of d').matches? record = .ok hit := by
  have decides (d : Document) :
      (of d).matches? record = documentHolds Pattern.ofText record d.toValue := by
    rw [matches?_of, Document.matches?, Document.toValue, documentHolds]
  obtain ⟨hit, answered⟩ := proper.exists_documentHolds record
  refine ⟨hit, (decides d).trans answered, fun d' changes => ?_⟩
  rw [decides, (changes.documentHolds_eq proper).2, answered]

/-- The first document of the list decides about the record before its lists are rearranged, and the
second one afterwards. -/
theorem matches?_of_wellFormed_of_team :
    let named : Value := .object [("name", .object
      [("$options", .string "i"), ("$regex", .string "^al")])]
    let role (candidates : List Value) : Value := .object [("role", .object
      [("$in", .array candidates), ("$ne", .null)])]
    let d : Document := ⟨[("$or", .array [named, role [.string "admin", .string "editor"]]),
      ("meta", .object [("tier", .ofNat 1)])]⟩
    let d' : Document := ⟨[("$or", .array [role [.string "editor", .string "admin"], named]),
      ("meta", .object [("tier", .ofNat 1)])]⟩
    let record : Value := .object [("meta", .object [("tier", .ofNat 1)]),
      ("name", .string "ALICE"), ("role", .string "admin")]
    WellFormed d.toValue ∧ Rearranges d.toValue d'.toValue ∧
      (of d).matches? record = .ok true ∧ (of d').matches? record = .ok true := by
  intro named role d d' record
  have namedProper : WellFormed named := by
    refine .field rfl (fun operators same _ => ?_) .empty
    cases same
    simp only [List.forall_mem_cons, List.not_mem_nil, false_implies, implies_true, and_true]
    have beside : Value.string "i" = .string "i" := rfl
    exact ⟨.options rfl (by simp), .pattern beside rfl⟩
  have roleProper (candidates : List Value) : WellFormed (role candidates) := by
    refine .field rfl (fun operators same _ => ?_) .empty
    cases same
    simp only [List.forall_mem_cons, List.not_mem_nil, false_implies, implies_true, and_true]
    exact ⟨.membership candidates, .comparison .null (by decide)⟩
  have proper : WellFormed d.toValue := by
    refine .list (.inr rfl) ?_ (.field rfl (fun operators same reserved => ?_) .empty)
    · simp only [List.forall_mem_cons, List.not_mem_nil, false_implies, implies_true, and_true]
      exact ⟨namedProper, roleProper _⟩
    · cases same
      cases reserved
  have swapped : Rearranges d.toValue d'.toValue := by
    refine .tail (.single (.documents (.inr rfl) (.swap _ _ []))) ?_
    exact @Reorders.inside "$or" [] _ _ _ _ (.inr rfl)
      (@Reorders.operand "role" _ [] _ _ _ _ rfl (.candidates (.swap _ _ [])))
  obtain ⟨hit, answered, same⟩ := matches?_of_wellFormed proper record
  have found : (of d).matches? record = .ok true := by
    rw [matches?_of]
    rfl
  cases found.symm.trans answered
  exact ⟨proper, swapped, found, same d' swapped⟩

/-- The order of a list counts if it is part of a value that a field is not to equal. -/
theorem matches?_ne_of_compared_list :
    let unequal (items : List Value) : Document :=
      ⟨[("f", .object [("$ne", .object [("$in", .array items)])])]⟩
    let d := unequal [.ofNat 1, .ofNat 2]
    let d' := unequal [.ofNat 2, .ofNat 1]
    let record : Value := .object [("f", .object [("$in", .array [.ofNat 1, .ofNat 2])])]
    (WellFormed d.toValue ∧ WellFormed d'.toValue ∧ Shuffles d.toValue d'.toValue ∧
      (of d).matches? record = .ok false ∧ (of d').matches? record = .ok true) ∧
      ¬∀ (d d' : Document) (record : Value), WellFormed d.toValue → Shuffles d.toValue d'.toValue →
        (of d').matches? record = (of d).matches? record := by
  intro unequal d d' record
  have proper (items : List Value) : WellFormed (unequal items).toValue := by
    refine .field rfl (fun operators same _ => ?_) .empty
    cases same
    simp only [List.forall_mem_cons, List.not_mem_nil, false_implies, implies_true, and_true]
    exact .comparison _ (by decide)
  have shuffled : Shuffles d.toValue d'.toValue := by
    refine @Shuffles.member "f" [] [] _ _ (@Shuffles.member "$ne" [] [] _ _ ?_)
    exact @Shuffles.list "$in" [] [] _ _ (by decide) (.swap _ _ [])
  have before : (of d).matches? record = .ok false := by
    rw [matches?_of]
    rfl
  have after : (of d').matches? record = .ok true := by
    rw [matches?_of]
    rfl
  refine ⟨⟨proper _, proper _, shuffled, before, after⟩, fun claim => ?_⟩
  have same := claim d d' record (proper _) shuffled
  rw [before, after] at same
  cases same

end Evaluator

end SchemaFilter
