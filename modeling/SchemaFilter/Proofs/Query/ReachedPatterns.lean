import SchemaFilter.Proofs.Query.DocumentMeaning
import SchemaFilter.Proofs.Value.Canonical

/-!
# Reached patterns

An evaluator collects the patterns of its document by one pass over it and evaluates by another. The
first pass is not to miss a pattern that the second one needs: whatever evaluation reaches is in the
table, with just what building it gives. So it makes no difference what would be done with a pattern
that the table lacks, and selecting records with the evaluator is the same as deciding about each of
them by the document alone.

A pattern is reached after the members, documents and operators before it have been gone through
without an answer, which is what `Document.Reaches` says.
-/

namespace SchemaFilter

/-! ## What evaluation reaches -/

namespace Document

/-- Whether the operators for a field value reach a pattern: those before it hold, and the pattern
and its options are texts. -/
def OperatorsReach (actual : Value) (pattern options : String) (operators : Members) : Prop :=
  optionsText (operators.get? "$options") = .ok options ∧
    ∃ before after, operators = before ++ ("$regex", .string pattern) :: after ∧
      operatorsHold Pattern.ofText actual (operators.get? "$options") before = .ok true

/-- Whether deciding about a record by the members of a document reaches a pattern. -/
inductive Reaches (record : Value) (pattern options : String) : Members → Prop where
  /-- in what is demanded of a field -/
  | field {key : String} {operators rest : Members} (unreserved : isReserved key = false)
      (inside : OperatorsReach (record.field key) pattern options operators) :
      Reaches record pattern options ((key, .object operators) :: rest)
  /-- in a document of a list that is not decided by the documents before -/
  | branch {conjunction : Bool} {before after : List Value} {members rest : Members}
      (undecided : documentsHold Pattern.ofText record conjunction before = .ok conjunction)
      (inside : Reaches record pattern options members) :
      Reaches record pattern options
        ((Filter.branchKey conjunction, .array (before ++ .object members :: after)) :: rest)
  /-- behind a member that holds -/
  | later {first : String × Value} {rest : Members}
      (holds : membersHold Pattern.ofText record [first] = .ok true)
      (inside : Reaches record pattern options rest) :
      Reaches record pattern options (first :: rest)

variable {find : PatternSource} {record actual : Value}

theorem membersHold_singleton (key : String) (demand : Value) :
    membersHold find record [(key, demand)] =
      if key = "$and" then listHolds find record "$and" true demand
      else if key = "$or" then listHolds find record "$or" false demand
      else if isReserved key then .error (.unsupportedOperator key)
      else demandHolds find (record.field key) demand := by
  have nothing : membersHold find record [] = .ok true := by rw [membersHold]
  have same (answer : Except QueryError Bool) :
      (answer >>= fun hit => if hit then membersHold find record [] else .ok false) = answer := by
    rw [nothing]
    rcases answer with e | (_ | _) <;> rfl
  rw [membersHold]
  split
  · exact same _
  · split
    · exact same _
    · split <;> exact same _

/-- The rest of the members counts only if the first one holds. -/
theorem membersHold_cons (first : String × Value) (rest : Members) :
    membersHold find record (first :: rest) =
      membersHold find record [first] >>= fun hit =>
        if hit then membersHold find record rest else .ok false := by
  obtain ⟨key, demand⟩ := first
  rw [membersHold_singleton, membersHold]
  split
  · rfl
  · split
    · rfl
    · split <;> rfl

/-! ## Evaluation needs only what it reaches -/

/-- A pattern is looked for only if it is a text with texts for options. -/
theorem patternHolds_eq_of_agree (operand : Value) (options : Option Value)
    (agree : ∀ pattern text, operand = .string pattern → optionsText options = .ok text →
      find pattern text = Pattern.ofText pattern text) :
    patternHolds find actual operand options =
      patternHolds Pattern.ofText actual operand options := by
  cases operand with
  | string pattern =>
    cases h : optionsText options with
    | error e => simp only [patternHolds, h]; rfl
    | ok text => simp only [patternHolds, h, Outcome.ok_bind, agree pattern text rfl h]
  | _ => rfl

/-- Only a pattern depends on how patterns are found. -/
theorem operatorHolds_eq_of_agree (options : Option Value) (key : String) (operand : Value)
    (agree : ∀ pattern text, key = "$regex" → operand = .string pattern →
      optionsText options = .ok text → find pattern text = Pattern.ofText pattern text) :
    operatorHolds find actual options key operand =
      operatorHolds Pattern.ofText actual options key operand := by
  unfold operatorHolds
  split
  case h_7 =>
    exact patternHolds_eq_of_agree operand options fun pattern text => agree pattern text rfl
  all_goals rfl

theorem operatorsHold_eq_of_agree (options : Option Value) (operators : Members)
    (agree : ∀ before pattern after text,
      operators = before ++ ("$regex", .string pattern) :: after →
      operatorsHold Pattern.ofText actual options before = .ok true →
      optionsText options = .ok text → find pattern text = Pattern.ofText pattern text) :
    operatorsHold find actual options operators =
      operatorsHold Pattern.ofText actual options operators := by
  induction operators with
  | nil => rfl
  | cons first rest ih =>
    obtain ⟨key, operand⟩ := first
    -- the operators after the first one are looked at only if it holds
    have head : operatorHolds find actual options key operand =
        operatorHolds Pattern.ofText actual options key operand := by
      apply operatorHolds_eq_of_agree
      rintro pattern text rfl rfl htext
      exact agree [] pattern rest text rfl rfl htext
    rw [operatorsHold, operatorsHold, head]
    cases h : operatorHolds Pattern.ofText actual options key operand with
    | error e => rfl
    | ok hit =>
      cases hit with
      | false => rfl
      | true =>
        refine ih fun before pattern after text same passed htext => ?_
        refine agree ((key, operand) :: before) pattern after text (by rw [same]; rfl) ?_ htext
        rw [operatorsHold, h]
        exact passed

theorem demandHolds_eq_of_agree (demand : Value)
    (agree : ∀ operators pattern text, demand = .object operators →
      OperatorsReach actual pattern text operators →
      find pattern text = Pattern.ofText pattern text) :
    demandHolds find actual demand = demandHolds Pattern.ofText actual demand := by
  cases demand with
  | object operators =>
    have same : operatorsHold find actual (Members.get? operators "$options") operators =
        operatorsHold Pattern.ofText actual (Members.get? operators "$options") operators :=
      operatorsHold_eq_of_agree _ operators fun before pattern after text split passed htext =>
        agree operators pattern text rfl ⟨htext, before, after, split, passed⟩
    simp only [demandHolds, same]
  | _ => rfl

/-- Whether a way to find patterns finds what evaluation reaches as building it does. -/
def FindsReached (find : PatternSource) (record : Value) (members : Members) : Prop :=
  ∀ pattern options, Reaches record pattern options members →
    find pattern options = Pattern.ofText pattern options

/-- The same for the documents of a list. -/
def FindsReachedIn (find : PatternSource) (record : Value) (conjunction : Bool)
    (documents : List Value) : Prop :=
  ∀ before members after, documents = before ++ .object members :: after →
    documentsHold Pattern.ofText record conjunction before = .ok conjunction →
      FindsReached find record members

theorem FindsReached.branch {conjunction : Bool} {list : Value} {rest : Members}
    (finds : FindsReached find record ((Filter.branchKey conjunction, list) :: rest))
    {documents : List Value} (same : list = .array documents) :
    FindsReachedIn find record conjunction documents := by
  subst same
  rintro before members after rfl undecided pattern options reached
  exact finds pattern options (.branch undecided reached)

theorem FindsReached.later {first : String × Value} {rest : Members}
    (finds : FindsReached find record (first :: rest))
    (holds : membersHold Pattern.ofText record [first] = .ok true) :
    FindsReached find record rest :=
  fun pattern options reached => finds pattern options (.later holds reached)

/-- A single member looks only for what is reached, if this is so for the list that may stand in
it. -/
theorem membersHold_singleton_eq_of_finds {key : String} {demand : Value} {rest : Members}
    (finds : FindsReached find record ((key, demand) :: rest))
    (list : ∀ conjunction, key = Filter.branchKey conjunction →
      listHolds find record key conjunction demand =
        listHolds Pattern.ofText record key conjunction demand) :
    membersHold find record [(key, demand)] =
      membersHold Pattern.ofText record [(key, demand)] := by
  rw [membersHold_singleton, membersHold_singleton]
  split
  · next conjunction =>
    subst conjunction
    exact list true rfl
  · split
    · next disjunction =>
      subst disjunction
      exact list false rfl
    · split
      · rfl
      · next unreserved =>
        apply demandHolds_eq_of_agree
        rintro operators pattern text rfl reached
        exact finds pattern text (.field (by simpa using unreserved) reached)

mutual

/-- Evaluation is the same with any way to find patterns that finds those that are reached. -/
theorem membersHold_eq_of_finds : (members : List (String × Value)) →
    FindsReached find record members →
      membersHold find record members = membersHold Pattern.ofText record members
  | [], _ => by simp [membersHold]
  | (key, demand) :: rest, finds => by
    have head : membersHold find record [(key, demand)] =
        membersHold Pattern.ofText record [(key, demand)] := by
      refine membersHold_singleton_eq_of_finds finds fun conjunction same => ?_
      subst same
      exact listHolds_eq_of_finds _ conjunction demand fun documents same => finds.branch same
    rw [membersHold_cons, head, membersHold_cons _ rest]
    cases h : membersHold Pattern.ofText record [(key, demand)] with
    | error e => simp only [Outcome.error_bind]
    | ok hit =>
      cases hit with
      | false => simp only [Outcome.ok_bind, Bool.false_eq_true, if_false]
      | true => exact membersHold_eq_of_finds rest (finds.later h)

theorem listHolds_eq_of_finds (key : String) (conjunction : Bool) : (list : Value) →
    (∀ documents, list = .array documents → FindsReachedIn find record conjunction documents) →
      listHolds find record key conjunction list =
        listHolds Pattern.ofText record key conjunction list
  | .array documents, finds => by
    simp only [listHolds]
    exact documentsHold_eq_of_finds conjunction documents (finds documents rfl)
  | .null, _ | .bool _, _ | .number _, _ | .string _, _ | .object _, _ => by simp [listHolds]

theorem documentsHold_eq_of_finds (conjunction : Bool) : (documents : List Value) →
    FindsReachedIn find record conjunction documents →
      documentsHold find record conjunction documents =
        documentsHold Pattern.ofText record conjunction documents
  | [], _ => by simp [documentsHold]
  | d :: rest, finds => by
    have head := documentHolds_eq_of_finds d fun members same =>
      finds [] members rest (by rw [same]; rfl) rfl
    rw [documentsHold, documentsHold, head]
    cases h : documentHolds Pattern.ofText record d with
    | error e => simp only [Outcome.error_bind]
    | ok answer =>
      by_cases same : answer = conjunction
      · simp only [Outcome.ok_bind, if_pos same]
        apply documentsHold_eq_of_finds conjunction rest
        intro before members after split undecided
        refine finds (d :: before) members after (by rw [split]; rfl) ?_
        rw [documentsHold, h, Outcome.ok_bind, if_pos same, undecided]
      · simp only [Outcome.ok_bind, if_neg same]

theorem documentHolds_eq_of_finds : (d : Value) →
    (∀ members, d = .object members → FindsReached find record members) →
      documentHolds find record d = documentHolds Pattern.ofText record d
  | .object members, finds => by
    simp only [documentHolds]
    exact membersHold_eq_of_finds members (finds members rfl)
  | .null, _ | .bool _, _ | .number _, _ | .string _, _ | .array _, _ => by simp [documentHolds]

end

end Document

/-! ## The table has what evaluation reaches -/

namespace PatternTable

def Has (key : String × String) (table : PatternTable) : Prop :=
  (List.lookup key table).isSome

theorem survives_has (key : String × String) : Survives (Has key) := by
  intro table operators h
  unfold addOperators
  split
  · split
    · exact h
    · rw [Has, List.lookup_cons]
      split
      · rfl
      · exact h
  · exact h

variable {record : Value} {pattern options : String} {members : Members}

theorem has_addOperators {operators : Members}
    (hpattern : operators.get? "$regex" = some (.string pattern))
    (hoptions : Document.optionsText (operators.get? "$options") = .ok options)
    (table : PatternTable) : (table.addOperators operators).Has (pattern, options) := by
  unfold addOperators
  rw [hpattern, hoptions]
  by_cases present : (List.lookup (pattern, options) table).isSome
  · simp only [if_pos present]
    exact present
  · simp only [if_neg present, Has, List.lookup_cons_self, Option.isSome_some]

/-- What a document always adds to a table is added with any list around it. -/
theorem has_addDocuments {key : String × String}
    (adds : ∀ table : PatternTable, (table.addMembers members).Has key) (before after : List Value)
    (table : PatternTable) :
    (table.addDocuments (before ++ .object members :: after)).Has key := by
  induction before generalizing table with
  | nil =>
    rw [List.nil_append, addDocuments, addDocument]
    exact (survives_has key).addDocuments (adds table) after
  | cons d rest ih =>
    rw [List.cons_append, addDocuments]
    exact ih (table.addDocument d)

/-- Every pattern that evaluation reaches is collected. -/
theorem has_of_reaches (reached : Document.Reaches record pattern options members)
    (canonical : Value.Canonical (.object members)) (table : PatternTable) :
    (table.addMembers members).Has (pattern, options) := by
  induction reached generalizing table with
  | @field key operators rest unreserved inside =>
    obtain ⟨hoptions, before, after, split, -⟩ := inside
    have sorted := (canonical.member List.mem_cons_self).sorted
    have hpattern : operators.get? "$regex" = some (.string pattern) :=
      sorted.get?_of_mem (by simp [split])
    rw [addMembers, addDemand]
    exact (survives_has _).addMembers (has_addOperators hpattern hoptions table) rest
  | @branch conjunction before after members rest undecided inside ih =>
    have list : Value.Canonical (.array (before ++ .object members :: after)) :=
      canonical.member List.mem_cons_self
    have nested : (Filter.branchKey conjunction == "$and" ||
        Filter.branchKey conjunction == "$or") = true := by
      cases conjunction <;> rfl
    rw [addMembers, nested, addDemand, if_pos rfl]
    exact (survives_has _).addMembers
      (has_addDocuments (ih (list.item (by simp))) before after table) rest
  | @later first rest holds inside ih =>
    obtain ⟨key, demand⟩ := first
    rw [addMembers]
    exact ih canonical.tail _

theorem Faithful.lookup_of_has {table : PatternTable} (h : table.Faithful)
    (has : table.Has (pattern, options)) :
    List.lookup (pattern, options) table = some (Pattern.ofText pattern options) := by
  obtain ⟨found, hfound⟩ := Option.isSome_iff_exists.1 has
  rw [hfound]
  exact congrArg some (h _ (mem_of_lookup hfound))

/-- Finds a pattern in the table, or elsewhere if the table lacks it. -/
def sourceElse (table : PatternTable) (other : PatternSource) : PatternSource :=
  fun pattern options => (List.lookup (pattern, options) table).getD (other pattern options)

/-- An evaluator builds the patterns that its table lacks. -/
theorem source_eq_sourceElse (table : PatternTable) :
    table.source = table.sourceElse Pattern.ofText := by
  funext pattern options
  unfold source sourceElse
  cases List.lookup (pattern, options) table <;> rfl

end PatternTable

/-! ## Selecting records -/

section Filtering

variable {α ε : Type} {test : α → Except ε Bool} {list : List α}

theorem filterChecked_eq_ok_iff {kept : List α} :
    filterChecked test list = .ok kept ↔
      (∀ a ∈ list, ∃ hit, test a = .ok hit) ∧
        kept = list.filter fun a => (test a).toOption = some true := by
  induction list generalizing kept with
  | nil => simp [filterChecked, eq_comm]
  | cons a rest ih =>
    simp only [filterChecked, Outcome.bind_eq_ok_iff, Outcome.pure_eq_ok, Except.ok.injEq, ih,
      List.forall_mem_cons, List.filter_cons]
    constructor
    · rintro ⟨hit, hhit, others, ⟨succeed, rfl⟩, rfl⟩
      refine ⟨⟨⟨hit, hhit⟩, succeed⟩, ?_⟩
      cases hit <;> simp [hhit, Except.toOption]
    · rintro ⟨⟨⟨hit, hhit⟩, succeed⟩, rfl⟩
      refine ⟨hit, hhit, _, ⟨succeed, rfl⟩, ?_⟩
      cases hit <;> simp [hhit, Except.toOption]

/-- Filtering by a test that always answers keeps what the answers say. -/
theorem filterChecked_of_answers {answer : α → Bool} (h : ∀ a, test a = .ok (answer a)) :
    filterChecked test list = .ok (list.filter answer) := by
  refine filterChecked_eq_ok_iff.2 ⟨fun a _ => ⟨answer a, h a⟩, ?_⟩
  apply List.filter_congr
  intro a _
  simp [h a, Except.toOption]

/-- Filtering fails with the failure of the test on the first entry on which it fails. -/
theorem filterChecked_eq_error_iff {e : ε} :
    filterChecked test list = .error e ↔
      ∃ before a after, list = before ++ a :: after ∧ (∀ b ∈ before, ∃ hit, test b = .ok hit) ∧
        test a = .error e := by
  induction list with
  | nil => simp [filterChecked]
  | cons a rest ih =>
    simp only [filterChecked, Outcome.bind_eq_error_iff, Outcome.pure_eq_ok, reduceCtorEq,
      and_false, exists_false, or_false, ih]
    constructor
    · rintro (failed | ⟨hit, hhit, before, b, after, rfl, succeed, failed⟩)
      · exact ⟨[], a, rest, rfl, nofun, failed⟩
      · exact ⟨a :: before, b, after, rfl, List.forall_mem_cons.2 ⟨⟨hit, hhit⟩, succeed⟩, failed⟩
    · rintro ⟨before, b, after, split, succeed, failed⟩
      cases before with
      | nil =>
        cases split
        exact .inl failed
      | cons first before =>
        cases split
        obtain ⟨⟨hit, hhit⟩, succeed⟩ := List.forall_mem_cons.1 succeed
        exact .inr ⟨hit, hhit, before, b, after, rfl, succeed, failed⟩

end Filtering

namespace Evaluator

theorem select_of (d : Document) (records : List Value) :
    (of d).select records = filterChecked (fun entry => d.matches? entry.1) records.zipIdx := by
  have decides : (fun entry : Value × Nat => (of d).matches? entry.1) =
      fun entry => d.matches? entry.1 := by simp
  rw [← decides]
  rfl

/-- An evaluator has built every pattern that its document reaches. -/
theorem patterns_of_reaches {d : Document} (canonical : d.toValue.Canonical) {record : Value}
    {pattern options : String} (reached : Document.Reaches record pattern options d.members) :
    List.lookup (pattern, options) (of d).patterns = some (Pattern.ofText pattern options) :=
  (PatternTable.faithful_ofDocument d).lookup_of_has
    (PatternTable.has_of_reaches reached canonical [])

/-- Selecting records with an evaluator is deciding about each of them by its document, where every
pattern is built when it is met: the records that match are returned in their order, or else the
failure of the first record about which the document cannot decide. Objects of a document have no
key twice; then every pattern that is reached has been built before, and it does not matter what
would be done with one that has not. -/
theorem select_eq_deciding_each (d : Document) (records : List Value) :
    (∀ found, (of d).select records = .ok found ↔
      (∀ record ∈ records, ∃ hit, d.matches? record = .ok hit) ∧
        found = records.zipIdx.filter fun entry => (d.matches? entry.1).toOption = some true) ∧
    (∀ e, (of d).select records = .error e ↔
      ∃ before record after, records = before ++ record :: after ∧
        (∀ r ∈ before, ∃ hit, d.matches? r = .ok hit) ∧ d.matches? record = .error e) ∧
    (d.toValue.Canonical → ∀ record,
      (∀ pattern options, Document.Reaches record pattern options d.members →
        List.lookup (pattern, options) (of d).patterns = some (Pattern.ofText pattern options)) ∧
      ∀ other, Document.membersHold ((of d).patterns.sourceElse other) record d.members =
        (of d).matches? record) := by
  refine ⟨fun found => ?_, fun e => ?_, fun canonical record => ?_⟩
  · have each : (∀ entry ∈ records.zipIdx, ∃ hit, d.matches? entry.1 = .ok hit) ↔
        ∀ record ∈ records, ∃ hit, d.matches? record = .ok hit := by
      conv => rhs; rw [← List.zipIdx_map_fst 0 records, List.forall_mem_map]
    rw [select_of, filterChecked_eq_ok_iff, each]
  · rw [select_of, filterChecked_eq_error_iff]
    constructor
    · rintro ⟨before, entry, after, split, succeed, failed⟩
      refine ⟨before.map Prod.fst, entry.1, after.map Prod.fst, ?_, ?_, failed⟩
      · rw [← List.zipIdx_map_fst 0 records, split, List.map_append, List.map_cons]
      · exact List.forall_mem_map.2 succeed
    · rintro ⟨before, record, after, rfl, succeed, failed⟩
      refine ⟨before.zipIdx, (record, before.length), after.zipIdx (before.length + 1), ?_, ?_,
        failed⟩
      · simp [List.zipIdx_append, List.zipIdx_cons]
      · intro entry h
        exact succeed entry.1 (List.fst_mem_of_mem_zipIdx h)
  -- the table has all that is reached, so what is done about other patterns does not matter
  · have finds (other : PatternSource) :
        Document.FindsReached ((of d).patterns.sourceElse other) record d.members := by
      intro pattern options reached
      rw [PatternTable.sourceElse, patterns_of_reaches canonical reached, Option.getD_some]
    refine ⟨fun pattern options reached => patterns_of_reaches canonical reached, fun other => ?_⟩
    rw [Document.membersHold_eq_of_finds _ (finds other), matches?,
      PatternTable.source_eq_sourceElse]
    exact (Document.membersHold_eq_of_finds _ (finds Pattern.ofText)).symm

/-- A document with a pattern that cannot be built, which is met for the second record only, since
the first one has the name that is looked for before. -/
theorem select_eq_deciding_each_of_bad_pattern :
    let first : Value := .object [("name", .object [("$regex", .string "li")])]
    let second : Members := [("code", .object [("$regex", .string "(")])]
    let d : Document := ⟨[("$or", .array [first, .object second])]⟩
    let alice : Value := .object [("name", .string "Alice")]
    let bob : Value := .object [("name", .string "Bob")]
    d.toValue.Canonical ∧ Document.Reaches bob "(" "" d.members ∧
      List.lookup ("(", "") (of d).patterns = some (.error (.invalidPattern "(")) ∧
      (of d).select [alice] = .ok [(alice, 0)] ∧
      (of d).select [alice, bob, alice] = .error (.invalidPattern "(") := by
  intro first second d alice bob
  have canonical : d.toValue.Canonical := by
    refine .single _ (.array ?_)
    simp only [List.forall_mem_cons, List.not_mem_nil, false_implies, implies_true, and_true]
    exact ⟨.single _ (.single _ (.string _)), .single _ (.single _ (.string _))⟩
  have reached : Document.Reaches bob "(" "" d.members :=
    @Document.Reaches.branch bob "(" "" false [first] [] second [] rfl
      (.field rfl ⟨rfl, [], [], rfl, rfl⟩)
  have found : d.matches? alice = .ok true := rfl
  have failed : d.matches? bob = .error (.invalidPattern "(") := rfl
  refine ⟨canonical, reached, ?_, ?_, ?_⟩
  · exact ((select_eq_deciding_each d []).2.2 canonical bob).1 _ _ reached
  · refine ((select_eq_deciding_each d [alice]).1 _).2 ⟨?_, ?_⟩
    · exact List.forall_mem_singleton.2 ⟨true, found⟩
    · simp [found, Except.toOption]
  · exact ((select_eq_deciding_each d [alice, bob, alice]).2.1 _).2
      ⟨[alice], bob, [alice], rfl, List.forall_mem_singleton.2 ⟨true, found⟩, failed⟩

end Evaluator

end SchemaFilter
