import SchemaFilter.Proofs.Query.Rendering

/-!
# Templates

The text of a clause and the rendering with operands in place are put together alike: from words
that both share, and from question marks in the one where the other has an operand. `Template` says
this of a text, the values for its question marks and a result. The words of SQL have no question
marks; the names of fields may have some, so a template lists the names that are written into it.

What is needed of a template does not mention filters any more: apart from those in names it has as
many question marks as values, and if there are none in names, filling in the values gives the
result.
-/

namespace SchemaFilter

namespace Clause

/-- A text with its question marks replaced from left to right by values, as long as there are
any. -/
def fill (write : Value → String) : List Char → List Value → List Char
  | [], _ => []
  | c :: rest, [] => c :: rest
  | c :: rest, v :: more =>
    if c = '?' then (write v).toList ++ fill write rest more else c :: fill write rest (v :: more)

def filled (write : Value → String) (c : Clause) : String :=
  String.ofList (fill write c.text.toList c.parameters)

end Clause

/-- A text for which a list of values is meant, the result of filling them in, and the names in the
text. -/
inductive Template (write : Value → String) :
    String → List Value → String → List String → Prop where
  | word (text : String) (plain : text.toList.count '?' = 0) : Template write text [] text []
  | name (text : String) : Template write text [] text [text]
  | mark (v : Value) : Template write "?" [v] (write v) []
  | append {text text' result result' : String} {values values' : List Value}
      {names names' : List String} (first : Template write text values result names)
      (second : Template write text' values' result' names') :
      Template write (text ++ text') (values ++ values') (result ++ result') (names ++ names')

namespace Template

variable {write : Value → String} {text result : String} {values : List Value}
variable {names : List String}

/-- Every question mark is meant for a value or belongs to a name. -/
theorem count_eq (h : Template write text values result names) :
    text.toList.count '?' = values.length + (names.flatMap String.toList).count '?' := by
  induction h with
  | word text plain => simpa using plain
  | name text => simp
  | mark v => rfl
  | append _ _ ih ih' =>
    rw [String.toList_append, List.count_append, ih, ih', List.length_append, List.flatMap_append,
      List.count_append]
    omega

theorem fill_of_count_eq_zero {cs : List Char} (h : cs.count '?' = 0) (rest : List Char)
    (values : List Value) :
    Clause.fill write (cs ++ rest) values = cs ++ Clause.fill write rest values := by
  induction cs with
  | nil => rfl
  | cons c cs ih =>
    have other : c ≠ '?' := by
      intro same
      simp [same] at h
    have tail := ih (by simpa [other] using h)
    cases values with
    | nil => cases rest <;> simp [Clause.fill]
    | cons v more => simp [Clause.fill, other, tail]

/-- If no name has a question mark, the values end up where they are meant. What follows is filled
in with what follows the values. -/
theorem fill_append (h : Template write text values result names)
    (clean : ∀ name ∈ names, '?' ∉ name.toList) (rest : List Char) (more : List Value) :
    Clause.fill write (text.toList ++ rest) (values ++ more) =
      result.toList ++ Clause.fill write rest more := by
  induction h generalizing rest more with
  | word text plain => exact fill_of_count_eq_zero plain rest more
  | name text =>
    have plain : text.toList.count '?' = 0 := List.count_eq_zero.2 (clean text (by simp))
    exact fill_of_count_eq_zero plain rest more
  | mark v => rfl
  | append _ _ ih ih' =>
    -- the second part is what follows the first one, and what follows both follows it
    rw [List.forall_mem_append] at clean
    rw [String.toList_append, String.toList_append, List.append_assoc, List.append_assoc,
      List.append_assoc, ih clean.1, ih' clean.2]

theorem fill_eq (h : Template write text values result names)
    (clean : ∀ name ∈ names, '?' ∉ name.toList) :
    Clause.fill write text.toList values = result.toList := by
  have filled := h.fill_append clean [] []
  simpa [Clause.fill] using filled

theorem preceded (h : Template write text values result names) (text' : String)
    (plain : text'.toList.count '?' = 0) :
    Template write (text' ++ text) values (text' ++ result) names :=
  (word text' plain).append h

theorem followed (h : Template write text values result names) (text' : String)
    (plain : text'.toList.count '?' = 0) :
    Template write (text ++ text') values (result ++ text') names := by
  have both := h.append (word text' plain)
  rwa [List.append_nil, List.append_nil] at both

/-- Templates with a word between them are a template. -/
theorem intercalate {ι : Type} {separator : String} (plain : separator.toList.count '?' = 0)
    {text result : ι → String} {values : ι → List Value} {names : ι → List String} {list : List ι}
    (h : ∀ i ∈ list, Template write (text i) (values i) (result i) (names i)) :
    Template write (separator.intercalate (list.map text)) (list.flatMap values)
      (separator.intercalate (list.map result)) (list.flatMap names) := by
  induction list with
  | nil => exact word "" rfl
  | cons i rest ih =>
    have head := h i List.mem_cons_self
    have tail := ih fun j hj => h j (List.mem_cons_of_mem i hj)
    cases rest with
    | nil => simpa using head
    | cons j rest =>
      have both := (head.followed separator plain).append tail
      simpa only [List.map_cons, String.intercalate_cons_cons, List.flatMap_cons] using both

end Template

/-! ## Filters -/

open Clause

namespace Condition

/-- The name of the field, if it gets into the text. Membership in the empty list does without. -/
def writtenNames (c : Condition) : List String :=
  match c.operator, c.operand with
  | .isIn, some (.array []) => []
  | _, _ => [c.field]

variable {write : Value → String}

theorem template_comparison (field : String) {sign : String} (plain : sign.toList.count '?' = 0)
    (v : Value) :
    Template write (comparison field sign "?") [v] (comparison field sign (write v)) [field] :=
  ((((Template.name field).followed " " (by decide)).followed sign plain).followed " "
    (by decide)).append (.mark v)

theorem template_marks (values : List Value) :
    Template write (", ".intercalate (values.map mark)) values
      (", ".intercalate (values.map write)) [] := by
  have separated : Template write (", ".intercalate (values.map mark))
      (values.flatMap fun v => [v]) (", ".intercalate (values.map write))
      (values.flatMap fun _ => []) :=
    .intercalate (by decide) fun v _ => .mark v
  have nameless : (values.flatMap fun _ => ([] : List String)) = [] :=
    List.flatMap_eq_nil_iff.2 fun _ _ => rfl
  rwa [List.flatMap_singleton', nameless] at separated

/-- A condition with question marks is a template for its operands. -/
theorem template {c : Condition} (h : c.refusal? = none) :
    Template write (c.rendered mark) c.operands (c.rendered write) c.writtenNames := by
  obtain ⟨field, op, operand⟩ := c
  cases op with
  | eq | neq | gt | lt | gte | lte =>
    cases operand with
    | none => cases h
    | some v => exact template_comparison field (by decide) v
  | isIn =>
    match operand with
    | some (.array []) => exact .word "1=0" (by decide)
    | some (.array (v :: rest)) =>
      exact (((Template.name field).followed " IN (" (by decide)).append
        (template_marks (v :: rest))).followed ")" (by decide)
    | none | some .null | some (.bool _) | some (.number _) | some (.string _)
    | some (.object _) => cases h
  | between =>
    match operand with
    | some (.array [low, high]) =>
      exact ((((Template.name field).followed " BETWEEN " (by decide)).append
        (.mark low)).followed " AND " (by decide)).append (.mark high)
    | some (.array []) | some (.array [_]) | some (.array (_ :: _ :: _ :: _)) => cases h
    | none | some .null | some (.bool _) | some (.number _) | some (.string _)
    | some (.object _) => cases h
  | contains | startsWith | endsWith =>
    cases operand with
    | none => cases h
    | some v => exact template_comparison field (by decide) _
  | isNull => exact (Template.name field).followed " IS NULL" (by decide)
  | isNotNull => exact (Template.name field).followed " IS NOT NULL" (by decide)

end Condition

namespace Filter

def writtenNames (conditions : List Condition) : List String :=
  conditions.flatMap Condition.writtenNames

theorem writtenNames_append (first second : List Condition) :
    writtenNames (first ++ second) = writtenNames first ++ writtenNames second :=
  List.flatMap_append

theorem operands_flatMap (list : List Filter) :
    operands (list.flatMap leaves) = list.flatMap fun f => operands f.leaves :=
  List.flatMap_assoc

theorem writtenNames_flatMap (list : List Filter) :
    writtenNames (list.flatMap leaves) = list.flatMap fun f => writtenNames f.leaves :=
  List.flatMap_assoc

variable {write : Value → String}

/-- Whether the text of a filter is a template for the operands of its conditions. -/
def IsTemplate (write : Value → String) (f : Filter) : Prop :=
  Template write (f.rendered mark) (operands f.leaves) (f.rendered write) (writtenNames f.leaves)

/-- A branch that is absent from both texts, or a template. -/
inductive BranchTemplate (write : Value → String) :
    Option String → List Value → Option String → List String → Prop where
  | absent : BranchTemplate write none [] none []
  | present {text result : String} {values : List Value} {names : List String}
      (h : Template write text values result names) :
      BranchTemplate write (some text) values (some result) names

theorem BranchTemplate.group {text text' result result' : Option String}
    {values values' : List Value} {names names' : List String}
    (first : BranchTemplate write text values result names)
    (second : BranchTemplate write text' values' result' names') :
    Template write (renderedGroup text text') (values ++ values') (renderedGroup result result')
      (names ++ names') := by
  cases first with
  | absent =>
    cases second with
    | absent => exact .word "1=1" (by decide)
    | present right => exact right
  | present left =>
    cases second with
    | absent =>
      rw [List.append_nil, List.append_nil]
      exact left
    | present right =>
      have opened := (left.preceded "(" (by decide)).followed " AND " (by decide)
      exact (opened.append right).followed ")" (by decide)

theorem branchTemplate (word empty : String) (plainWord : word.toList.count '?' = 0)
    (plainEmpty : empty.toList.count '?' = 0) {branch : Option (List Filter)}
    (h : ∀ f ∈ children branch, f.IsTemplate write) :
    BranchTemplate write (renderedBranch mark word empty branch)
      (operands ((children branch).flatMap leaves)) (renderedBranch write word empty branch)
      (writtenNames ((children branch).flatMap leaves)) := by
  cases branch with
  | none =>
    rw [renderedBranch, renderedBranch]
    exact .absent
  | some list =>
    rw [children_some] at h ⊢
    cases list with
    | nil =>
      rw [renderedBranch, renderedBranch]
      exact .present (.word empty plainEmpty)
    | cons child rest =>
      have separated := Template.intercalate plainWord h
      rw [← writtenNames_flatMap, ← operands_flatMap] at separated
      rw [renderedBranch_some (List.cons_ne_nil child rest),
        renderedBranch_some (List.cons_ne_nil child rest)]
      exact .present ((separated.preceded "(" (by decide)).followed ")" (by decide))

/-- A filter whose conditions compile is a template for their operands. -/
theorem isTemplate {f : Filter} (h : ∀ c ∈ f.leaves, c.refusal? = none) :
    f.IsTemplate write := by
  induction f with
  | condition c =>
    have leaf : Template write _ _ _ _ := Condition.template (h c (by simp))
    rw [IsTemplate, leaves_condition, operands, List.flatMap_singleton, writtenNames,
      List.flatMap_singleton]
    exact leaf
  | group conjuncts disjuncts first second =>
    rw [forall_leaves_group] at h
    have conjunction := branchTemplate " AND " "1=1" (by decide) (by decide)
      fun f hf => first f hf (h.1 f hf)
    have disjunction := branchTemplate " OR " "1=0" (by decide) (by decide)
      fun f hf => second f hf (h.2 f hf)
    rw [IsTemplate, leaves_group, operands_append, writtenNames_append, rendered, rendered]
    exact conjunction.group disjunction

theorem template_of_clause {filter : Option Filter} {c : Clause}
    (compiled : clause filter = .ok c) :
    Template write c.text c.parameters (rendering write filter)
      (writtenNames (allLeaves filter)) := by
  obtain ⟨fit, rfl⟩ := clause_eq_ok_iff.1 compiled
  cases filter with
  | none => exact .word "1=1" (by decide)
  | some f => exact isTemplate fit

end Filter

end SchemaFilter
