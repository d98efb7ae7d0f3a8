import Mathlib.Data.List.Lex
import SchemaFilter.Proofs.Filter.Blame
import SchemaFilter.Proofs.Filter.Grammar

/-!
# The paths of faults

The faults of a value that is rejected are listed in tree order, no two of them have the same path,
and every path leads to an element of the value. Only the last key of a path may be missing from its
object.

The places of faults are found in two steps: the findings of the value have places, and the faults of a
condition lie at parts of it. That the faults of one finding precede those of the next takes more than
the order of the two places, since a whole precedes its own parts; nothing is found below a condition.
-/

namespace SchemaFilter

open SchemaFilter.Filter

/-! ## Elements of values -/

namespace Value

def at? : Value → Filter.Place → Option Value
  | v, [] => some v
  | .object members, .key name :: place => (Members.get? members name).bind (at? · place)
  | .array items, .index i :: place => items[i]?.bind (at? · place)
  | _, _ :: _ => none

/-- Whether a place can be followed through a value. The last key may be missing from the object in
which it is looked up. -/
def Resolves (v : Value) (place : Filter.Place) : Prop :=
  (∃ w, v.at? place = some w) ∨
    ∃ whole name members, place = whole ++ [.key name] ∧ v.at? whole = some (.object members)

@[simp] theorem at?_nil (v : Value) : v.at? [] = some v := by
  cases v <;> rfl

theorem at?_append (v : Value) (place other : Filter.Place) :
    v.at? (place ++ other) = (v.at? place).bind (·.at? other) := by
  induction place generalizing v with
  | nil => simp
  | cons step place ih =>
    cases step with
    | key name =>
      cases v with
      | object members => cases h : Members.get? members name <;> simp [at?, h, ih]
      | _ => rfl
    | index i =>
      cases v with
      | array items => cases h : items[i]? <;> simp [at?, h, ih]
      | _ => rfl

/-- What can be followed through an element can be followed through the whole. -/
theorem Resolves.below {v w : Value} {place other : Filter.Place} (h : w.Resolves other)
    (hw : v.at? place = some w) : v.Resolves (place ++ other) := by
  rcases h with ⟨u, hu⟩ | ⟨whole, name, members, rfl, hwhole⟩
  · exact .inl ⟨u, by simp [at?_append, hw, hu]⟩
  · exact .inr ⟨place ++ whole, name, members, by simp, by simp [at?_append, hw, hwhole]⟩

theorem resolves_key (members : Members) (name : String) :
    (Value.object members).Resolves [.key name] :=
  .inr ⟨[], name, members, rfl, rfl⟩

theorem at?_item {members : Members} {key : String} {items : List Value} {i : Nat} {v : Value}
    (hitems : members.get? key = some (.array items)) (hv : items[i]? = some v)
    (place : Filter.Place) :
    (Value.object members).at? (.key key :: .index i :: place) = v.at? place := by
  simp [at?, hitems, hv]

end Value

namespace Filter

/-! ## Places as texts -/

/-- Whether a step is an index or a key that nodes have. -/
def Step.IsPlain (step : Step) : Prop :=
  ∀ name, step = .key name → name ∈ "kind" :: orderedKeys

def Place.IsPlain (place : Place) : Prop :=
  ∀ step ∈ place, step.IsPlain

namespace Place

theorem text_cons (step : Step) (place : Place) :
    text (step :: place) = step.text ++ text place := rfl

/-- The characters with which steps begin. -/
def isMark (c : Char) : Bool :=
  c == '.' || c == '['

theorem isMark_of_head?_text {place : Place} {c : Char} (h : place.text.head? = some c) :
    isMark c = true := by
  cases place with
  | nil => cases h
  | cons step place => cases step <;> cases h <;> rfl

/-- A plain key is told from the steps behind it. -/
theorem takeWhile_plain {name : String} (plain : (Step.key name).IsPlain) (place : Place) :
    (name.toList ++ place.text).takeWhile (!isMark ·) = name.toList := by
  have unmarked : ("kind" :: Step.orderedKeys).all (·.toList.all (!isMark ·)) = true := rfl
  have own := List.all_eq_true.1 (List.all_eq_true.1 unmarked name (plain name rfl))
  rw [List.takeWhile_append_of_pos own]
  cases h : place.text with
  | nil => simp
  | cons c rest =>
    have first : place.text.head? = some c := by rw [h, List.head?_cons]
    simp [isMark_of_head?_text first]

theorem step_eq_of_text_eq {step step' : Step} {place other : Place} (plain : step.IsPlain)
    (plain' : step'.IsPlain) (same : text (step :: place) = text (step' :: other)) :
    step = step' ∧ text place = text other := by
  cases step with
  | key name =>
    cases step' with
    | index j => simp [text_cons, Step.text] at same
    | key name' =>
      have behind : name.toList ++ text place = name'.toList ++ text other :=
        (List.cons.inj same).2
      have names := congrArg (List.takeWhile (!isMark ·)) behind
      rw [takeWhile_plain plain, takeWhile_plain plain'] at names
      rw [names, List.append_cancel_left_eq] at behind
      exact ⟨congrArg Step.key (String.toList_inj.1 names), behind⟩
  | index i =>
    cases step' with
    | key name' => simp [text_cons, Step.text] at same
    | index j =>
      have behind : (toString i).toList ++ ']' :: text place =
          (toString j).toList ++ ']' :: text other := by
        simpa [text_cons, Step.text] using same
      obtain ⟨number, rest⟩ := Text.numeral_append_injective rfl behind
      exact ⟨congrArg Step.index number, rest⟩

/-- Plain places that are written alike are the same. -/
theorem text_injective {place other : Place} (plain : place.IsPlain) (plain' : other.IsPlain)
    (same : place.text = other.text) : place = other := by
  induction place generalizing other with
  | nil =>
    cases other with
    | nil => rfl
    | cons step other => cases step <;> simp [Step.text, text] at same
  | cons step place ih =>
    cases other with
    | nil => cases step <;> simp [Step.text, text] at same
    | cons step' other =>
      rw [IsPlain, List.forall_mem_cons] at plain plain'
      obtain ⟨rfl, behind⟩ := step_eq_of_text_eq plain.1 plain'.1 same
      rw [ih plain.2 plain'.2 behind]

theorem path_injective {place other : Place} (plain : place.IsPlain) (plain' : other.IsPlain)
    (same : place.path = other.path) : place = other := by
  have texts := congrArg String.toList same
  rw [toList_path, toList_path, List.append_cancel_left_eq] at texts
  exact text_injective plain plain' texts

/-! ## Order below places -/

/-- What lies below a place precedes what lies below a later one, unless this lies below it itself. -/
theorem Before.append {place other : Place} (h : place.Before other) (apart : ¬ place <+: other)
    (below below' : Place) : Before (place ++ below) (other ++ below') := by
  induction h with
  | nil => exact absurd (List.nil_prefix) apart
  | rel before => exact .rel before
  | cons _ ih => exact .cons (ih fun le => apart (List.cons_prefix_cons.2 ⟨rfl, le⟩))

end Place

/-! ## Where findings are made -/

/-- Where a condition stands there is an object of which it is read. -/
theorem ConditionAt.at?_eq {v : Value} {place : Place} {c : Condition} (h : ConditionAt v place c) :
    ∃ (members : Members) (field : String) (op : Operator),
      v.at? place = some (.object members) ∧ c = Condition.of field op (members.get? "value") := by
  induction h with
  | @here members field op => exact ⟨members, field, op, rfl, rfl⟩
  | @item _ _ _ _ _ place _ _ _ hitems hv _ ih =>
    obtain ⟨inner, field, op, inside, same⟩ := ih
    exact ⟨inner, field, op, (Value.at?_item hitems hv place).trans inside, same⟩

theorem MalformedAt.resolves {v : Value} {place : Place} {message : String}
    (h : MalformedAt v place message) : v.Resolves place := by
  induction h with
  | @noObject v => exact .inl ⟨v, v.at?_nil⟩
  | item _ _ hitems hv _ ih => exact ih.below ((Value.at?_item hitems hv []).trans (Value.at?_nil _))
  | _ => exact Value.resolves_key _ _

theorem Step.isPlain_branch {key : String} (branch : key = "and" ∨ key = "or") :
    (Step.key key).IsPlain := by
  rintro name ⟨⟩
  rcases branch with rfl | rfl <;> decide

theorem Place.isPlain_item {key : String} {i : Nat} {place : Place}
    (branch : key = "and" ∨ key = "or") (h : place.IsPlain) :
    IsPlain (.key key :: .index i :: place) := by
  rw [IsPlain, List.forall_mem_cons, List.forall_mem_cons]
  exact ⟨Step.isPlain_branch branch, fun name same => (by cases same), h⟩

theorem ConditionAt.isPlain {v : Value} {place : Place} {c : Condition}
    (h : ConditionAt v place c) : place.IsPlain := by
  induction h with
  | here => exact fun step mem => by cases mem
  | item _ branch _ _ _ ih => exact Place.isPlain_item branch ih

theorem Place.isPlain_key {name : String} (plain : name ∈ "kind" :: Step.orderedKeys) :
    IsPlain [.key name] := by
  intro step mem name' same
  cases (List.mem_singleton.1 mem).symm.trans same
  exact plain

theorem MalformedAt.isPlain {v : Value} {place : Place} {message : String}
    (h : MalformedAt v place message) : place.IsPlain := by
  induction h with
  | noObject => exact fun step mem => by cases mem
  | item _ branch _ _ _ ih => exact Place.isPlain_item branch ih
  | noList _ branch =>
    exact Place.isPlain_key (by rcases branch with rfl | rfl <;> decide)
  | _ => exact Place.isPlain_key (by decide)

/-- No condition stands in a condition. -/
theorem ConditionAt.eq_of_prefix {v : Value} {place other : Place} {c d : Condition}
    (h : ConditionAt v place c) (h' : ConditionAt v other d) (le : place <+: other) :
    place = other := by
  induction h generalizing other with
  | here kind =>
    cases h' with
    | here => rfl
    | item kind' => simp [kind] at kind'
  | item kind _ hitems hv _ ih =>
    cases h' with
    | here kind' => simp [kind] at kind'
    | item _ _ hitems' hv' h' =>
      simp only [List.cons_prefix_cons, Step.key.injEq, Step.index.injEq] at le
      obtain ⟨rfl, rfl, le⟩ := le
      cases hitems.symm.trans hitems'
      cases hv.symm.trans hv'
      rw [ih h' le]

/-- Nothing is malformed about a condition. -/
theorem ConditionAt.not_prefix {v : Value} {place other : Place} {c : Condition} {message : String}
    (h : ConditionAt v place c) (h' : MalformedAt v other message) : ¬ place <+: other := by
  induction h generalizing other with
  | @here members field op kind hfield hop =>
    exact absurd h' ((IsNode.condition kind hfield hop).not_malformedAt other message)
  | item kind branch hitems hv _ ih =>
    intro le
    rw [malformedAt_group_iff kind] at h'
    obtain ⟨key, _, ⟨items, i, v, p, hitems', hv', rfl, h'⟩ | ⟨_, _, _, _, rfl, _⟩⟩ := h'
    · simp only [List.cons_prefix_cons, Step.key.injEq, Step.index.injEq] at le
      obtain ⟨rfl, rfl, le⟩ := le
      cases hitems.symm.trans hitems'
      cases hv.symm.trans hv'
      exact ih h' le
    · simp at le

/-! ## Reports -/

/-- Whether faults lie at parts of a value in tree order, if the value stands at a place. -/
structure Reports (v : Value) (place : Place) (faults : List Fault) (parts : List Place) :
    Prop where
  paths : faults.map (·.path) = parts.map fun part => Place.path (place ++ part)
  inOrder : parts.Pairwise Place.Before
  plain : ∀ part ∈ parts, part.IsPlain
  resolves : ∀ part ∈ parts, v.Resolves part

namespace Reports

variable {v w : Value} {place : Place} {faults faults' : List Fault} {parts parts' : List Place}

theorem nil (v : Value) (place : Place) : Reports v place [] [] :=
  ⟨rfl, List.Pairwise.nil, by simp, by simp⟩

theorem single {fault : Fault} {part : Place} (path : fault.path = Place.path (place ++ part))
    (plain : part.IsPlain) (resolves : v.Resolves part) : Reports v place [fault] [part] :=
  ⟨by simp [path], List.pairwise_singleton _ _, by simpa using plain, by simpa using resolves⟩

theorem append (h : Reports v place faults parts) (h' : Reports v place faults' parts')
    (before : ∀ part ∈ parts, ∀ part' ∈ parts', part.Before part') :
    Reports v place (faults ++ faults') (parts ++ parts') where
  paths := by rw [List.map_append, List.map_append, h.paths, h'.paths]
  inOrder := List.pairwise_append.2 ⟨h.inOrder, h'.inOrder, before⟩
  plain := List.forall_mem_append.2 ⟨h.plain, h'.plain⟩
  resolves := List.forall_mem_append.2 ⟨h.resolves, h'.resolves⟩

/-- What lies at parts of an element lies at parts of the whole. -/
theorem whole (h : Reports w place faults parts) (hw : v.at? place = some w)
    (plain : place.IsPlain) : Reports v [] faults (parts.map (place ++ ·)) where
  paths := by rw [h.paths, List.map_map]; rfl
  inOrder := List.pairwise_map.2 (h.inOrder.imp fun before => List.Lex.append_left _ before place)
  plain := by
    rintro _ mem
    obtain ⟨part, hpart, rfl⟩ := List.mem_map.1 mem
    exact List.forall_mem_append.2 ⟨plain, h.plain part hpart⟩
  resolves := by
    rintro _ mem
    obtain ⟨part, hpart, rfl⟩ := List.mem_map.1 mem
    exact (h.resolves part hpart).below hw

end Reports

end Filter

/-! ## Faults of conditions -/

section Conditions

variable {members : Members} {place : Filter.Place}

theorem reports_key {fault : Fault} {name : String} (plain : name ∈ "kind" :: Step.orderedKeys)
    (path : fault.path = Fault.keyPath place.path name) :
    Reports (.object members) place [fault] [[.key name]] := by
  rw [← Filter.Place.path_append_key] at path
  exact .single path (Filter.Place.isPlain_key plain) (Value.resolves_key members name)

theorem Field.reports_elementFaults (f : Field) {v w : Value} {path : String} {part : Filter.Place}
    (hpath : path = Filter.Place.path (place ++ part)) (plain : part.IsPlain)
    (resolves : w.Resolves part) :
    ∃ parts, Reports w place (f.elementFaults path v) parts ∧ ∀ p ∈ parts, p = part := by
  unfold elementFaults
  split
  · exact ⟨[part], .single hpath plain resolves, by simp⟩
  · exact ⟨[], .nil w place, by simp⟩

theorem Field.reports_itemFaults (f : Field) {items rest : List Value} (index : Nat)
    (hitems : members.get? "value" = some (.array items)) (hrest : items.drop index = rest) :
    ∃ parts, Reports (.object members) place
        (f.itemFaults (Fault.keyPath place.path "value") index rest) parts ∧
      ∀ p ∈ parts, ∃ i, index ≤ i ∧ p = [.key "value", .index i] := by
  induction rest generalizing index with
  | nil => exact ⟨[], .nil _ _, by simp⟩
  | cons v rest ih =>
    have hv : items[index]? = some v := by
      rw [← List.head?_drop, hrest]
      rfl
    have path : Fault.indexPath (Fault.keyPath place.path "value") index =
        Filter.Place.path (place ++ [.key "value", .index index]) := by
      rw [← Filter.Place.path_append_key, ← Filter.Place.path_append_index, List.append_assoc]
      rfl
    have plain : Filter.Place.IsPlain [.key "value", .index index] := by
      rw [Filter.Place.IsPlain, List.forall_mem_cons]
      exact ⟨Filter.Place.isPlain_key (by decide) _ (List.mem_singleton_self _),
        by simp [Step.IsPlain]⟩
    have resolves : (Value.object members).Resolves [.key "value", .index index] :=
      .inl ⟨v, (Value.at?_item hitems hv []).trans v.at?_nil⟩
    obtain ⟨parts, first, only⟩ := f.reports_elementFaults (v := v) path plain resolves
    obtain ⟨parts', others, above⟩ := ih (index + 1) (by rw [← List.tail_drop, hrest]; rfl)
    refine ⟨_, first.append others fun p hp q hq => ?_, fun p hp => ?_⟩
    · obtain ⟨i, le, rfl⟩ := above q hq
      rw [only p hp]
      exact .cons (.rel (show index < i from le))
    · rcases List.mem_append.1 hp with hp | hp
      · exact ⟨index, Nat.le_refl _, only p hp⟩
      · obtain ⟨i, le, rfl⟩ := above p hp
        exact ⟨i, Nat.le_of_succ_le le, rfl⟩

/-- The items of an operand are those of the value that it is read from. -/
theorem get?_of_items? {items : List Value}
    (h : ((members.get? "value").filter (!·.isNull)).bind Value.items? = some items) :
    members.get? "value" = some (.array items) := by
  obtain ⟨v, hv, hitems⟩ := Option.bind_eq_some_iff.1 h
  obtain ⟨present, -⟩ := Option.filter_eq_some_iff.1 hv
  cases v with
  | array _ =>
    cases hitems
    exact present
  | _ => cases hitems

/-- The faults of an operand lie at the operand or at its items. -/
theorem Field.reports_operandFaults (f : Field) (op : Operator) (members : Members)
    (place : Filter.Place) :
    ∃ parts, Reports (.object members) place
        (f.operandFaults op ((members.get? "value").filter (!·.isNull))
          (Fault.keyPath place.path "value")) parts ∧
      ∀ p ∈ parts, [.key "value"] <+: p := by
  have whole (message : String) : ∃ parts, Reports (.object members) place
      [{ path := Fault.keyPath place.path "value", message : Fault }] parts ∧
        ∀ p ∈ parts, [.key "value"] <+: p :=
    ⟨[[.key "value"]], reports_key (by decide) rfl, by simp⟩
  have listed {items : List Value}
      (h : ((members.get? "value").filter (!·.isNull)).bind Value.items? = some items) :
      ∃ parts, Reports (.object members) place
        (f.itemFaults (Fault.keyPath place.path "value") 0 items) parts ∧
          ∀ p ∈ parts, [.key "value"] <+: p := by
    obtain ⟨parts, reports, below⟩ := f.reports_itemFaults 0 (get?_of_items? h) rfl
    refine ⟨parts, reports, fun p hp => ?_⟩
    obtain ⟨i, -, rfl⟩ := below p hp
    exact ⟨[.index i], rfl⟩
  -- either the operand as a whole has one fault, or its items have theirs
  cases op with
  | isNull | isNotNull =>
    simp only [operandFaults]
    split
    · exact whole _
    · exact ⟨[], .nil _ _, by simp⟩
  | between | isIn =>
    simp only [operandFaults]
    split
    · next h => exact listed h
    · exact whole _
  | _ =>
    simp only [operandFaults]
    split
    · have path := (Filter.Place.path_append_key place "value").symm
      obtain ⟨parts, reports, only⟩ := f.reports_elementFaults path
        (Filter.Place.isPlain_key (by decide)) (Value.resolves_key members "value")
      refine ⟨parts, reports, fun p hp => ?_⟩
      obtain rfl := only p hp
      exact List.prefix_rfl
    · exact whole _

theorem Schema.reports_conditionFaults (s : Schema) (field : String) (op : Operator) :
    ∃ parts, Reports (.object members) place
      (s.conditionFaults (Condition.of field op (members.get? "value")) place.path) parts := by
  unfold conditionFaults
  split
  · exact ⟨_, reports_key (by decide) rfl⟩
  · next f _ =>
    split
    · exact ⟨_, reports_key (by decide) rfl⟩
    · obtain ⟨parts, operand, below⟩ := f.reports_operandFaults op members place
      split
      · exact ⟨parts, operand⟩
      · refine ⟨_, (reports_key (by decide) rfl).append operand ?_⟩
        rintro part mem part' mem'
        rw [List.mem_singleton.1 mem]
        obtain ⟨rest, rfl⟩ := below part' mem'
        exact .rel (show Step.Before (.key "operator") (.key "value") by decide)

end Conditions

/-! ## Faults of values -/

namespace Filter

/-- Whether an inspection reports faults of a condition at parts of the object of which the condition
is read. -/
def Inspection.StaysInside (inspect : Inspection) : Prop :=
  ∀ (members : Members) (place : Place) (field : String) (op : Operator), ∃ parts,
    Reports (.object members) place
      (inspect (Condition.of field op (members.get? "value")) place.path) parts

/-- Whether a place belongs to a finding: a condition has the places below it, and anything else the
place where it is found. -/
def Finding.Owns : Finding → Place → Prop
  | malformed place _, q => q = place
  | condition place _, q => place <+: q

/-- The places of a finding precede those of a later one. -/
theorem Finding.before_of_owns {v : Value} {f g : Finding} (hf : f ∈ findings v)
    (hg : g ∈ findings v) (before : f.place.Before g.place) {p q : Place} (hp : f.Owns p)
    (hq : g.Owns q) : p.Before q := by
  obtain ⟨rest', rfl⟩ : ∃ rest, q = g.place ++ rest := by
    cases g with
    | malformed other message => exact ⟨[], hq.trans (List.append_nil _).symm⟩
    | condition other d =>
      obtain ⟨rest, rfl⟩ := hq
      exact ⟨rest, rfl⟩
  cases f with
  | malformed place message =>
    cases hp
    exact List.Lex.append_right _ rest' before
  | condition place c =>
    obtain ⟨rest, rfl⟩ := hp
    have stands := condition_mem_findings_iff.1 hf
    refine Place.Before.append before (fun le => ?_) rest rest'
    -- nothing is found below a condition
    cases g with
    | malformed other message =>
      have malformed : MalformedAt v other message := by
        simpa [findings] using malformed_mem_nodeFindings_iff.1 hg
      exact stands.not_prefix malformed le
    | condition other d =>
      have same := stands.eq_of_prefix (condition_mem_findings_iff.1 hg) le
      cases same
      exact Place.not_before_self _ before

theorem reports_finding {inspect : Inspection} (inside : inspect.StaysInside) {v : Value}
    {f : Finding} (hf : f ∈ findings v) :
    ∃ parts, Reports v [] (f.faults inspect) parts ∧ ∀ p ∈ parts, f.Owns p := by
  cases f with
  | malformed place message =>
    have malformed : MalformedAt v place message := by
      simpa [findings] using malformed_mem_nodeFindings_iff.1 hf
    exact ⟨[place], .single rfl malformed.isPlain malformed.resolves, by simp [Finding.Owns]⟩
  | condition place c =>
    have stands := condition_mem_findings_iff.1 hf
    obtain ⟨members, field, op, hobject, rfl⟩ := stands.at?_eq
    obtain ⟨parts, reports⟩ := inside members place field op
    refine ⟨_, reports.whole hobject stands.isPlain, fun p hp => ?_⟩
    obtain ⟨part, -, rfl⟩ := List.mem_map.1 hp
    exact List.prefix_append place part

/-- The faults of a value lie at places in tree order, if those of its conditions do. -/
theorem reports_findings {inspect : Inspection} (inside : inspect.StaysInside) {v : Value}
    {list : List Finding} (hlist : ∀ f ∈ list, f ∈ findings v)
    (inOrder : list.Pairwise fun f g => f.place.Before g.place) :
    ∃ places, Reports v [] (list.flatMap (Finding.faults inspect)) places ∧
      ∀ p ∈ places, ∃ f ∈ list, f.Owns p := by
  induction list with
  | nil => exact ⟨[], .nil v [], by simp⟩
  | cons f rest ih =>
    rw [List.forall_mem_cons] at hlist
    obtain ⟨first, later⟩ := List.pairwise_cons.1 inOrder
    obtain ⟨parts, head, ownsHead⟩ := reports_finding inside hlist.1
    obtain ⟨parts', tail, ownsTail⟩ := ih hlist.2 later
    refine ⟨_, head.append tail fun p hp q hq => ?_, fun p hp => ?_⟩
    · obtain ⟨g, hg, owns⟩ := ownsTail q hq
      exact Finding.before_of_owns hlist.1 (hlist.2 g hg) (first g hg) (ownsHead p hp) owns
    · rcases List.mem_append.1 hp with hp | hp
      · exact ⟨f, List.mem_cons_self, ownsHead p hp⟩
      · obtain ⟨g, hg, owns⟩ := ownsTail p hp
        exact ⟨g, List.mem_cons_of_mem f hg, owns⟩

theorem reports_of_rejected {inspect : Inspection} (inside : inspect.StaysInside) {v : Value}
    {faults : List Fault} (rejected : decodeInspected inspect v = .error faults) :
    ∃ places, Reports v [] faults places := by
  rw [faults_of_rejected rejected]
  obtain ⟨places, reports, -⟩ :=
    reports_findings inside (fun f hf => hf) (inOrderBelow_nodeFindings [] v).1
  exact ⟨places, reports⟩

/-- Paths in tree order are all different, as texts. -/
theorem Reports.nodup_paths {v : Value} {faults : List Fault} {places : List Place}
    (h : Reports v [] faults places) : (faults.map (·.path)).Nodup := by
  rw [h.paths, List.Nodup, List.pairwise_map]
  refine h.inOrder.imp_of_mem fun {p q} hp hq before same => ?_
  rw [Place.path_injective (h.plain p hp) (h.plain q hq) same] at before
  exact Place.not_before_self q before

/-- The faults of a value that is rejected, when it is validated or when it is only read, have paths
that are all different, and these are the paths of places in tree order. The keys of such a place are
those that nodes have, and the place can be followed through the value, up to a last key that may be
missing. -/
theorem fault_paths_resolve (s : Schema) {v : Value} {faults : List Fault}
    (rejected : s.validateValue v = .error faults ∨ decode v = .error faults) :
    (faults.map (·.path)).Nodup ∧ ∃ places : List Place,
      faults.map (·.path) = places.map Place.path ∧ places.Pairwise Place.Before ∧
        ∀ place ∈ places, place.IsPlain ∧ v.Resolves place := by
  have reported : ∃ places, Reports v [] faults places := by
    rcases rejected with rejected | rejected
    · exact reports_of_rejected (fun _ _ field op => s.reports_conditionFaults field op) rejected
    · exact reports_of_rejected (fun members place _ _ => ⟨[], .nil (.object members) place⟩) rejected
  obtain ⟨places, reports⟩ := reported
  exact ⟨reports.nodup_paths, places, reports.paths, reports.inOrder,
    fun place h => ⟨reports.plain place h, reports.resolves place h⟩⟩

/-- Faults of both kinds, in a group both of whose branches have some. The node under `or` has no
kind, so the last path ends with a key that is missing. -/
theorem fault_paths_resolve_of_group :
    let s : Schema := ⟨none, [{ name := "age", type := .number }]⟩
    let v : Value := .object [
      ("and", .array [.null, .object [("field", .string "age"), ("kind", .string "condition"),
        ("operator", .string "contains"), ("value", .string "x")],
        .object [("field", .string "age"), ("kind", .string "condition"),
        ("operator", .string "in"), ("value", .array [.string "x", .ofNat 1, .null])]]),
      ("kind", .string "group"), ("or", .array [.object []])]
    let paths := ["<root>.and[0]", "<root>.and[1].operator", "<root>.and[1].value",
      "<root>.and[2].value[0]", "<root>.and[2].value[2]", "<root>.or[0].kind"]
    ∃ faults, s.validateValue v = .error faults ∧ faults.map (·.path) = paths ∧ paths.Nodup ∧
      ∃ places : List Place, paths = places.map Place.path ∧ places.Pairwise Place.Before ∧
        ∀ place ∈ places, place.IsPlain ∧ v.Resolves place := by
  intro s v paths
  obtain ⟨faults, rejected, same⟩ :
      ∃ faults, s.validateValue v = .error faults ∧ faults.map (·.path) = paths := ⟨_, rfl, rfl⟩
  have resolved := fault_paths_resolve s (.inl rejected)
  rw [same] at resolved
  exact ⟨faults, rejected, same, resolved⟩

end Filter

end SchemaFilter
