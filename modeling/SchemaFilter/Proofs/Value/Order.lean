import SchemaFilter.Filter.Meaning
import SchemaFilter.Proofs.Calendar

/-!
# The laws of the order of values

Exchanging two values reverses their order. Values of one kind are always ordered, and neither comes
before the other exactly if they are equal or are two texts that name the same point in time: equality
compares texts, the order compares what they name.

The order goes on from value to value as long as one rule decides between all of them. It need not
where two texts are ordered in time, in another order than as texts, and a third one that names no
point in time is compared with both: between any two such texts there is a third one that breaks it.
-/

namespace SchemaFilter

namespace Value

/-! ## The orders of each kind -/

instance : Std.TransCmp orderInt := by
  have same : orderInt = (compare : Int → Int → Ordering) := rfl
  rw [same]
  infer_instance

instance : Std.LawfulEqCmp orderInt := by
  have same : orderInt = (compare : Int → Int → Ordering) := rfl
  rw [same]
  infer_instance

instance : Std.TransCmp orderText := by
  have same : orderText = (compare : String → String → Ordering) := rfl
  rw [same]
  infer_instance

instance : Std.LawfulEqCmp orderText := by
  have same : orderText = (compare : String → String → Ordering) := rfl
  rw [same]
  infer_instance

instance : Std.TransCmp orderBool where
  eq_swap {a b} := by cases a <;> cases b <;> rfl
  isLE_trans {a b c} := by cases a <;> cases b <;> cases c <;> decide

instance : Std.LawfulEqCmp orderBool where
  compare_self {a} := by cases a <;> rfl
  eq_of_compare {a b} := by cases a <;> cases b <;> simp [orderBool]

section Time

variable {a b : Timestamp}

theorem orderTime_of_before (h : a.before b = true) : orderTime a b = .lt :=
  if_pos h

theorem orderTime_self (a : Timestamp) : orderTime a a = .eq := by
  simp [orderTime]

theorem orderTime_of_after (h : b.before a = true) : orderTime a b = .gt := by
  have late : ¬a.before b = true := fun h' => by
    simpa using Timestamp.before_trans h h'
  have other : a ≠ b := by
    rintro rfl
    simp at h
  rw [orderTime, if_neg late, if_neg other]

end Time

instance : Std.TransCmp orderTime where
  eq_swap {a b} := by
    rcases a.before_or_eq_or_before b with h | rfl | h
    · rw [orderTime_of_before h, orderTime_of_after h]
      rfl
    · rw [orderTime_self]
      rfl
    · rw [orderTime_of_after h, orderTime_of_before h]
      rfl
  isLE_trans {a b c} hab hbc := by
    rcases a.before_or_eq_or_before b with h | rfl | h
    · rcases b.before_or_eq_or_before c with h' | rfl | h'
      · rw [orderTime_of_before (Timestamp.before_trans h h')]
        rfl
      · exact hab
      · rw [orderTime_of_after h'] at hbc
        cases hbc
    · exact hbc
    · rw [orderTime_of_after h] at hab
      cases hab

instance : Std.LawfulEqCmp orderTime where
  compare_self {a} := orderTime_self a
  eq_of_compare {a b} h := by
    rcases a.before_or_eq_or_before b with h' | rfl | h'
    · rw [orderTime_of_before h'] at h
      cases h
    · rfl
    · rw [orderTime_of_after h'] at h
      cases h

/-! ## The order of values -/

section Texts

variable {s t : String} {x y : Timestamp}

/-- Two texts that name points in time are ordered as these are. -/
theorem order?_of_times (hs : Calendar.parse? s = some x) (ht : Calendar.parse? t = some y) :
    (string s).order? (string t) = some (orderTime x y) := by
  rw [order?, hs, ht]

/-- Any other two texts are ordered as texts. -/
theorem order?_of_texts (h : Calendar.parse? s = none ∨ Calendar.parse? t = none) :
    (string s).order? (string t) = some (orderText s t) := by
  rw [order?]
  split
  · next hs ht => rcases h with h | h <;> simp_all
  · rfl

theorem times_or_texts (s t : String) :
    (∃ x y, Calendar.parse? s = some x ∧ Calendar.parse? t = some y) ∨
      (Calendar.parse? s = none ∨ Calendar.parse? t = none) := by
  cases hs : Calendar.parse? s with
  | none => exact .inr (.inl rfl)
  | some x =>
    cases ht : Calendar.parse? t with
    | none => exact .inr (.inr rfl)
    | some y => exact .inl ⟨x, y, rfl, rfl⟩

end Texts

theorem order?_swap (a b : Value) : b.order? a = (a.order? b).map Ordering.swap := by
  cases a with
  | number m =>
    cases b with
    | number n => exact congrArg some Std.OrientedCmp.eq_swap
    | _ => rfl
  | string s =>
    cases b with
    | string t =>
      rcases times_or_texts s t with ⟨x, y, hs, ht⟩ | h
      · rw [order?_of_times hs ht, order?_of_times ht hs]
        exact congrArg some Std.OrientedCmp.eq_swap
      · rw [order?_of_texts h, order?_of_texts h.symm]
        exact congrArg some Std.OrientedCmp.eq_swap
    | _ => rfl
  | bool p =>
    cases b with
    | bool q => exact congrArg some Std.OrientedCmp.eq_swap
    | _ => rfl
  | null | array | object => cases b <;> rfl

/-! ## Order and equality -/

/-- Whether two values are two numbers, two texts or two truth values. -/
inductive SameKind : Value → Value → Prop where
  | numbers (m n : Number) : SameKind (number m) (number n)
  | texts (s t : String) : SameKind (string s) (string t)
  | truths (p q : Bool) : SameKind (bool p) (bool q)

/-- Whether two values are different texts that name the same point in time. -/
def Synonymous (a b : Value) : Prop :=
  ∃ s t x, a = string s ∧ b = string t ∧ s ≠ t ∧ Calendar.parse? s = some x ∧
    Calendar.parse? t = some x

/-- Different texts are not equal, whatever they name. -/
theorem Synonymous.equal_eq_false {a b : Value} (h : Synonymous a b) : a.equal b = false := by
  obtain ⟨s, t, x, rfl, rfl, other, -, -⟩ := h
  simp [equal, same, other]

/-- Values of one kind are ordered. Neither comes before the other exactly if they are equal or name
the same point in time. -/
theorem SameKind.exists_order? {a b : Value} (h : SameKind a b) :
    ∃ o, a.order? b = some o ∧ (o = .eq ↔ a.equal b = true ∨ Synonymous a b) := by
  have only {a b : Value} (h : ∀ s, a ≠ string s) : ¬Synonymous a b := by
    rintro ⟨s, t, x, same, -⟩
    exact h s same
  cases h with
  | numbers m n =>
    refine ⟨_, rfl, ?_⟩
    rw [or_iff_left (only (by simp)), Std.LawfulEqCmp.compare_eq_iff_eq, equal, Double.same_iff]
  | texts s t =>
    have alike : (string s).equal (string t) = true ↔ s = t := by simp [equal, same]
    rw [alike]
    -- two different texts may name one point in time, but as texts they are never level
    rcases times_or_texts s t with ⟨x, y, hs, ht⟩ | h
    · refine ⟨_, order?_of_times hs ht, ?_⟩
      rw [Std.LawfulEqCmp.compare_eq_iff_eq]
      constructor
      · rintro rfl
        by_cases same : s = t
        · exact .inl same
        · exact .inr ⟨s, t, x, rfl, rfl, same, hs, ht⟩
      · rintro (rfl | ⟨_, _, z, first, second, -, hs', ht'⟩)
        · exact Option.some.inj (hs.symm.trans ht)
        · cases first
          cases second
          rw [hs] at hs'
          rw [ht] at ht'
          exact (Option.some.inj hs').trans (Option.some.inj ht').symm
    · refine ⟨_, order?_of_texts h, ?_⟩
      rw [Std.LawfulEqCmp.compare_eq_iff_eq, or_iff_left]
      rintro ⟨_, _, z, first, second, -, hs', ht'⟩
      cases first
      cases second
      rw [hs', ht'] at h
      rcases h with h | h <;> cases h
  | truths p q =>
    refine ⟨_, rfl, ?_⟩
    rw [or_iff_left (only (by simp)), Std.LawfulEqCmp.compare_eq_iff_eq]
    simp [equal, same]

/-! ## Three values -/

/-- Whether two values are texts that name points in time, and stand in another order as texts than
these do in time. -/
def Crossed (a b : Value) : Prop :=
  ∃ s t x y, a = string s ∧ b = string t ∧ Calendar.parse? s = some x ∧
    Calendar.parse? t = some y ∧ orderTime x y ≠ orderText s t

/-- Whether a value is a text that names no point in time. -/
def IsTimeless (v : Value) : Prop :=
  ∃ s, v = string s ∧ Calendar.parse? s = none

/-- Whether one of three values is a text that names no point in time, and the other two are texts
that stand in another order than the points in time that they name. -/
def Mixed (a b c : Value) : Prop :=
  IsTimeless a ∧ Crossed b c ∨ IsTimeless b ∧ Crossed a c ∨ IsTimeless c ∧ Crossed a b

/-- Whether one order decides between any two of three values, by something that each of them has. -/
def Uniform (a b c : Value) : Prop :=
  ∃ (α : Type) (cmp : α → α → Ordering) (x y z : α), Std.TransCmp cmp ∧
    a.order? b = some (cmp x y) ∧ b.order? c = some (cmp y z) ∧ a.order? c = some (cmp x z)

theorem sameKind_of_order? {a b : Value} {o : Ordering} (h : a.order? b = some o) :
    SameKind a b := by
  cases a with
  | number m =>
    cases b with
    | number n => exact .numbers m n
    | _ => cases h
  | string s =>
    cases b with
    | string t => exact .texts s t
    | _ => cases h
  | bool p =>
    cases b with
    | bool q => exact .truths p q
    | _ => cases h
  | null | array | object => cases b <;> cases h

theorem IsTimeless.not_crossed {a b : Value} (h : IsTimeless a) : ¬Crossed a b := by
  obtain ⟨s, rfl, hs⟩ := h
  rintro ⟨_, _, x, _, same, -, hs', -⟩
  cases same
  rw [hs] at hs'
  cases hs'

theorem IsTimeless.not_crossed' {a b : Value} (h : IsTimeless b) : ¬Crossed a b := by
  obtain ⟨s, rfl, hs⟩ := h
  rintro ⟨_, _, _, x, -, same, -, hs', -⟩
  cases same
  rw [hs] at hs'
  cases hs'

/-- Two texts that do not stand in another order than what they name are ordered as texts. -/
theorem order?_of_not_crossed {s t : String} (h : ¬Crossed (string s) (string t)) :
    (string s).order? (string t) = some (orderText s t) := by
  rcases times_or_texts s t with ⟨x, y, hs, ht⟩ | texts
  · rw [order?_of_times hs ht]
    exact congrArg some (Classical.byContradiction fun differs =>
      h ⟨s, t, x, y, rfl, rfl, hs, ht, differs⟩)
  · exact order?_of_texts texts

theorem uniform_of_texts {s t u : String} (plain : ¬Mixed (string s) (string t) (string u)) :
    Uniform (string s) (string t) (string u) := by
  have asTexts (hst : ¬Crossed (string s) (string t)) (htu : ¬Crossed (string t) (string u))
      (hsu : ¬Crossed (string s) (string u)) : Uniform (string s) (string t) (string u) :=
    ⟨String, orderText, s, t, u, inferInstance, order?_of_not_crossed hst,
      order?_of_not_crossed htu, order?_of_not_crossed hsu⟩
  simp only [Mixed, not_or, not_and] at plain
  obtain ⟨first, second, third⟩ := plain
  -- a single text that names no point in time makes all of them go by their texts
  cases hs : Calendar.parse? s with
  | none =>
    have timeless : IsTimeless (string s) := ⟨s, rfl, hs⟩
    exact asTexts timeless.not_crossed (first timeless) timeless.not_crossed
  | some x =>
    cases ht : Calendar.parse? t with
    | none =>
      have timeless : IsTimeless (string t) := ⟨t, rfl, ht⟩
      exact asTexts timeless.not_crossed' timeless.not_crossed (second timeless)
    | some y =>
      cases hu : Calendar.parse? u with
      | none =>
        have timeless : IsTimeless (string u) := ⟨u, rfl, hu⟩
        exact asTexts (third timeless) timeless.not_crossed' timeless.not_crossed'
      | some z =>
        exact ⟨Timestamp, orderTime, x, y, z, inferInstance, order?_of_times hs ht,
          order?_of_times ht hu, order?_of_times hs hu⟩

/-- Three values of one kind are ordered alike, unless they are mixed. -/
theorem uniform_of_sameKind {a b c : Value} (hab : SameKind a b) (hbc : SameKind b c)
    (plain : ¬Mixed a b c) : Uniform a b c := by
  cases hab with
  | numbers m n =>
    cases hbc with
    | numbers _ o =>
      exact ⟨Int, orderInt, m.toDouble.toInt, n.toDouble.toInt, o.toDouble.toInt, inferInstance,
        rfl, rfl, rfl⟩
  | texts s t =>
    cases hbc with
    | texts _ u => exact uniform_of_texts plain
  | truths p q =>
    cases hbc with
    | truths _ r => exact ⟨Bool, orderBool, p, q, r, inferInstance, rfl, rfl, rfl⟩

/-- The order goes on from value to value, unless the three are mixed. -/
theorem order?_trans {a b c : Value} (hab : a.order? b = some .lt) (hbc : b.order? c = some .lt)
    (plain : ¬Mixed a b c) : a.order? c = some .lt := by
  obtain ⟨_, cmp, x, y, z, _, first, second, third⟩ :=
    uniform_of_sameKind (sameKind_of_order? hab) (sameKind_of_order? hbc) plain
  rw [third]
  rw [first, Option.some.injEq] at hab
  rw [second, Option.some.injEq] at hbc
  rw [Std.TransCmp.lt_trans hab hbc]

/-- Nothing lies between two bounds of which the lower one is the greater one, unless it is mixed with
them. -/
theorem not_within {v low high : Value} (reversed : low.order? high = some .gt)
    (plain : ¬Mixed v low high) : (v.atLeast low && v.atMost high) = false := by
  cases compared : v.order? low with
  | none => simp [atLeast, compared]
  | some o =>
    obtain ⟨_, cmp, x, y, z, _, first, second, third⟩ :=
      uniform_of_sameKind (sameKind_of_order? compared) (sameKind_of_order? reversed) plain
    rw [second, Option.some.injEq] at reversed
    rw [atLeast, atMost, first, third]
    cases above : cmp x y with
    | lt => rfl
    | eq | gt =>
      have beyond : cmp x z = .gt :=
        Std.TransCmp.gt_of_isGE_of_gt (by rw [above]; rfl) reversed
      rw [beyond]
      rfl

/-! ## The exception -/

/-- Behind a text comes first the text with the least character added to it. -/
theorem append_null_lt {cs ds : List Char} (less : cs < ds) (other : ds ≠ cs ++ ['\x00']) :
    cs ++ ['\x00'] < ds := by
  induction cs generalizing ds with
  | nil =>
    cases ds with
    | nil => simp at less
    | cons d ds =>
      rw [List.nil_append, List.cons_lt_cons_iff]
      by_cases null : '\x00' = d
      · subst null
        refine .inr ⟨rfl, ?_⟩
        cases ds with
        | nil => simp at other
        | cons e ds => simp
      · refine .inl (UInt32.lt_iff_toNat_lt.2 (Nat.pos_of_ne_zero fun zero => null ?_))
        exact (Char.ext (UInt32.toNat_inj.1 zero)).symm
  | cons c cs ih =>
    cases ds with
    | nil => simp at less
    | cons d ds =>
      rw [List.cons_lt_cons_iff] at less
      rw [List.cons_append, List.cons_lt_cons_iff]
      rcases less with less | ⟨rfl, less⟩
      · exact .inl less
      · exact .inr ⟨rfl, ih less (by simpa using other)⟩

/-- Between two texts that name points in time stands one that names none. -/
theorem exists_timeless_between {s t : String} {y : Timestamp} (ht : Calendar.parse? t = some y)
    (less : s < t) : ∃ m, Calendar.parse? m = none ∧ s < m ∧ m < t := by
  have null (m : String) (h : '\x00' ∈ m.toList) : Calendar.parse? m = none := by
    cases hm : Calendar.parse? m with
    | none => rfl
    | some x =>
      exact absurd (Calendar.isSign_of_parse? hm _ h) (by decide)
  have later : (s ++ "\x00").toList = s.toList ++ ['\x00'] := String.toList_append
  refine ⟨s ++ "\x00", null _ (by simp [later]), ?_, ?_⟩
  · rw [String.lt_iff, later]
    have longer : s.toList ++ [] < s.toList ++ ['\x00'] :=
      List.append_left_lt (List.nil_lt_cons _ _)
    rwa [List.append_nil] at longer
  · rw [String.lt_iff, later]
    refine append_null_lt (String.lt_iff.1 less) fun same => ?_
    rw [null t (by simp [same])] at ht
    cases ht

/-- Whether a value lies between two others that it is no bridge for. -/
def Breaks (m a b : Value) : Prop :=
  a.order? m = some .lt ∧ m.order? b = some .lt ∧ a.order? b ≠ some .lt

theorem orderTime_ne_orderText_swap {s t : String} {x y : Timestamp}
    (differs : orderTime x y ≠ orderText s t) : orderTime y x ≠ orderText t s := fun same =>
  differs <| calc
    orderTime x y = (orderTime y x).swap := Std.OrientedCmp.eq_swap
    _ = (orderText t s).swap := by rw [same]
    _ = orderText s t := Std.OrientedCmp.eq_swap.symm

theorem orderText_eq_lt_iff {s t : String} : orderText s t = .lt ↔ s < t := by
  simp only [orderText]
  split
  · simp [*]
  · split <;> simp [*]

theorem exists_breaks_of_lt {s t : String} {x y : Timestamp} (hs : Calendar.parse? s = some x)
    (ht : Calendar.parse? t = some y) (differs : orderTime x y ≠ orderText s t) (less : s < t) :
    ∃ m, IsTimeless m ∧ Breaks m (string s) (string t) := by
  obtain ⟨m, hm, above, below⟩ := exists_timeless_between ht less
  refine ⟨string m, ⟨m, rfl, hm⟩, ?_, ?_, ?_⟩
  · rw [order?_of_texts (.inr hm), orderText_eq_lt_iff.2 above]
  · rw [order?_of_texts (.inl hm), orderText_eq_lt_iff.2 below]
  · rw [order?_of_times hs ht, ← orderText_eq_lt_iff.2 less]
    exact fun same => differs (Option.some.inj same)

/-- Between any two texts that stand in another order than what they name there is a text that breaks
the order. -/
theorem Crossed.exists_breaks {a b : Value} (h : Crossed a b) :
    ∃ m, IsTimeless m ∧ (Breaks m a b ∨ Breaks m b a) := by
  obtain ⟨s, t, x, y, rfl, rfl, hs, ht, differs⟩ := h
  cases texts : orderText s t with
  | lt =>
    obtain ⟨m, timeless, breaks⟩ :=
      exists_breaks_of_lt hs ht differs (orderText_eq_lt_iff.1 texts)
    exact ⟨m, timeless, .inl breaks⟩
  | eq =>
    have same : s = t := Std.LawfulEqCmp.eq_of_compare texts
    subst same
    have alike : x = y := Option.some.inj (hs.symm.trans ht)
    subst alike
    exact absurd (Std.ReflCmp.compare_self.trans texts.symm) differs
  | gt =>
    have less : t < s := orderText_eq_lt_iff.1 (Std.OrientedCmp.lt_of_gt texts)
    obtain ⟨m, timeless, breaks⟩ :=
      exists_breaks_of_lt ht hs (orderTime_ne_orderText_swap differs) less
    exact ⟨m, timeless, .inr breaks⟩

end Value

end SchemaFilter
