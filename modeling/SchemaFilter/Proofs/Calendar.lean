import SchemaFilter.Calendar

/-!
# The characters of points in time

A text that names a point in time is made of digits, of blanks and of the signs that stand between
them, in whichever layout it is written. So there are characters with which no such text ends.
-/

namespace SchemaFilter.Calendar

open Text (isBlank trim trimStart trimEnd)

/-- Whether a character occurs in some layout of points in time. -/
def isSign (c : Char) : Bool :=
  c.isDigit || isBlank c || ['-', '−', '+', ':', '.', 'T', 't', 'Z', 'z'].contains c

/-- Whether the rest of a text is reached by taking such characters from its front. -/
def Takes (cs rest : List Char) : Prop :=
  ∃ taken, cs = taken ++ rest ∧ ∀ c ∈ taken, isSign c = true

namespace Takes

variable {cs rest rest' : List Char}

theorem refl (cs : List Char) : Takes cs cs :=
  ⟨[], rfl, nofun⟩

theorem trans (h : Takes cs rest) (h' : Takes rest rest') : Takes cs rest' := by
  obtain ⟨taken, rfl, signs⟩ := h
  obtain ⟨taken', rfl, signs'⟩ := h'
  exact ⟨taken ++ taken', by simp, List.forall_mem_append.2 ⟨signs, signs'⟩⟩

theorem cons {c : Char} (sign : isSign c = true) (h : Takes cs rest) : Takes (c :: cs) rest := by
  obtain ⟨taken, rfl, signs⟩ := h
  exact ⟨c :: taken, rfl, List.forall_mem_cons.2 ⟨sign, signs⟩⟩

theorem all (h : Takes cs []) : ∀ c ∈ cs, isSign c = true := by
  obtain ⟨taken, rfl, signs⟩ := h
  rwa [List.append_nil]

theorem of_isPrefix {taken : List Char} (front : taken <+: cs)
    (digits : ∀ c ∈ taken, c.isDigit = true) : Takes cs (cs.drop taken.length) := by
  obtain ⟨rest, rfl⟩ := front
  refine ⟨taken, by simp, fun c hc => ?_⟩
  simp [isSign, digits c hc]

theorem trimStart (cs : List Char) : Takes cs (trimStart cs) := by
  refine ⟨cs.takeWhile isBlank, List.takeWhile_append_dropWhile.symm, fun c hc => ?_⟩
  simp [isSign, List.all_eq_true.1 List.all_takeWhile c hc]

end Takes

/-- Whether a reader takes no other characters. -/
def TakesSigns {α : Type} (read : Reader α) : Prop :=
  ∀ cs a rest, read cs = some (a, rest) → Takes cs rest

theorem takesSigns_literal {c : Char} (sign : isSign c = true) : TakesSigns (literal c) := by
  intro cs a rest h
  cases cs with
  | nil => cases h
  | cons d cs =>
    simp only [literal, Option.ite_none_right_eq_some, Option.some.injEq, Prod.mk.injEq] at h
    obtain ⟨rfl, -, rfl⟩ := h
    exact .cons sign (.refl _)

theorem takesSigns_number (least most : Nat) : TakesSigns (number least most) := by
  intro cs a rest h
  simp only [number, Option.ite_none_left_eq_some, Option.some.injEq, Prod.mk.injEq] at h
  obtain ⟨-, -, rfl⟩ := h
  refine .of_isPrefix ((List.takeWhile_prefix _).trans (List.take_prefix _ _))
    (List.all_eq_true.1 List.all_takeWhile)

theorem takesSigns_longNumber : TakesSigns longNumber :=
  fun cs => takesSigns_number 1 cs.length cs

theorem takesSigns_spacedNumber (most : Nat) : TakesSigns (spacedNumber most) :=
  fun cs a rest h => (Takes.trimStart cs).trans (takesSigns_number 1 most _ a rest h)

theorem takesSigns_spacedYear : TakesSigns spacedYear := by
  intro cs a rest h
  refine (Takes.trimStart cs).trans ?_
  unfold spacedYear at h
  split at h
  · next digits front =>
    obtain ⟨⟨n, _⟩, hn, same⟩ := Option.map_eq_some_iff.1 h
    cases same
    rw [front]
    exact .cons (by decide) (takesSigns_longNumber _ _ _ hn)
  · next digits front =>
    obtain ⟨⟨n, _⟩, hn, same⟩ := Option.map_eq_some_iff.1 h
    cases same
    rw [front]
    exact .cons (by decide) (takesSigns_longNumber _ _ _ hn)
  · obtain ⟨⟨n, _⟩, hn, same⟩ := Option.map_eq_some_iff.1 h
    cases same
    exact takesSigns_number 1 4 _ _ _ hn

theorem takesSigns_fraction : TakesSigns fraction := by
  intro cs a rest h
  unfold fraction at h
  split at h
  · next digits =>
    dsimp only at h
    split at h
    · cases h
    · cases h
      exact .cons (by decide)
        (.of_isPrefix (List.takeWhile_prefix _) (List.all_eq_true.1 List.all_takeWhile))
  · cases h
    exact .refl _

theorem takesSigns_strictTime : TakesSigns strictTime := by
  intro cs a rest h
  simp only [strictTime, pair, bind, Option.bind_eq_some_iff, Prod.exists, pure,
    Option.some.injEq, Prod.mk.injEq] at h
  obtain ⟨_, _, hour, _, _, colon, _, _, minute, _, _, colon', _, _, second, _, _, nanos, -, rfl⟩ := h
  exact (takesSigns_number 2 2 _ _ _ hour).trans
    ((takesSigns_literal (by decide) _ _ _ colon).trans
      ((takesSigns_number 2 2 _ _ _ minute).trans
        ((takesSigns_literal (by decide) _ _ _ colon').trans
          ((takesSigns_number 2 2 _ _ _ second).trans (takesSigns_fraction _ _ _ nanos)))))

theorem takesSigns_offset : TakesSigns offset := by
  intro cs a rest h
  have clock {cs cs₁ cs₂ rest : List Char} {hour minute : Nat} {sign : Unit}
      (hours : number 2 2 cs = some (hour, cs₁)) (colon : literal ':' cs₁ = some (sign, cs₂))
      (minutes : number 2 2 cs₂ = some (minute, rest)) : Takes cs rest :=
    (takesSigns_number 2 2 _ _ _ hours).trans
      ((takesSigns_literal (by decide) _ _ _ colon).trans (takesSigns_number 2 2 _ _ _ minutes))
  unfold offset at h
  dsimp only at h
  split at h
  · cases h
    exact .cons (by decide) (.refl _)
  · cases h
    exact .cons (by decide) (.refl _)
  rotate_left 3
  · cases h
  all_goals
    simp only [pair, bind, Option.bind_eq_some_iff, Prod.exists, Option.ite_none_right_eq_some,
      Option.some.injEq, Prod.mk.injEq] at h
    obtain ⟨_, _, hours, _, _, colon, _, _, minutes, -, -, rfl⟩ := h
    exact .cons (by decide) (clock hours colon minutes)

theorem takesSigns_date : TakesSigns date := by
  intro cs a rest h
  simp only [date, bind, Option.bind_eq_some_iff, Prod.exists, pure, Option.some.injEq,
    Prod.mk.injEq] at h
  obtain ⟨_, _, year, _, _, dash, _, _, month, _, _, dash', _, _, day, _, -, -, rfl⟩ := h
  exact (takesSigns_spacedYear _ _ _ year).trans
    ((takesSigns_literal (by decide) _ _ _ dash).trans
      ((takesSigns_spacedNumber 2 _ _ _ month).trans
        ((takesSigns_literal (by decide) _ _ _ dash').trans
          (takesSigns_spacedNumber 2 _ _ _ day))))

/-! ## Layouts -/

theorem takes_of_zoned? {cs : List Char} {t : Timestamp} (h : zoned? cs = some t) :
    Takes cs [] := by
  simp only [zoned?, pair, bind, Option.bind_eq_some_iff, Prod.exists] at h
  obtain ⟨_, _, year, _, _, dash, _, _, month, _, _, dash', _, _, day, h⟩ := h
  have front := (takesSigns_number 4 4 _ _ _ year).trans
    ((takesSigns_literal (by decide) _ _ _ dash).trans
      ((takesSigns_number 2 2 _ _ _ month).trans
        ((takesSigns_literal (by decide) _ _ _ dash').trans
          (takesSigns_number 2 2 _ _ _ day))))
  refine front.trans ?_
  split at h
  case h_4 => cases h
  -- the three separators
  all_goals
    refine .cons (by decide) ?_
    simp only [Option.bind_some, Option.bind_eq_some_iff, Prod.exists] at h
    obtain ⟨_, _, _, _, _, time, _, rest, shift, h⟩ := h
    split at h
    · cases h
    · next finished =>
      obtain rfl : rest = [] := by simpa using finished
      exact (takesSigns_strictTime _ _ _ time).trans (takesSigns_offset _ _ _ shift)

theorem takes_of_unzoned? {separator : Reader Unit} (signs : TakesSigns separator)
    {cs : List Char} {t : Timestamp} (h : unzoned? separator cs = some t) : Takes cs [] := by
  simp only [unzoned?, bind, Option.bind_eq_some_iff, Prod.exists] at h
  obtain ⟨_, _, day, _, _, between, _, _, hour, _, _, colon, _, _, minute, _, _, colon', _, _,
    second, _, rest, nanos, h⟩ := h
  split at h
  · cases h
  · next finished =>
    obtain rfl : rest = [] := by simpa using finished
    exact (takesSigns_date _ _ _ day).trans ((signs _ _ _ between).trans
      ((takesSigns_spacedNumber 2 _ _ _ hour).trans
        ((takesSigns_literal (by decide) _ _ _ colon).trans
          ((takesSigns_spacedNumber 2 _ _ _ minute).trans
            ((takesSigns_literal (by decide) _ _ _ colon').trans
              ((takesSigns_spacedNumber 2 _ _ _ second).trans
                (takesSigns_fraction _ _ _ nanos)))))))

theorem takes_of_midnight? {cs : List Char} {t : Timestamp} (h : midnight? cs = some t) :
    Takes cs [] := by
  simp only [midnight?, bind, Option.bind_eq_some_iff, Prod.exists] at h
  obtain ⟨_, rest, day, h⟩ := h
  split at h
  · cases h
  · next finished =>
    obtain rfl : rest = [] := by simpa using finished
    exact takesSigns_date _ _ _ day

theorem takes_trim_of_parse? {s : String} {t : Timestamp} (h : parse? s = some t) :
    Takes (trim s.toList) [] := by
  simp only [parse?, Option.orElse_eq_orElse, Option.orElse_eq_or, Option.or_eq_some_iff] at h
  rcases h with zoned | ⟨-, unzoned | ⟨-, unzoned | ⟨-, midnight⟩⟩⟩
  · exact takes_of_zoned? zoned
  · exact takes_of_unzoned? (takesSigns_literal (by decide)) unzoned
  · refine takes_of_unzoned? (fun cs _ rest h => ?_) unzoned
    cases h
    exact .trimStart cs
  · exact takes_of_midnight? midnight

theorem mem_dropWhile_or {p : Char → Bool} {c : Char} {cs : List Char} (h : c ∈ cs) :
    c ∈ cs.dropWhile p ∨ p c = true := by
  rw [← List.takeWhile_append_dropWhile (p := p) (l := cs), List.mem_append] at h
  exact h.symm.imp_right (List.all_eq_true.1 List.all_takeWhile c)

/-- What a text lacks when its ends are trimmed are blanks. -/
theorem mem_trim_or_isBlank {c : Char} {cs : List Char} (h : c ∈ cs) :
    c ∈ trim cs ∨ isBlank c = true := by
  rcases mem_dropWhile_or h with inside | blank
  · exact (mem_dropWhile_or (List.mem_reverse.2 inside)).imp_left List.mem_reverse.2
  · exact .inr blank

/-- A text that names a point in time has no other characters. -/
theorem isSign_of_parse? {s : String} {t : Timestamp} (h : parse? s = some t) :
    ∀ c ∈ s.toList, isSign c = true := by
  intro c hc
  rcases mem_trim_or_isBlank hc with inside | blank
  · exact (takes_trim_of_parse? h).all c inside
  · simp [isSign, blank]

end SchemaFilter.Calendar
