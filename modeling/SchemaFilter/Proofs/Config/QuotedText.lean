import SchemaFilter.Config.File

/-!
# Quoted texts

A text in a configuration file stands in double quotes, with escapes, or in single quotes, where
everything is as it is; a text over several lines has three quotes on either side. All four forms are
read back as the text that was written.

Bodies are read character by character. For double quotes it is enough to know how one character is
written, which `Quoted` says. For three single quotes it matters what stands around a character: no
three of them may come together before the end.
-/

namespace SchemaFilter.Config

open Toml

/-! ## Characters in double quotes -/

/-- How a character is written inside double quotes: with an escape, as it is, or as a line break of a
long text. -/
inductive Quoted (isLong : Bool) : Char → List Char → Prop where
  | escaped {c letter : Char} {digits : List Char}
      (reads : ∀ rest, escape (letter :: digits ++ rest) = some (c, rest))
      (visible : isBlank letter = false) (inLine : letter ≠ '\n' ∧ letter ≠ '\r') :
      Quoted isLong c ('\\' :: letter :: digits)
  | plain {c : Char} (visible : isVisible c = true) (unquoted : c ≠ '"' ∧ c ≠ '\\') :
      Quoted isLong c [c]
  | lineBreak (long : isLong = true) : Quoted isLong '\n' ['\n']

theorem scalar_append {count : Nat} {digits : List Char} {c : Char}
    (length : digits.length = count) (h : scalar count digits = some (c, [])) (rest : List Char) :
    scalar count (digits ++ rest) = some (c, rest) := by
  subst length
  simp only [scalar, List.take_length, List.take_left, List.drop_length, List.drop_left,
    Nat.lt_irrefl, if_false, Option.bind_eq_bind] at h ⊢
  cases values : digits.mapM Json.hexValue? with
  | none =>
    rw [values] at h
    cases h
  | some values' =>
    rw [values] at h
    simp only [Option.bind_some] at h ⊢
    split at h
    · next valid =>
      cases h
      rw [if_pos valid]
      rfl
    · cases h

theorem escape_control {n : Nat} (h : n < 32 ∨ n = 127) (rest : List Char) :
    escape ('u' :: ['0', '0', (Json.hexDigit (n / 16)).toUpper,
      (Json.hexDigit (n % 16)).toUpper] ++ rest) = some (Char.ofNat n, rest) := by
  have all : ∀ m < 128, m < 32 ∨ m = 127 →
      scalar 4 ['0', '0', (Json.hexDigit (m / 16)).toUpper, (Json.hexDigit (m % 16)).toUpper] =
        some (Char.ofNat m, []) := by
    decide +kernel
  exact scalar_append (by rfl) (all n (by omega) h) rest

theorem quoted_quotedChar (isLong : Bool) (c : Char) : Quoted isLong c (quotedChar isLong c) := by
  unfold quotedChar
  split
  · exact .escaped (fun _ => rfl) (by decide) (by decide)
  · exact .escaped (fun _ => rfl) (by decide) (by decide)
  · split
    · next long => exact .lineBreak long
    · exact .escaped (fun _ => rfl) (by decide) (by decide)
  · exact .escaped (fun _ => rfl) (by decide) (by decide)
  · exact .escaped (fun _ => rfl) (by decide) (by decide)
  · exact .escaped (fun _ => rfl) (by decide) (by decide)
  · exact .escaped (fun _ => rfl) (by decide) (by decide)
  · next noTab _ _ _ noQuote noBackslash =>
    split
    · next control =>
      have reads := escape_control control
      rw [Char.ofNat_toNat] at reads
      exact .escaped reads (by decide) (by decide)
    · next visible =>
      refine .plain ?_ ⟨noQuote, noBackslash⟩
      simp only [isVisible, Bool.or_eq_true, Bool.and_eq_true, bne_iff_ne, decide_eq_true_eq]
      right
      constructor <;> omega

/-- No character is written with a double quote in front. -/
theorem Quoted.exists_cons {isLong : Bool} {c : Char} {code : List Char} (h : Quoted isLong c code) :
    ∃ first others, code = first :: others ∧ first ≠ '"' := by
  cases h with
  | escaped reads visible inLine => exact ⟨_, _, rfl, by decide⟩
  | plain visible unquoted => exact ⟨_, _, rfl, unquoted.1⟩
  | lineBreak long => exact ⟨_, _, rfl, by decide⟩

theorem length_le_flatMap_quotedChar (isLong : Bool) (cs : List Char) :
    cs.length ≤ (cs.flatMap (quotedChar isLong)).length := by
  induction cs with
  | nil => exact Nat.le_refl 0
  | cons c cs ih =>
    obtain ⟨first, others, code, -⟩ := (quoted_quotedChar isLong c).exists_cons
    rw [List.flatMap_cons, code]
    simp only [List.length_cons, List.length_append]
    omega

/-! ## Bodies in double quotes -/

def withChar (c : Char) (read : Option (List Char × List Char)) : Option (List Char × List Char) :=
  read.map fun (body, rest) => (c :: body, rest)

theorem basicBody_quoted {c : Char} {code : List Char} (h : Quoted false c code) (fuel : Nat)
    (rest : List Char) :
    basicBody (fuel + 1) (code ++ rest) = withChar c (basicBody fuel rest) := by
  cases h with
  | escaped reads visible inLine =>
    simp only [List.cons_append] at reads ⊢
    simp only [basicBody, reads, Option.bind_eq_bind, Option.bind_some]
    cases basicBody fuel rest <;> rfl
  | plain visible unquoted =>
    rw [List.singleton_append, basicBody]
    · simp only [visible]
      cases basicBody fuel rest <;> rfl
    · exact unquoted.1
    · exact unquoted.2
  | lineBreak long => cases long

/-- Text on one line is read back up to the closing quote. -/
theorem basicBody_flatMap (cs rest : List Char) {fuel : Nat} (enough : cs.length < fuel) :
    basicBody fuel (cs.flatMap (quotedChar false) ++ '"' :: rest) = some (cs, rest) := by
  induction cs generalizing fuel with
  | nil =>
    obtain ⟨fuel, rfl⟩ := Nat.exists_eq_succ_of_ne_zero (Nat.ne_of_gt enough)
    rfl
  | cons c cs ih =>
    obtain ⟨fuel, rfl⟩ := Nat.exists_eq_succ_of_ne_zero (Nat.ne_of_gt (Nat.zero_lt_of_lt enough))
    rw [List.flatMap_cons, List.append_assoc, basicBody_quoted (quoted_quotedChar false c),
      ih (Nat.lt_of_succ_lt_succ enough)]
    rfl

theorem closingQuotes?_of_ne {quote c : Char} (h : c ≠ quote) (rest : List Char) :
    closingQuotes? quote (c :: rest) = none := by
  simp [closingQuotes?, h]

/-- Three quotes close a long text if no further one follows. -/
theorem closingQuotes?_three {quote : Char} {rest : List Char} (h : rest.head? ≠ some quote) :
    closingQuotes? quote (quote :: quote :: quote :: rest) = some ([], rest) := by
  cases rest with
  | nil => simp [closingQuotes?]
  | cons c rest =>
    have other : c ≠ quote := by simpa using h
    simp [closingQuotes?, other]

theorem skipBlanks_of_not_blank {c : Char} (h : isBlank c = false) (rest : List Char) :
    skipBlanks (c :: rest) = c :: rest := by
  simp [skipBlanks, h]

theorem lineBreak?_of_ne {c : Char} (h : c ≠ '\n' ∧ c ≠ '\r') (rest : List Char) :
    lineBreak? (c :: rest) = none := by
  unfold lineBreak?
  split
  · next same => exact absurd (List.cons.inj same).1 h.1
  · next same => exact absurd (List.cons.inj same).1 h.2
  · rfl

theorem isVisible_ne {c : Char} (h : isVisible c = true) : c ≠ '\n' ∧ c ≠ '\r' := by
  constructor
  · rintro rfl
    revert h
    decide
  · rintro rfl
    revert h
    decide

theorem longBody_quoted {c : Char} {code : List Char} (h : Quoted true c code) (fuel : Nat)
    (rest : List Char) :
    longBody '"' true (fuel + 1) (code ++ rest) = withChar c (longBody '"' true fuel rest) := by
  cases h with
  | @escaped c letter digits reads visible inLine =>
    have continued : skipContinuation (letter :: digits ++ rest) = none := by
      rw [skipContinuation, List.cons_append, skipBlanks_of_not_blank visible,
        lineBreak?_of_ne inLine]
      rfl
    simp only [List.cons_append] at reads continued ⊢
    simp only [longBody, closingQuotes?_of_ne (show '\\' ≠ '"' by decide), continued, reads,
      Option.bind_eq_bind, Option.bind_some]
    cases longBody '"' true fuel rest <;> rfl
  | plain visible unquoted =>
    rw [List.singleton_append, longBody, closingQuotes?_of_ne unquoted.1]
    simp only [lineBreak?_of_ne (isVisible_ne visible), visible, beq_eq_false_iff_ne.2 unquoted.2]
    cases longBody '"' true fuel rest <;> rfl
  | lineBreak _ =>
    rw [List.singleton_append, longBody, closingQuotes?_of_ne (by decide)]
    simp only [lineBreak?]
    cases longBody '"' true fuel rest <;> rfl

/-- Text over several lines is read back up to the closing quotes. -/
theorem longBody_flatMap (cs : List Char) {rest : List Char} (h : rest.head? ≠ some '"')
    {fuel : Nat} (enough : cs.length < fuel) :
    longBody '"' true fuel (cs.flatMap (quotedChar true) ++ '"' :: '"' :: '"' :: rest) =
      some (cs, rest) := by
  induction cs generalizing fuel with
  | nil =>
    obtain ⟨fuel, rfl⟩ := Nat.exists_eq_succ_of_ne_zero (Nat.ne_of_gt enough)
    rw [List.flatMap_nil, List.nil_append, longBody, closingQuotes?_three h]
  | cons c cs ih =>
    obtain ⟨fuel, rfl⟩ := Nat.exists_eq_succ_of_ne_zero (Nat.ne_of_gt (Nat.zero_lt_of_lt enough))
    rw [List.flatMap_cons, List.append_assoc, longBody_quoted (quoted_quotedChar true c),
      ih (Nat.lt_of_succ_lt_succ enough)]
    rfl

/-! ## Bodies in single quotes -/

theorem literalBody_append {cs : List Char} (h : ∀ c ∈ cs, c ≠ '\'' ∧ isVisible c = true)
    (rest : List Char) : literalBody (cs ++ '\'' :: rest) = some (cs, rest) := by
  have all : ∀ c ∈ cs, (c != '\'' && isVisible c) = true := by
    intro c hc
    simp [h c hc]
  have body : (cs ++ '\'' :: rest).takeWhile (fun c => c != '\'' && isVisible c) = cs := by
    rw [List.takeWhile_append_of_pos all]
    simp
  simp only [literalBody, body, List.drop_left]

theorem le_longestRun (c : Char) (current best : Nat) (cs : List Char) :
    best ≤ longestRun c current best cs := by
  induction cs generalizing current best with
  | nil => exact Nat.le_max_right current best
  | cons d cs ih =>
    rw [longestRun]
    split
    · exact ih (current + 1) best
    · exact Nat.le_trans (Nat.le_max_right current best) (ih 0 _)

/-- The run at the beginning of a text counts together with what has been counted before. -/
theorem takeWhile_le_longestRun (c : Char) (current best : Nat) (cs : List Char) :
    current + (cs.takeWhile (· == c)).length ≤ longestRun c current best cs := by
  induction cs generalizing current best with
  | nil => exact Nat.le_max_left current best
  | cons d cs ih =>
    rw [longestRun]
    split
    · next same =>
      have counted := ih (current + 1) best
      simp only [same, List.takeWhile_cons, beq_self_eq_true, if_true, List.length_cons]
      omega
    · next other =>
      have counted := le_longestRun c 0 (max current best) cs
      simp only [List.takeWhile_cons, beq_eq_false_iff_ne.2 other]
      exact Nat.le_trans (Nat.le_max_left current best) counted

/-- Fewer than three quotes close nothing. -/
theorem closingQuotes?_of_run {quote : Char} {cs : List Char}
    (short : (cs.takeWhile (· == quote)).length < 3) (ends : ∃ c ∈ cs, c ≠ quote)
    (rest : List Char) : closingQuotes? quote (cs ++ rest) = none := by
  have run : (cs ++ rest).takeWhile (· == quote) = cs.takeWhile (· == quote) := by
    rw [List.takeWhile_append, if_neg]
    intro whole
    obtain ⟨c, hc, other⟩ := ends
    have all : cs.takeWhile (· == quote) = cs :=
      (List.takeWhile_prefix (· == quote)).eq_of_length whole
    rw [← all] at hc
    exact other (beq_iff_eq.1 (List.all_eq_true.1 List.all_takeWhile c hc))
  rw [closingQuotes?, ← List.take_takeWhile, run, if_pos]
  exact Nat.lt_of_le_of_lt (by rw [List.length_take]; omega) short

/-- Text between three single quotes is read back, if it does not end in a quote and no three quotes in
it come together. The runs of quotes are counted on from what has been read before. -/
theorem longBody_append {cs rest : List Char} (h : rest.head? ≠ some '\'')
    (plain : ∀ c ∈ cs, isVisible c = true ∨ c = '\n') (last : cs.getLast? ≠ some '\'')
    {current best fuel : Nat} (short : longestRun '\'' current best cs < 3)
    (enough : cs.length < fuel) :
    longBody '\'' false fuel (cs ++ '\'' :: '\'' :: '\'' :: rest) = some (cs, rest) := by
  induction cs generalizing current best fuel with
  | nil =>
    obtain ⟨fuel, rfl⟩ := Nat.exists_eq_succ_of_ne_zero (Nat.ne_of_gt enough)
    rw [List.nil_append, longBody, closingQuotes?_three h]
  | cons c cs ih =>
    obtain ⟨fuel, rfl⟩ := Nat.exists_eq_succ_of_ne_zero (Nat.ne_of_gt (Nat.zero_lt_of_lt enough))
    have ends : ∃ d ∈ c :: cs, d ≠ '\'' := by
      refine ⟨(c :: cs).getLast (List.cons_ne_nil c cs), List.getLast_mem _, fun same => last ?_⟩
      rw [List.getLast?_eq_some_getLast (List.cons_ne_nil c cs), same]
    have run := takeWhile_le_longestRun '\'' current best (c :: cs)
    -- the quotes that stand here are fewer than three and do not reach the closing ones
    have unclosed := closingQuotes?_of_run (by omega) ends ('\'' :: '\'' :: '\'' :: rest)
    have tail : longBody '\'' false fuel (cs ++ '\'' :: '\'' :: '\'' :: rest) =
        some (cs, rest) := by
      have last' : cs.getLast? ≠ some '\'' := by
        cases cs with
        | nil => simp
        | cons d cs => rwa [List.getLast?_cons_cons] at last
      rw [longestRun] at short
      split at short
      · exact ih (fun d hd => plain d (List.mem_cons_of_mem c hd)) last' short
          (Nat.lt_of_succ_lt_succ enough)
      · exact ih (fun d hd => plain d (List.mem_cons_of_mem c hd)) last' short
          (Nat.lt_of_succ_lt_succ enough)
    rw [List.cons_append] at unclosed ⊢
    rw [longBody, unclosed]
    simp only [Bool.false_and, Bool.false_eq_true, if_false]
    rcases plain c List.mem_cons_self with visible | rfl
    · simp only [lineBreak?_of_ne (isVisible_ne visible), visible, tail]
      rfl
    · simp only [lineBreak?, tail]
      rfl

/-! ## Whole texts -/

/-- The line break behind opening quotes is not part of the text. -/
theorem long_of_lineBreak (quote : Char) (escapes : Bool) (cs : List Char) :
    long quote escapes ('\n' :: cs) = longBody quote escapes (cs.length + 1) cs := rfl

theorem long_of_inLine (quote : Char) (escapes : Bool) {cs : List Char}
    (h : lineBreak? cs = none) :
    long quote escapes cs = longBody quote escapes (cs.length + 1) cs := by
  rw [long, h]
  rfl

theorem anyString_of_ne {quote : Char} {cs : List Char} (h : ∀ rest, cs ≠ quote :: quote :: rest) :
    anyString (quote :: cs) = shortString (quote :: cs) := by
  unfold anyString
  split
  · next same =>
    cases same
    exact absurd rfl (h _)
  · next same =>
    cases same
    exact absurd rfl (h _)
  · rfl

theorem head?_lineBreak {quote : Char} (h : quote ≠ '\n') (rest : List Char) :
    ('\n' :: rest).head? ≠ some quote := by
  simpa using h.symm

theorem anyString_basic (s : String) (rest : List Char) :
    anyString ('"' :: (s.toList.flatMap (quotedChar false) ++ '"' :: '\n' :: rest)) =
      some (s, '\n' :: rest) := by
  have single : ∀ more, s.toList.flatMap (quotedChar false) ++ '"' :: '\n' :: rest ≠
      '"' :: '"' :: more := by
    intro more
    cases s.toList with
    | nil => simp
    | cons c cs =>
      obtain ⟨first, others, code, other⟩ := (quoted_quotedChar false c).exists_cons
      simp [code, other]
  have enough := length_le_flatMap_quotedChar false s.toList
  rw [anyString_of_ne single, shortString, basicBody_flatMap s.toList ('\n' :: rest)]
  · simp
  · simp only [List.length_append, List.length_cons]
    omega

theorem anyString_longBasic (s : String) (rest : List Char) :
    anyString ('"' :: '"' :: '"' :: '\n' :: (s.toList.flatMap (quotedChar true) ++
      '"' :: '"' :: '"' :: '\n' :: rest)) = some (s, '\n' :: rest) := by
  have enough := length_le_flatMap_quotedChar true s.toList
  rw [anyString, long_of_lineBreak,
    longBody_flatMap s.toList (head?_lineBreak (by decide) rest)]
  · simp
  · simp only [List.length_append, List.length_cons]
    omega

/-- Whether a text can be written without escapes, as the writer finds out. -/
theorem isPlain_iff {cs : List Char} :
    isPlain cs = true ↔ (∀ c ∈ cs, isVisible c = true ∨ c = '\n') ∧
      longestRun '\'' 0 0 cs < 3 ∧ cs.getLast? ≠ some '\'' := by
  simp only [isPlain, isVisible, Bool.and_eq_true, Bool.or_eq_true, List.all_eq_true, beq_iff_eq,
    decide_eq_true_eq, bne_iff_ne, and_assoc]
  have same : ∀ c : Char, ((c = '\t' ∨ c = '\n') ∨ 32 ≤ c.toNat ∧ c.toNat ≠ 127) ↔
      ((c = '\t' ∨ 32 ≤ c.toNat ∧ c.toNat ≠ 127) ∨ c = '\n') := by
    intro c
    rw [or_right_comm]
  simp only [same]

theorem anyString_literal {s : String} (plain : isPlain s.toList = true)
    (inLine : '\n' ∉ s.toList) (unquoted : '\'' ∉ s.toList) (present : s.toList ≠ [])
    (rest : List Char) :
    anyString ('\'' :: (s.toList ++ '\'' :: '\n' :: rest)) = some (s, '\n' :: rest) := by
  obtain ⟨visible, -, -⟩ := isPlain_iff.1 plain
  have each : ∀ c ∈ s.toList, c ≠ '\'' ∧ isVisible c = true := by
    intro c hc
    refine ⟨fun same => unquoted (same ▸ hc), (visible c hc).resolve_right fun same => ?_⟩
    exact inLine (same ▸ hc)
  have single : ∀ more, s.toList ++ '\'' :: '\n' :: rest ≠ '\'' :: '\'' :: more := by
    intro more same
    obtain ⟨c, cs, first⟩ := List.exists_cons_of_ne_nil present
    rw [first] at same each
    exact (each c List.mem_cons_self).1 (List.cons.inj same).1
  rw [anyString_of_ne single, shortString, literalBody_append each]
  simp

theorem anyString_longLiteral {s : String} (plain : isPlain s.toList = true) (rest : List Char) :
    anyString ('\'' :: '\'' :: '\'' :: ((if s.toList.contains '\n' then ['\n'] else []) ++
      (s.toList ++ '\'' :: '\'' :: '\'' :: '\n' :: rest))) = some (s, '\n' :: rest) := by
  obtain ⟨visible, short, last⟩ := isPlain_iff.1 plain
  have body : longBody '\'' false (s.toList ++ '\'' :: '\'' :: '\'' :: '\n' :: rest).length.succ
      (s.toList ++ '\'' :: '\'' :: '\'' :: '\n' :: rest) = some (s.toList, '\n' :: rest) := by
    apply longBody_append (head?_lineBreak (by decide) rest) visible last short
    simp only [List.length_append, List.length_cons]
    omega
  rw [anyString]
  by_cases isLong : '\n' ∈ s.toList
  · rw [if_pos (List.contains_iff_mem.2 isLong), List.singleton_append, long_of_lineBreak, body]
    simp
  · have inLine : lineBreak? (s.toList ++ '\'' :: '\'' :: '\'' :: '\n' :: rest) = none := by
      cases cs : s.toList with
      | nil => rfl
      | cons c cs' =>
        rw [cs] at visible isLong
        have first := (visible c List.mem_cons_self).resolve_right fun same =>
          isLong (same ▸ List.mem_cons_self)
        exact lineBreak?_of_ne (isVisible_ne first) _
    rw [if_neg (mt List.contains_iff_mem.1 isLong), List.nil_append, long_of_inLine _ _ inLine,
      body]
    simp

theorem anyString_quoteText (s : String) (rest : List Char) :
    anyString (quoteText s ++ '\n' :: rest) = some (s, '\n' :: rest) := by
  unfold quoteText
  simp only
  split
  · next plain =>
    obtain ⟨plain, marked⟩ := Bool.and_eq_true_iff.1 plain
    split
    · simpa using anyString_longLiteral plain rest
    · next inLine =>
      simp only [Bool.or_eq_true, List.contains_iff_mem, not_or] at inLine
      have present : s.toList ≠ [] := by
        intro empty
        rw [empty] at marked
        cases marked
      simpa [inLine.1] using anyString_literal plain inLine.1 inLine.2 present rest
  · split
    · next isLong =>
      rw [isLong]
      simpa using anyString_longBasic s rest
    · next inLine =>
      rw [Bool.eq_false_iff.2 inLine]
      simpa using anyString_basic s rest

end SchemaFilter.Config
